import CatalogRecords.Proofs.Query.CheckedEvaluation
import CatalogRecords.Proofs.Document.Verdict

/-!
# Which fields evaluation fails for

Evaluation looks at the metafields of all conditions first, and then at one condition after the
other. It goes over all of them whatever the answers are, so that a faulty field is reported from
any place in the criteria. There is one gap: a condition on the name of the package or on the author
is answered from the record of the document, and the path in front of the metafield is not looked
at.
-/

namespace CatalogRecords.Query

variable {t : DocumentType} {convention : DecimalConvention} {d : Document} {r : FieldRef}
  {c : Condition}

/-! Single conditions. -/

/-- A field that a document of the type cannot be asked about: there is no such metafield, a single
document cannot answer for it, or the path does not stand for one element. -/
inductive FieldRef.IsFaulty (t : DocumentType) (r : FieldRef) : Prop where
  | unknown (name : String) (hmetafield : r.metafield = some name)
      (hname : Metafield.ofName? name = none)
  | stored (m : Metafield) (hknown : r.known? = some m) (hmemory : m.isInMemory = false)
  | path (error : PathError) (hpath : t.resolveUnique r.path = .error error)

/-- Whether a metafield is answered from the record of a document, without regard to a path. -/
def Metafield.isOfRecord (m : Metafield) : Bool := m.scope == .documentType && m.isInMemory

/-- The field of a condition is faulty, and the condition is not answered from the record. -/
def Condition.Fails (t : DocumentType) (c : Condition) : Prop :=
  (FieldRef.ofText c.field).IsFaulty t ∧
    ∀ m, (FieldRef.ofText c.field).known? = some m → m.isOfRecord = false

/-- A condition on what a single document cannot answer for fails. -/
theorem Condition.fails_of_stored {m : Metafield}
    (hknown : (FieldRef.ofText c.field).known? = some m) (hmemory : m.isInMemory = false) :
    c.Fails t := by
  refine ⟨.stored m hknown hmemory, fun m' hknown' => ?_⟩
  cases hknown.symm.trans hknown'
  rw [Metafield.isOfRecord, hmemory, Bool.and_false]

/-- A path that does not stand for one element is what makes a field without a metafield faulty. -/
theorem FieldRef.isFaulty_iff_of_text (hmetafield : r.metafield = none) :
    r.IsFaulty t ↔ ∃ error, t.resolveUnique r.path = .error error := by
  constructor
  · rintro (⟨name, hname, -⟩ | ⟨m, hknown, -⟩ | ⟨error, hpath⟩)
    · rw [hmetafield] at hname
      cases hname
    · rw [known?, hmetafield] at hknown
      cases hknown
    · exact ⟨error, hpath⟩
  · rintro ⟨error, hpath⟩
    exact .path error hpath

/-- A field with a known metafield is faulty if a single document cannot answer for it, or its path
does not stand for one element. -/
theorem FieldRef.isFaulty_iff_of_known {m : Metafield} (hknown : r.known? = some m) :
    r.IsFaulty t ↔ m.isInMemory = false ∨ ∃ error, t.resolveUnique r.path = .error error := by
  obtain ⟨name, hmetafield, hname⟩ := known?_eq_some_iff.mp hknown
  constructor
  · rintro (⟨name', hmetafield', hname'⟩ | ⟨m', hknown', hmemory⟩ | ⟨error, hpath⟩)
    · cases hmetafield.symm.trans hmetafield'
      cases hname.symm.trans hname'
    · cases hknown.symm.trans hknown'
      exact .inl hmemory
    · exact .inr ⟨error, hpath⟩
  · rintro (hmemory | ⟨error, hpath⟩)
    · exact .stored m hknown hmemory
    · exact .path error hpath

/-- What is done with a path is done without an error, so an error is one of the path. -/
theorem exists_bind_eq_error_iff {α β ε ε' : Type} {x : Except ε α} {wrap : ε → ε'}
    {f : α → Except ε' β} (hf : ∀ a, ∃ b, f a = .ok b) :
    (∃ error, (x.mapError wrap >>= f) = .error error) ↔ ∃ error, x = .error error := by
  cases x with
  | error error => exact ⟨fun _ => ⟨error, rfl⟩, fun _ => ⟨wrap error, rfl⟩⟩
  | ok a =>
    obtain ⟨b, hb⟩ := hf a
    have hbind : ((Except.ok a : Except ε α).mapError wrap >>= f) = .ok b := hb
    simp [hbind]

/-- A condition without a metafield is answered with an error exactly if its path does not stand for
one element. -/
theorem Condition.holds_fails_iff_of_text
    (hmetafield : (FieldRef.ofText c.field).metafield = none) :
    (∃ error, c.holds t convention d = .error error) ↔
      ∃ error, t.resolveUnique (FieldRef.ofText c.field).path = .error error := by
  simp only [Condition.holds, hmetafield]
  exact exists_bind_eq_error_iff fun path => ⟨_, rfl⟩

/-- A condition on a known metafield is answered with an error exactly if a single document cannot
answer for the metafield, or the path does not stand for one element and is looked at. -/
theorem Condition.holds_fails_iff_of_known {m : Metafield}
    (hknown : (FieldRef.ofText c.field).known? = some m) :
    (∃ error, c.holds t convention d = .error error) ↔
      (m.isInMemory = false ∨
        ∃ error, t.resolveUnique (FieldRef.ofText c.field).path = .error error) ∧
      m.isOfRecord = false := by
  obtain ⟨name, hmetafield, hname⟩ := FieldRef.known?_eq_some_iff.mp hknown
  simp only [Condition.holds, hmetafield, hname]
  cases m with
  | packageName => exact ⟨by rintro ⟨error, ⟨⟩⟩, fun h => by cases h.2⟩
  | authorId => exact ⟨by rintro ⟨error, ⟨⟩⟩, fun h => by cases h.2⟩
  | count =>
    refine (exists_bind_eq_error_iff fun path => ⟨_, rfl⟩).trans ?_
    simp [Metafield.isInMemory, Metafield.isOfRecord, Metafield.scope]
  | attachmentCount =>
    refine (exists_bind_eq_error_iff fun path => ⟨_, rfl⟩).trans ?_
    simp [Metafield.isInMemory, Metafield.isOfRecord, Metafield.scope]
  | asValue =>
    refine (exists_bind_eq_error_iff fun path => ?_).trans ?_
    · cases (t.field? path).bind fun field => field.coerce? convention c.literal with
      | none => exact ⟨_, rfl⟩
      | some target => exact ⟨_, rfl⟩
    · simp [Metafield.isInMemory, Metafield.isOfRecord, Metafield.scope]
  | _ => exact ⟨fun _ => ⟨.inl rfl, rfl⟩, fun _ => ⟨_, rfl⟩⟩

/-- A condition is answered with an error exactly if its field is faulty and it is not answered from
the record. -/
theorem Condition.holds_fails_iff :
    (∃ error, c.holds t convention d = .error error) ↔ c.Fails t := by
  cases hmetafield : (FieldRef.ofText c.field).metafield with
  | none =>
    have hknown : (FieldRef.ofText c.field).known? = none := by
      rw [FieldRef.known?, hmetafield, Option.bind_none]
    rw [holds_fails_iff_of_text hmetafield, Fails, FieldRef.isFaulty_iff_of_text hmetafield, hknown]
    simp
  | some name =>
    cases hname : Metafield.ofName? name with
    | none =>
      have hknown : (FieldRef.ofText c.field).known? = none := by
        rw [FieldRef.known?, hmetafield, Option.bind_some, hname]
      refine iff_of_true ⟨.unknownMetafield name, ?_⟩ ⟨.unknown name hmetafield hname, ?_⟩
      · simp only [Condition.holds, hmetafield, hname]
      · simp [hknown]
    | some m =>
      have hknown := FieldRef.known?_eq_some_iff.mpr ⟨name, hmetafield, hname⟩
      rw [holds_fails_iff_of_known hknown, Fails, FieldRef.isFaulty_iff_of_known hknown, hknown]
      simp

/-! Whole expressions. -/

namespace SearchExpression

variable {e : SearchExpression}

/-- On a document of the right type something goes wrong exactly if some condition fails. -/
theorem failure?_ne_none_iff (hsource : e.source = d.documentType) :
    e.failure? t convention d ≠ none ↔ ∃ c ∈ e.criteria.conditions, c.Fails t := by
  have hcondition (c : Condition) :
      ((∀ m, (FieldRef.ofText c.field).known? = some m → m.isInMemory = true) ∧
        ∃ value, c.holds t convention d = .ok value) ↔ ¬ c.Fails t := by
    have hanswer : (∃ value, c.holds t convention d = .ok value) ↔ ¬ c.Fails t := by
      have hfails : (∃ error, c.holds t convention d = .error error) ↔ c.Fails t :=
        Condition.holds_fails_iff
      rw [← hfails]
      cases c.holds t convention d <;> simp
    rw [hanswer, and_iff_right_iff_imp]
    intro hfails m hm
    by_contra hmemory
    exact hfails (Condition.fails_of_stored hm (Bool.eq_false_iff.mpr hmemory))
  rw [ne_eq, failure?_eq_none_iff]
  simp only [hsource, true_and, hcondition]
  simp

/-- Evaluation on a document of the right type ends with an error exactly if some condition, at any
depth, names a faulty field and is not answered from the record of the document. Whether it does is
decided by the fields of the conditions alone, whatever else the expression, the convention and the
document are. -/
theorem evaluate_fails_iff (e : SearchExpression) (t : DocumentType)
    (convention : DecimalConvention) (d : Document) (hsource : e.source = d.documentType) :
    ((∃ error, e.evaluate t convention d = .error error) ↔
      ∃ c ∈ e.criteria.conditions, (FieldRef.ofText c.field).IsFaulty t ∧
        ∀ m, (FieldRef.ofText c.field).known? = some m → m.isOfRecord = false) ∧
    ∀ (e' : SearchExpression) (convention' : DecimalConvention) (d' : Document),
      e'.source = d'.documentType →
      (∀ field, field ∈ e.criteria.conditions.map Condition.field ↔
        field ∈ e'.criteria.conditions.map Condition.field) →
      ((∃ error, e.evaluate t convention d = .error error) ↔
        ∃ error, e'.evaluate t convention' d' = .error error) := by
  have hfails (e : SearchExpression) (convention : DecimalConvention) (d : Document)
      (hsource : e.source = d.documentType) :
      (∃ error, e.evaluate t convention d = .error error) ↔
        ∃ c ∈ e.criteria.conditions, c.Fails t := by
    simp only [evaluate_eq_error_iff]
    rw [← Option.ne_none_iff_exists', failure?_ne_none_iff hsource]
  refine ⟨hfails e convention d hsource, fun e' convention' d' hsource' hfields => ?_⟩
  -- a condition fails because of its field
  have hmap (e : SearchExpression) : (∃ c ∈ e.criteria.conditions, c.Fails t) ↔
      ∃ field ∈ e.criteria.conditions.map Condition.field,
        Condition.Fails t ⟨field, .equal, ""⟩ := by
    simp only [List.mem_map, exists_exists_and_eq_and]
    rfl
  rw [hfails e convention d hsource, hfails e' convention' d' hsource', hmap, hmap]
  simp only [hfields]

/-- Sites with the object definition "SI", or without any `XYZ`, which is no element of a site. -/
def astray : SearchExpression where
  select := [allFields]
  source := "SI"
  criteria := { members := [
    .condition none ⟨"SI.CD.TSK", .equal, "SI"⟩,
    .group (some .orNot) [.condition none ⟨"XYZ._count", .greater, "0"⟩]] }

/-- The criteria the other way round. -/
def astrayFirst : SearchExpression where
  select := [allFields]
  source := "SI"
  criteria := { members := astray.criteria.members.reverse }

/-- The faulty field is reported although the first condition already holds, and also where it comes
first. -/
theorem evaluate_astray_fails :
    astray.source = Document.siteRecord.documentType ∧
      (∃ error, astray.evaluate siteType .point Document.siteRecord = .error error) ∧
      isMet (Condition.holds siteType .point Document.siteRecord)
        ⟨"SI.CD.TSK", .equal, "SI"⟩ = true ∧
      ∃ error, astrayFirst.evaluate siteType .comma { documentType := "SI" } = .error error := by
  have hmember : (⟨"XYZ._count", .greater, "0"⟩ : Condition) ∈ astray.criteria.conditions := by
    decide
  have hpath : siteType.resolveUnique (FieldRef.ofText "XYZ._count").path =
      .error (.notDefined "XYZ") := by decide
  have hfails : Condition.Fails siteType ⟨"XYZ._count", .greater, "0"⟩ := by
    refine ⟨.path _ hpath, fun m hm => ?_⟩
    have hcount : (FieldRef.ofText "XYZ._count").known? = some .count := by decide
    cases hcount.symm.trans hm
    rfl
  have hfields (field : String) : field ∈ astray.criteria.conditions.map Condition.field ↔
      field ∈ astrayFirst.criteria.conditions.map Condition.field := by
    have hreverse : astrayFirst.criteria.conditions.map Condition.field =
        (astray.criteria.conditions.map Condition.field).reverse := by decide
    rw [hreverse, List.mem_reverse]
  have hiff := evaluate_fails_iff astray siteType .point Document.siteRecord rfl
  have hastray := hiff.1.mpr ⟨_, hmember, hfails⟩
  exact ⟨rfl, hastray, by rfl, (hiff.2 astrayFirst .comma _ rfl hfields).mp hastray⟩

/-- Sites of the package "museo", asked for at a path that no element has. -/
def ofPackage : SearchExpression where
  select := [allFields]
  source := "SI"
  criteria := { members := [.condition none ⟨"XYZ._package_name", .equal, "museo"⟩] }

/-- A field with a path that does not stand for an element is answered all the same if it asks for
the package. -/
theorem evaluate_overlooks_path :
    (∃ c ∈ ofPackage.criteria.conditions, (FieldRef.ofText c.field).IsFaulty siteType) ∧
      ofPackage.evaluate siteType .point { documentType := "SI", packageName := "museo" } =
        .ok true := by
  refine ⟨⟨⟨"XYZ._package_name", .equal, "museo"⟩, by decide, ?_⟩, by rfl⟩
  exact .path (.notDefined "XYZ") (by decide)

end SearchExpression

end CatalogRecords.Query
