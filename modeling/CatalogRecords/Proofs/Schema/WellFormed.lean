import CatalogRecords.Proofs.Schema.CanonicalOrder
import CatalogRecords.Proofs.Schema.Violations

/-!
# Well-formed definitions

A definition is well-formed by conditions on its elements taken one by one and on the elements that
stand beside each other, with no order among them. It is what building accepts. The list of what is
wrong, from which building takes the first entry, is gone through condition by condition here: what
it asks of an element where it stands is asked of the element by the definition, and what it asks of
the elements before it in the same list makes the identifiers in that list distinct.
-/

namespace CatalogRecords

open ElementDefinition

/-- In preorder a definition comes before all that is inside it. -/
theorem preorder_eq (d : ElementDefinition) : d.preorder = d :: preorderAll d.fields := by
  cases d with
  | leaf a => rw [preorder, fields, preorderAll]
  | group a fs => rw [preorder, fields]

namespace DocumentTypeDefinition

variable (d : DocumentTypeDefinition)

/-- All elements of a definition. -/
def allElements : List ElementDefinition := preorderAll d.paragraphs

/-- The elements inside the paragraphs. -/
def nestedElements : List ElementDefinition :=
  d.paragraphs.flatMap fun paragraph => preorderAll paragraph.fields

/-- The elements that hold others: the paragraphs, and inside them the ones with fields. -/
def containers : List ElementDefinition := d.paragraphs ++ d.nestedElements.filter isGroup

/-- The elements that hold a value. -/
def simpleFields : List ElementDefinition := d.nestedElements.filter fun x => !x.isGroup

/-- The lists of elements that stand beside each other. -/
def siblingLists : List (List ElementDefinition) := d.paragraphs :: d.allElements.map fields

/-- A definition that breaks no rule. -/
structure IsWellFormed [PatternEngine] : Prop where
  sids : ∀ sid ∈ d.sid :: sidsOf d.allElements, Text.isBlankText sid = false ∧ IsDotFree sid
  siblings : ∀ ds ∈ d.siblingLists, (sidsOf ds).Nodup
  containers : ∀ x ∈ d.containers, ∀ setting, x.attributes.sets setting = false
  fixedLengths : ∀ x ∈ d.simpleFields, x.attributes.fixedLength = true → 0 < x.attributes.length
  validationPatterns : ∀ x ∈ d.simpleFields, ∀ source,
    x.attributes.validationPattern = some source → source ≠ "" →
      (compileWhole? source).isSome = true
  extractionPatterns : ∀ x ∈ d.simpleFields, ∀ source,
    x.attributes.extractionPattern = some source → source ≠ "" →
      (Pattern.compile? source).isSome = true

end DocumentTypeDefinition

/-! What is asked of an element alone. -/

/-- An identifier is a text that is not blank and has no dot. -/
theorem isSid_iff {sid : String} :
    isSid sid = true ↔ Text.isBlankText sid = false ∧ IsDotFree sid := by
  rw [isSid, Bool.and_eq_true, Bool.not_eq_true', Bool.not_eq_true', IsDotFree,
    ← List.contains_iff_mem, Bool.not_eq_true]

/-- A pattern is accepted if there is none, if its source is empty, or if the source compiles. -/
theorem compiles_iff {compile? : String → Option Pattern} {source? : Option String} :
    compiles compile? source? = true ↔
      ∀ source, source? = some source → source ≠ "" → (compile? source).isSome = true := by
  rw [compiles, patternSource?]
  cases source? with
  | none => simp
  | some source =>
    rw [Option.filter_some]
    by_cases hempty : source = ""
    · simp [hempty]
    · simp [hempty]

/-- There is no first attribute of simple fields exactly if none is set, since the search goes
through all of them. -/
theorem firstFieldAttribute?_eq_none_iff {a : ElementAttributes} :
    a.firstFieldAttribute? = none ↔ ∀ setting, a.sets setting = false := by
  rw [ElementAttributes.firstFieldAttribute?, List.find?_eq_none]
  constructor
  · intro h setting
    exact Bool.not_eq_true _ ▸ h setting (by cases setting <;> decide)
  · intro h setting _
    rw [h setting]
    decide

/-- The attributes of a simple field keep the rules. -/
structure ElementAttributes.SuitField [PatternEngine] (a : ElementAttributes) : Prop where
  fixedLength : a.fixedLength = true → 0 < a.length
  validation : compiles compileWhole? a.validationPattern = true
  extraction : compiles Pattern.compile? a.extractionPattern = true

namespace Occurrence

variable {o : Occurrence}

/-- Nothing is wrong with an element that holds others if it sets no attribute of simple fields. -/
theorem containerViolations_eq_nil_iff : o.containerViolations = [] ↔
    ∀ setting, o.definition.attributes.sets setting = false := by
  rw [containerViolations, Option.toList_eq_nil_iff, Option.map_eq_none_iff,
    firstFieldAttribute?_eq_none_iff]

/-- Nothing is wrong with a simple field if its attributes keep the rules. -/
theorem fieldViolations_eq_nil_iff [PatternEngine] :
    o.fieldViolations = [] ↔ o.definition.attributes.SuitField := by
  have hlength (a : ElementAttributes) : (!a.fixedLength || a.length != 0) = true ↔
      (a.fixedLength = true → 0 < a.length) := by
    cases a.fixedLength <;> simp [Nat.pos_iff_ne_zero]
  rw [fieldViolations]
  simp only [List.append_eq_nil_iff, errorUnless_eq_nil_iff, hlength]
  constructor
  · rintro ⟨⟨hfixed, hvalidation⟩, hextraction⟩
    exact ⟨hfixed, hvalidation, hextraction⟩
  · exact fun h => ⟨⟨h.fixedLength, h.validation⟩, h.extraction⟩

end Occurrence

/-! Elements and occurrences. -/

/-- An element with the question whether it is a paragraph. -/
def Occurrence.role (o : Occurrence) : Bool × ElementDefinition := (o.isParagraph, o.definition)

mutual

/-- An element stands before what is inside it, and nothing inside it is a paragraph. -/
theorem map_role_occurrences {parentPath : String} {isParagraph : Bool}
    {before : List ElementDefinition} : (d : ElementDefinition) →
    (d.occurrences parentPath isParagraph before).map Occurrence.role =
      (isParagraph, d) :: (preorderAll d.fields).map (Prod.mk false)
  | .leaf a => by
    rw [occurrences, fields, preorderAll]
    rfl
  | .group a fs => by
    rw [occurrences, fields, List.map_cons, map_role_occurrencesIn fs]
    rfl

/-- What is inside an element are the definitions in depth-first order, none of them a
paragraph. -/
theorem map_role_occurrencesIn {parentPath : String} {before : List ElementDefinition} :
    (ds : List ElementDefinition) →
    (occurrencesIn parentPath false before ds).map Occurrence.role =
      (preorderAll ds).map (Prod.mk false)
  | [] => by
    rw [occurrencesIn, preorderAll]
    rfl
  | d :: ds => by
    rw [occurrencesIn, preorderAll, preorder_eq, List.map_append, map_role_occurrences d,
      map_role_occurrencesIn ds, List.map_append, List.map_cons]

end

/-- What holds of all elements where they stand holds of the paragraphs and of what they hold. -/
theorem forall_occurrencesIn_iff {P : Bool → ElementDefinition → Prop} {parentPath : String}
    {before : List ElementDefinition} (ds : List ElementDefinition) :
    (∀ o ∈ occurrencesIn parentPath true before ds, P o.isParagraph o.definition) ↔
      (∀ x ∈ ds, P true x) ∧ ∀ x ∈ ds.flatMap fun y => preorderAll y.fields, P false x := by
  induction ds generalizing before with
  | nil => simp [occurrencesIn]
  | cons d ds ih =>
    have hfirst : (∀ o ∈ d.occurrences parentPath true before, P o.isParagraph o.definition) ↔
        P true d ∧ ∀ x ∈ preorderAll d.fields, P false x := by
      have hmap := List.forall_mem_map (f := Occurrence.role)
        (l := d.occurrences parentPath true before) (P := fun r => P r.1 r.2)
      rw [map_role_occurrences, List.forall_mem_cons, List.forall_mem_map] at hmap
      exact hmap.symm
    rw [occurrencesIn, List.forall_mem_append, hfirst, ih, List.forall_mem_cons,
      List.flatMap_cons, List.forall_mem_append]
    exact and_and_and_comm

/-- An element of several definitions is one of them or inside one of them. -/
theorem mem_preorderAll_iff {x : ElementDefinition} (ds : List ElementDefinition) :
    x ∈ preorderAll ds ↔ x ∈ ds ∨ x ∈ ds.flatMap fun y => preorderAll y.fields := by
  induction ds with
  | nil => simp [preorderAll]
  | cons d ds ih =>
    rw [preorderAll, preorder_eq, List.mem_append, List.mem_cons, ih, List.mem_cons,
      List.flatMap_cons, List.mem_append]
    exact or_or_or_comm

/-! Elements beside each other. -/

/-- Where there is no element no identifier comes twice. -/
theorem nodup_sidsOf_nil : (sidsOf []).Nodup := List.nodup_nil

/-- Identifiers stay distinct if one is added that was not among them. -/
theorem nodup_sidsOf_concat {before : List ElementDefinition} {d : ElementDefinition} :
    (sidsOf (before ++ [d])).Nodup ↔ d.attributes.sid ∉ sidsOf before ∧ (sidsOf before).Nodup := by
  rw [sidsOf, List.map_append, List.map_singleton, ← List.concat_eq_append, List.nodup_concat]
  rfl

mutual

/-- That no element of a definition has the identifier of one before it is a condition on the
definition and on each list of fields in it. -/
theorem forall_isNew_occurrences {parentPath : String} {isParagraph : Bool}
    {before : List ElementDefinition} : (d : ElementDefinition) →
    ((∀ o ∈ d.occurrences parentPath isParagraph before, o.sid ∉ sidsOf o.before) ↔
      d.attributes.sid ∉ sidsOf before ∧ ∀ x ∈ d.preorder, (sidsOf x.fields).Nodup)
  | .leaf a => by
    rw [occurrences, preorder, List.forall_mem_singleton, List.forall_mem_singleton]
    exact (and_iff_left List.nodup_nil).symm
  | .group a fs => by
    rw [occurrences, preorder, List.forall_mem_cons, List.forall_mem_cons,
      forall_isNew_occurrencesIn fs nodup_sidsOf_nil]
    rfl

/-- That no element has the identifier of one before it makes the identifiers of elements beside
each other distinct. -/
theorem forall_isNew_occurrencesIn {parentPath : String} {isParagraph : Bool}
    {before : List ElementDefinition} : (ds : List ElementDefinition) →
    (sidsOf before).Nodup →
    ((∀ o ∈ occurrencesIn parentPath isParagraph before ds, o.sid ∉ sidsOf o.before) ↔
      (sidsOf (before ++ ds)).Nodup ∧ ∀ x ∈ preorderAll ds, (sidsOf x.fields).Nodup)
  | [], hbefore => by
    rw [occurrencesIn, preorderAll, List.append_nil]
    exact iff_of_true (fun _ h => absurd h List.not_mem_nil)
      ⟨hbefore, fun _ h => absurd h List.not_mem_nil⟩
  | d :: ds, hbefore => by
    have hsplit : before ++ d :: ds = before ++ [d] ++ ds := (List.append_cons before d ds)
    rw [occurrencesIn, preorderAll, List.forall_mem_append, List.forall_mem_append,
      forall_isNew_occurrences d, hsplit]
    constructor
    · rintro ⟨⟨hnew, hd⟩, hds⟩
      obtain ⟨hall, hin⟩ := (forall_isNew_occurrencesIn ds
        (nodup_sidsOf_concat.mpr ⟨hnew, hbefore⟩)).mp hds
      exact ⟨hall, hd, hin⟩
    · rintro ⟨hall, hd, hin⟩
      have hnext : (sidsOf (before ++ [d])).Nodup := by
        rw [sidsOf, List.map_append] at hall
        exact hall.of_append_left
      exact ⟨⟨(nodup_sidsOf_concat.mp hnext).1, hd⟩,
        (forall_isNew_occurrencesIn ds hnext).mpr ⟨hall, hin⟩⟩

end

mutual

/-- An element of a definition is the definition itself, or stands in a list of fields after those
that come before it. -/
theorem siblings_of_mem_occurrences {parentPath : String} {isParagraph : Bool}
    {before : List ElementDefinition} {o : Occurrence} : (d : ElementDefinition) →
    o ∈ d.occurrences parentPath isParagraph before →
      (o.before = before ∧ o.definition = d) ∨
        ∃ x ∈ d.preorder, o.before ++ [o.definition] <+: x.fields
  | .leaf a, ho => by
    rw [occurrences, List.mem_singleton] at ho
    rw [ho]
    exact Or.inl ⟨rfl, rfl⟩
  | .group a fs, ho => by
    rw [occurrences] at ho
    rw [preorder]
    rcases List.mem_cons.mp ho with rfl | ho
    · exact Or.inl ⟨rfl, rfl⟩
    · rcases siblings_of_mem_occurrencesIn fs ho with hstands | ⟨x, hx, hstands⟩
      · exact Or.inr ⟨_, List.mem_cons_self, hstands⟩
      · exact Or.inr ⟨x, List.mem_cons_of_mem _ hx, hstands⟩

/-- An element stands in a list of elements beside each other, after those that come before it. -/
theorem siblings_of_mem_occurrencesIn {parentPath : String} {isParagraph : Bool}
    {before : List ElementDefinition} {o : Occurrence} : (ds : List ElementDefinition) →
    o ∈ occurrencesIn parentPath isParagraph before ds →
      o.before ++ [o.definition] <+: before ++ ds ∨
        ∃ x ∈ preorderAll ds, o.before ++ [o.definition] <+: x.fields
  | d :: ds, ho => by
    rw [occurrencesIn] at ho
    rw [preorderAll, List.append_cons before d ds]
    rcases List.mem_append.mp ho with ho | ho
    · rcases siblings_of_mem_occurrences d ho with ⟨hbefore, hd⟩ | ⟨x, hx, hstands⟩
      · rw [hbefore, hd]
        exact Or.inl (List.prefix_append _ _)
      · exact Or.inr ⟨x, List.mem_append_left _ hx, hstands⟩
    · rcases siblings_of_mem_occurrencesIn ds ho with hstands | ⟨x, hx, hstands⟩
      · exact Or.inl hstands
      · exact Or.inr ⟨x, List.mem_append_right _ hx, hstands⟩

end

namespace DocumentTypeDefinition

variable {d : DocumentTypeDefinition}

/-- Each element of a document type stands in one of the lists of elements beside each other. -/
theorem exists_siblings_of_mem_occurrences {o : Occurrence} (ho : o ∈ d.occurrences) :
    ∃ siblings ∈ d.siblingLists, o.before ++ [o.definition] <+: siblings := by
  rcases siblings_of_mem_occurrencesIn d.paragraphs ho with hstands | ⟨x, hx, hstands⟩
  · exact ⟨d.paragraphs, List.mem_cons_self, hstands⟩
  · exact ⟨x.fields, List.mem_cons_of_mem _ (List.mem_map_of_mem hx), hstands⟩

/-- What holds of all elements where they stand holds of the paragraphs as paragraphs and of the
elements in them as others. -/
theorem forall_occurrences_iff {P : Bool → ElementDefinition → Prop} :
    (∀ o ∈ d.occurrences, P o.isParagraph o.definition) ↔
      (∀ x ∈ d.paragraphs, P true x) ∧ ∀ x ∈ d.nestedElements, P false x :=
  forall_occurrencesIn_iff d.paragraphs

/-- What holds of all elements holds of the paragraphs and of what is in them. -/
theorem forall_allElements_iff {P : ElementDefinition → Prop} :
    (∀ x ∈ d.allElements, P x) ↔ (∀ x ∈ d.paragraphs, P x) ∧ ∀ x ∈ d.nestedElements, P x := by
  rw [← List.forall_mem_append]
  refine forall_congr' fun x => imp_congr_left ?_
  rw [allElements, mem_preorderAll_iff, List.mem_append]
  rfl

/-- The identifiers that are checked are that of the document type and those of all elements. -/
theorem forall_isSid_iff : (isSid d.sid = true ∧ ∀ o ∈ d.occurrences, isSid o.sid = true) ↔
    ∀ sid ∈ d.sid :: sidsOf d.allElements, Text.isBlankText sid = false ∧ IsDotFree sid := by
  have helements : (∀ o ∈ d.occurrences, isSid o.sid = true) ↔
      ∀ x ∈ d.allElements, isSid x.attributes.sid = true :=
    (forall_occurrences_iff (P := fun _ x => isSid x.attributes.sid = true)).trans
      forall_allElements_iff.symm
  rw [helements, sidsOf, List.forall_mem_cons, List.forall_mem_map]
  simp only [isSid_iff]

/-- No element has the identifier of one before it exactly if the identifiers in each list are
distinct. -/
theorem forall_isNew_iff : (∀ o ∈ d.occurrences, o.sid ∉ sidsOf o.before) ↔
    ∀ ds ∈ d.siblingLists, (sidsOf ds).Nodup := by
  rw [occurrences, forall_isNew_occurrencesIn d.paragraphs nodup_sidsOf_nil, siblingLists,
    List.forall_mem_cons, List.forall_mem_map]
  rfl

/-- The attributes are asked of paragraphs and groups in one way, and of simple fields in the
other. -/
theorem forall_attributes_iff [PatternEngine] :
    (∀ o ∈ d.occurrences,
      (if o.isContainer then o.containerViolations else o.fieldViolations) = []) ↔
      (∀ x ∈ d.containers, ∀ setting, x.attributes.sets setting = false) ∧
        ∀ x ∈ d.simpleFields, x.attributes.SuitField := by
  have hasked (o : Occurrence) :
      (if o.isContainer then o.containerViolations else o.fieldViolations) = [] ↔
        if o.isParagraph || o.definition.isGroup then
          ∀ setting, o.definition.attributes.sets setting = false
        else o.definition.attributes.SuitField := by
    rw [Occurrence.isContainer]
    split
    · exact Occurrence.containerViolations_eq_nil_iff
    · exact Occurrence.fieldViolations_eq_nil_iff
  have hsplit (x : ElementDefinition) :
      (if false || x.isGroup then ∀ setting, x.attributes.sets setting = false
        else x.attributes.SuitField) ↔
        (x.isGroup = true → ∀ setting, x.attributes.sets setting = false) ∧
          ((!x.isGroup) = true → x.attributes.SuitField) := by
    cases x.isGroup <;> simp
  simp only [hasked]
  rw [forall_occurrences_iff (P := fun isParagraph x => if isParagraph || x.isGroup then
    ∀ setting, x.attributes.sets setting = false else x.attributes.SuitField)]
  simp only [hsplit, containers, simpleFields, List.forall_mem_append, List.mem_filter, and_imp,
    forall_and, Bool.true_or, if_true, and_assoc]

/-- Nothing is wrong with exactly the well-formed definitions. -/
theorem violations_eq_nil_iff [PatternEngine] : d.violations = [] ↔ d.IsWellFormed := by
  rw [violations, List.append_eq_nil_iff, errorUnless_eq_nil_iff, List.flatMap_eq_nil_iff]
  simp only [Occurrence.violations_eq_nil_iff, forall_and]
  rw [forall_isNew_iff, forall_attributes_iff]
  constructor
  · rintro ⟨hsid, ⟨hsids, hsiblings⟩, hcontainers, hfields⟩
    exact ⟨forall_isSid_iff.mp ⟨hsid, hsids⟩, hsiblings, hcontainers,
      fun x hx => (hfields x hx).fixedLength,
      fun x hx => compiles_iff.mp (hfields x hx).validation,
      fun x hx => compiles_iff.mp (hfields x hx).extraction⟩
  · intro h
    obtain ⟨hsid, hsids⟩ := forall_isSid_iff.mpr h.sids
    exact ⟨hsid, ⟨hsids, h.siblings⟩, h.containers, fun x hx => ⟨h.fixedLengths x hx,
      compiles_iff.mpr (h.validationPatterns x hx), compiles_iff.mpr (h.extractionPatterns x hx)⟩⟩

end DocumentTypeDefinition

/-! What building accepts, and what it reports otherwise. -/

/-- The first entry in the list of what is wrong comes from the first element with which something
is wrong. -/
theorem head?_flatMap_violations_eq_some_iff [PatternEngine] {os : List Occurrence}
    {error : SchemaError} :
    (os.flatMap Occurrence.violations).head? = some error ↔
      ∃ before o after, os = before ++ o :: after ∧ (∀ x ∈ before, x.violations = []) ∧
        o.violations.head? = some error := by
  simp only [List.head?_flatMap, List.findSome?_eq_some_iff, List.head?_eq_none_iff,
    and_comm (a := _ = some error)]

/-- Building reports the identifier of the document type, if that is none, and else the first error
there is with the first element with which something is wrong. -/
theorem DocumentType.build_eq_error_iff [PatternEngine] {d : DocumentTypeDefinition}
    {error : SchemaError} :
    build d = .error error ↔
      (isSid d.sid = false ∧ error = .invalidSid d.sid) ∨
        (isSid d.sid = true ∧ ∃ before o after, d.occurrences = before ++ o :: after ∧
          (∀ x ∈ before, x.violations = []) ∧ o.violations.head? = some error) := by
  obtain ⟨t, ht⟩ := build_eq_report d
  rw [ht, report_eq_error_iff, DocumentTypeDefinition.violations, errorUnless]
  cases isSid d.sid with
  | false =>
    rw [or_iff_left (by simp), and_iff_right rfl, eq_comm]
    exact Option.some_inj
  | true =>
    rw [or_iff_right (by simp), and_iff_right rfl, ← head?_flatMap_violations_eq_some_iff]
    rfl

/-- Building accepts exactly the well-formed definitions. Otherwise it reports the identifier of the
document type, if that is none, and else the first error there is with the first element in
depth-first order with which something is wrong; the error names that element. A complete path comes
twice only because an element has the identifier of one before it in the same list. -/
theorem DocumentType.build_accepts_wellFormed [PatternEngine] (d : DocumentTypeDefinition) :
    ((∃ t, build d = .ok t) ↔ d.IsWellFormed) ∧
      (∀ error, build d = .error error ↔
        (isSid d.sid = false ∧ error = .invalidSid d.sid) ∨
          (isSid d.sid = true ∧ ∃ before o after, d.occurrences = before ++ o :: after ∧
            (∀ x ∈ before, x.violations = []) ∧ o.violations.head? = some error)) ∧
      (∀ o ∈ d.occurrences, ∀ error ∈ o.violations, o.IsNamedIn error) ∧
      ∀ path, build d = .error (.duplicatePath path) →
        ∃ o ∈ d.occurrences, o.path = path ∧
          ∃ siblings ∈ d.siblingLists, o.before ++ [o.definition] <+: siblings ∧
            ∃ x ∈ o.before, x.attributes.sid = o.sid := by
  refine ⟨?_, fun error => build_eq_error_iff,
    fun o _ error h => Occurrence.isNamedIn_of_mem_violations h, fun path h => ?_⟩
  · obtain ⟨t, ht⟩ := build_eq_report d
    rw [← DocumentTypeDefinition.violations_eq_nil_iff, ht]
    simp only [report_eq_ok_iff, exists_and_left, exists_eq', and_true]
  · rcases build_eq_error_iff.mp h with ⟨-, hsid⟩ | ⟨-, before, o, after, hsplit, -, hfirst⟩
    · cases hsid
    · have ho : o ∈ d.occurrences := hsplit ▸ List.mem_append_right _ List.mem_cons_self
      have hmem : .duplicatePath path ∈ o.violations := List.mem_of_head? hfirst
      have hpath : path = o.path := Occurrence.isNamedIn_of_mem_violations hmem
      obtain ⟨siblings, hsiblings, hstands⟩ :=
        DocumentTypeDefinition.exists_siblings_of_mem_occurrences ho
      exact ⟨o, ho, hpath.symm, siblings, hsiblings, hstands,
        List.mem_map.mp (Occurrence.of_duplicatePath_mem_violations hmem)⟩

/-- A definition with the same field twice. -/
def doubledDefinition : DocumentTypeDefinition where
  sid := "SI"
  paragraphs := [.group { sid := "CD" }
    [.leaf { sid := "TSK" }, .leaf { sid := "LIR" }, .leaf { sid := "TSK" }]]

/-- The definition of sites is well-formed. One with a field twice is not, and the second of the two
is reported. -/
theorem siteDefinition_isWellFormed :
    siteDefinition.IsWellFormed ∧ ¬doubledDefinition.IsWellFormed ∧
      ∃ o ∈ doubledDefinition.occurrences, o.path = "SI.CD.TSK" ∧
        ∃ x ∈ o.before, x.attributes.sid = o.sid := by
  have hdoubled : DocumentType.build doubledDefinition = .error (.duplicatePath "SI.CD.TSK") := rfl
  obtain ⟨haccepts, -, -, hduplicate⟩ := DocumentType.build_accepts_wellFormed doubledDefinition
  refine ⟨(DocumentType.build_accepts_wellFormed siteDefinition).1.mp
    ⟨siteType, build_siteDefinition⟩, fun h => ?_, ?_⟩
  · obtain ⟨t, ht⟩ := haccepts.mpr h
    rw [hdoubled] at ht
    cases ht
  · obtain ⟨o, ho, hpath, -, -, -, hbefore⟩ := hduplicate "SI.CD.TSK" hdoubled
    exact ⟨o, ho, hpath, hbefore⟩

end CatalogRecords
