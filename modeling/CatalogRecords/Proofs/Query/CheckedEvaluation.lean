import CatalogRecords.Proofs.Query.Checking
import CatalogRecords.Proofs.Query.Evaluation

/-!
# Evaluating checked expressions

Checking and evaluation walk over the criteria on their own. They go by the same paths, metafields
and literals: on a document of the type it was checked against, a valid expression has an answer,
unless it asks for a metafield that a single document cannot answer for, and each literal that is
compared as a value or as a number converts.
-/

namespace CatalogRecords.Query

variable {t : DocumentType} {options : CheckOptions} {convention : DecimalConvention} {d : Document}
  {c : Condition} {path : String}

/-- A metafield that need not be stored is one that a single document can answer for. -/
theorem Metafield.isInMemory_of_not_isStorageOnly {m : Metafield} (h : m.isStorageOnly = false) :
    m.isInMemory = true := by
  revert h
  cases m <;> decide

/-- A metafield is known if there is a name and it stands for the metafield. -/
theorem FieldRef.known?_eq_some_iff {r : FieldRef} {m : Metafield} :
    r.known? = some m ↔ ∃ name, r.metafield = some name ∧ Metafield.ofName? name = some m := by
  rw [known?, Option.bind_eq_some_iff]

/-- A path that stands for one path alone is resolved to it. -/
theorem resolveUnique_of_resolveAll {partialPath : String} (h : t.resolveAll partialPath = [path]) :
    t.resolveUnique partialPath = .ok path := by
  rw [DocumentType.resolveUnique, h]

/-! What a condition asks of a document. -/

/-- A condition on a field without a metafield compares its texts. -/
theorem holds_text (hmetafield : (FieldRef.ofText c.field).metafield = none)
    (hpath : t.resolveUnique (FieldRef.ofText c.field).path = .ok path) :
    c.holds t convention d =
      .ok ((d.textsAt path).any fun text => c.comparator.holdsOfTexts text c.literal) := by
  simp only [Condition.holds, hmetafield, hpath]
  rfl

/-- What a condition on a metafield of an element compares its literal with. -/
def Condition.Compares (t : DocumentType) (convention : DecimalConvention) (d : Document)
    (c : Condition) (path : String) : Metafield → Prop
  | .asValue => ∃ field target, t.field? path = some field ∧
      field.coerce? convention c.literal = some target ∧
      c.holds t convention d =
        .ok ((d.valuesAt t path convention).any fun value =>
          c.comparator.holdsOfValues value target)
  | .count => ∃ target,
      Number.readInteger? (.unsigned 64) (Text.trim c.literal).toList = some target ∧
      c.holds t convention d =
        .ok (c.comparator.accepts (compare ((d.contentsAt path).length : Int) target))
  | .attachmentCount => ∃ target,
      Number.readInteger? (.unsigned 64) (Text.trim c.literal).toList = some target ∧
      c.holds t convention d =
        .ok (c.comparator.accepts (compare ((d.attachmentsOf path).length : Int) target))
  | _ => True

/-- A condition on the values of a simple field compares them with its literal if that converts. -/
theorem compares_asValue {field : SimpleField} {target : TypedValue}
    (hknown : (FieldRef.ofText c.field).known? = some .asValue)
    (hpath : t.resolveUnique (FieldRef.ofText c.field).path = .ok path)
    (hfield : t.field? path = some field)
    (htarget : field.coerce? convention c.literal = some target) :
    c.Compares t convention d path .asValue := by
  obtain ⟨name, hmetafield, hname⟩ := FieldRef.known?_eq_some_iff.mp hknown
  refine ⟨field, target, hfield, htarget, ?_⟩
  simp only [Condition.holds, hmetafield, hname, hpath]
  dsimp only [Except.mapError, bind, Except.bind]
  rw [hfield, Option.bind_some, htarget]
  rfl

/-- A count is compared with a literal that is a number. -/
theorem Comparator.holdsOfCount_eq {literal : String} {target : Int}
    (htarget : Number.readInteger? (.unsigned 64) (Text.trim literal).toList = some target)
    (comparator : Comparator) (count : Nat) :
    comparator.holdsOfCount count literal = comparator.accepts (compare (count : Int) target) := by
  rw [holdsOfCount, htarget]

/-- A condition on the number of elements compares it with its literal if that is a number. -/
theorem compares_count {target : Int}
    (hknown : (FieldRef.ofText c.field).known? = some .count)
    (hpath : t.resolveUnique (FieldRef.ofText c.field).path = .ok path)
    (htarget : Number.readInteger? (.unsigned 64) (Text.trim c.literal).toList = some target) :
    c.Compares t convention d path .count := by
  obtain ⟨name, hmetafield, hname⟩ := FieldRef.known?_eq_some_iff.mp hknown
  refine ⟨target, htarget, ?_⟩
  simp only [Condition.holds, hmetafield, hname, hpath]
  change Except.ok (c.comparator.holdsOfCount (d.contentsAt path).length c.literal) = _
  rw [Comparator.holdsOfCount_eq htarget]

/-- A condition on the number of attachments compares it with its literal if that is a number. -/
theorem compares_attachmentCount {target : Int}
    (hknown : (FieldRef.ofText c.field).known? = some .attachmentCount)
    (hpath : t.resolveUnique (FieldRef.ofText c.field).path = .ok path)
    (htarget : Number.readInteger? (.unsigned 64) (Text.trim c.literal).toList = some target) :
    c.Compares t convention d path .attachmentCount := by
  obtain ⟨name, hmetafield, hname⟩ := FieldRef.known?_eq_some_iff.mp hknown
  refine ⟨target, htarget, ?_⟩
  simp only [Condition.holds, hmetafield, hname, hpath]
  change Except.ok (c.comparator.holdsOfCount (d.attachmentsOf path).length c.literal) = _
  rw [Comparator.holdsOfCount_eq htarget]

/-! Conditions with which nothing is wrong. -/

/-- A field with a known metafield resolves to a target with that metafield, which is allowed
there. -/
theorem Resolves.of_known {field : String} {target : Target} {m : Metafield}
    (h : Resolves t options field target) (hknown : (FieldRef.ofText field).known? = some m) :
    t.resolveUnique (FieldRef.ofText field).path = .ok target.path ∧
      target.field = t.field? target.path ∧ target.metafield = some m ∧
      m.IsAllowed options target.isRoot target.field := by
  obtain ⟨name', hmetafield', hname'⟩ := FieldRef.known?_eq_some_iff.mp hknown
  cases h with
  | text path simple hpath hmetafield hsimple =>
    rw [hmetafield] at hmetafield'
    cases hmetafield'
  | metafield path name m' hpath hmetafield hname hallowed =>
    rw [hmetafield] at hmetafield'
    cases hmetafield'
    rw [hname] at hname'
    cases hname'
    exact ⟨resolveUnique_of_resolveAll hpath, rfl, rfl, hallowed⟩

/-- The literal of a condition that fits a known metafield converts. -/
theorem Resolves.compares {target : Target} {m : Metafield}
    (hresolves : Resolves t options c.field target) (hfits : target.Fits options c)
    (hknown : (FieldRef.ofText c.field).known? = some m) (d : Document) :
    t.resolveUnique (FieldRef.ofText c.field).path = .ok target.path ∧
      c.Compares t options.convention d target.path m := by
  obtain ⟨hpath, htargetField, hmetafield, hallowed⟩ := hresolves.of_known hknown
  have hconverts := hfits.converts
  rw [Target.converts, hmetafield] at hconverts
  refine ⟨hpath, ?_⟩
  cases m with
  | asValue =>
    obtain ⟨field, hfield⟩ := Option.isSome_iff_exists.mp (hallowed.simple rfl (by decide))
    rw [hfield] at htargetField hconverts
    obtain ⟨value, hvalue⟩ := Option.isSome_iff_exists.mp hconverts
    exact compares_asValue hknown hpath htargetField.symm hvalue
  | count =>
    obtain ⟨number, hnumber⟩ := Option.isSome_iff_exists.mp hconverts
    exact compares_count hknown hpath hnumber
  | attachmentCount =>
    obtain ⟨number, hnumber⟩ := Option.isSome_iff_exists.mp hconverts
    exact compares_attachmentCount hknown hpath hnumber
  | _ => trivial

/-- A condition that resolves has an answer if a single document can answer for its metafield. -/
theorem Resolves.exists_holds {target : Target} (hresolves : Resolves t options c.field target)
    (hmemory : ∀ m, (FieldRef.ofText c.field).known? = some m → m.isInMemory = true)
    (convention : DecimalConvention) (d : Document) :
    ∃ value, c.holds t convention d = .ok value := by
  cases hresolves with
  | text path simple hpath hmetafield hsimple =>
    exact ⟨_, holds_text hmetafield (resolveUnique_of_resolveAll hpath)⟩
  | metafield path name m hpath hmetafield hname hallowed =>
    have hmemory := hmemory m (FieldRef.known?_eq_some_iff.mpr ⟨name, hmetafield, hname⟩)
    have hunique := resolveUnique_of_resolveAll hpath
    simp only [Condition.holds, hmetafield, hname, hunique]
    cases m with
    | asValue =>
      dsimp only [Except.mapError, bind, Except.bind]
      cases (t.field? path).bind fun field => field.coerce? convention c.literal with
      | none => exact ⟨_, rfl⟩
      | some target => exact ⟨_, rfl⟩
    | count => exact ⟨_, rfl⟩
    | attachmentCount => exact ⟨_, rfl⟩
    | authorId => exact ⟨_, rfl⟩
    | packageName => exact ⟨_, rfl⟩
    | _ => cases hmemory

namespace SearchExpression

variable {e : SearchExpression}

/-- The names of the metafields in the criteria that a single document cannot answer for, each once
and in the order in which they first come. -/
theorem unanswerable_eq (e : SearchExpression) :
    e.unanswerable = (((e.criteria.conditions.filterMap fun c =>
      (FieldRef.ofText c.field).known?).filter fun m => !m.isInMemory).map
        Metafield.name).eraseDups := by
  rw [unanswerable, distinct_eq_eraseDups]

/-- All that can go wrong with a valid expression on a document of the type is that a single
document cannot answer for its metafields. -/
theorem failure?_of_isValid (h : e.isValid t options = true) (hd : d.documentType = t.sid)
    (convention : DecimalConvention) :
    e.failure? t convention d =
      if e.unanswerable = [] then none else some (.storageOnly e.unanswerable) := by
  obtain ⟨hsource, hconditions⟩ := eq_sid_of_isValid h
  split
  · next hunanswerable =>
    rw [failure?_eq_none_iff]
    refine ⟨hsource.trans hd.symm, fun c hc => ?_⟩
    have hmemory := e.unanswerable_eq_nil_iff.mp hunanswerable c hc
    obtain ⟨target, hresolves, -⟩ := Condition.exists_target (hconditions c hc)
    exact ⟨hmemory, hresolves.exists_holds hmemory convention d⟩
  · next hunanswerable =>
    rw [failure?, if_neg (not_not_intro (hsource.trans hd.symm)), if_pos]
    simpa using hunanswerable

/-- A valid expression without metafields that only stored documents have asks for nothing that a
single document cannot answer for. -/
theorem unanswerable_of_isValid
    (h : e.isValid t { options with allowStorageOnly := false } = true) :
    e.unanswerable = [] := by
  rw [unanswerable_eq_nil_iff]
  intro c hc m hm
  obtain ⟨target, hresolves, -⟩ := Condition.exists_target ((eq_sid_of_isValid h).2 c hc)
  obtain ⟨-, -, -, hallowed⟩ := hresolves.of_known hm
  refine Metafield.isInMemory_of_not_isStorageOnly (Bool.eq_false_iff.mpr fun hstorage => ?_)
  exact Bool.false_ne_true (hallowed.storage hstorage)

/-- A valid expression can be evaluated. Without metafields that only stored documents have it has
an answer on every document of the type, and each condition on a metafield of an element compares
with its literal, converted. With them evaluation fails exactly if a condition asks for a metafield
that a single document cannot answer for, and then it tells the names of these. -/
theorem valid_evaluates (e : SearchExpression) (t : DocumentType) (options : CheckOptions)
    {d : Document} (hd : d.documentType = t.sid) :
    (e.isValid t { options with allowStorageOnly := false } = true →
      (∃ value, e.evaluate t options.convention d = .ok value) ∧
      ∀ c ∈ e.criteria.conditions, ∀ m, (FieldRef.ofText c.field).known? = some m →
        ∃ path, t.resolveUnique (FieldRef.ofText c.field).path = .ok path ∧
          c.Compares t options.convention d path m) ∧
    (e.isValid t { options with allowStorageOnly := true } = true →
      ((∃ error, e.evaluate t options.convention d = .error error) ↔
        ∃ c ∈ e.criteria.conditions, ∃ m, (FieldRef.ofText c.field).known? = some m ∧
          m.isInMemory = false) ∧
      ∀ error, e.evaluate t options.convention d = .error error →
        error = .storageOnly ((((e.criteria.conditions.filterMap fun c =>
          (FieldRef.ofText c.field).known?).filter fun m => !m.isInMemory).map
            Metafield.name).eraseDups)) := by
  refine ⟨fun hvalid => ⟨?_, fun c hc m hm => ?_⟩, fun hvalid => ⟨?_, fun error herror => ?_⟩⟩
  · have hfailure := failure?_of_isValid hvalid hd options.convention
    rw [if_pos (unanswerable_of_isValid hvalid)] at hfailure
    exact ⟨_, evaluate_eq_ok_iff.mpr ⟨hfailure, rfl⟩⟩
  · obtain ⟨target, hresolves, hfits⟩ := Condition.exists_target ((eq_sid_of_isValid hvalid).2 c hc)
    exact ⟨target.path, hresolves.compares hfits hm d⟩
  · simp only [evaluate_eq_error_iff, failure?_of_isValid hvalid hd]
    rw [← unanswerable_ne_nil_iff]
    constructor
    · rintro ⟨error, herror⟩ hunanswerable
      rw [if_pos hunanswerable] at herror
      cases herror
    · intro hunanswerable
      exact ⟨_, if_neg hunanswerable⟩
  · rw [evaluate_eq_error_iff, failure?_of_isValid hvalid hd] at herror
    rw [← unanswerable_eq]
    split at herror
    · cases herror
    · exact (Option.some.inj herror).symm

/-- A document type with a repeatable paragraph of one number. -/
def numberType : DocumentType where
  sid := "SI"
  label := ""
  compliant := false
  author := none
  version := none
  standardVersion := none
  publicByDefault := false
  elements := [
    { index := 0, sid := "CD", label := "", path := "SI.CD", compliant := false,
      repeatable := true, canBeRepeated := true, level := .none, kind := .paragraph,
      parent := none, children := [1] },
    { index := 1, sid := "N", label := "", path := "SI.CD.N", compliant := false,
      repeatable := false, canBeRepeated := true, level := .none,
      kind := .simpleField {
        fieldType := .int32, validation := none, extraction := none, datetimeFormat := none,
        usesPointDecimal := false, length := 0, fixedLength := false, dictionary := .none,
        media := .none, unique := false, uniquenessGroup := 0, requiredForSaving := false },
      parent := some 0, children := [] }]

/-- Documents with a number above seven, or without two paragraphs. -/
def numbered : SearchExpression where
  select := [allFields]
  source := "SI"
  criteria := { members := [
    .condition none ⟨"N._as_val", .greater, "7"⟩,
    .group (some .orNot) [.condition none ⟨"CD._count", .equal, "2"⟩]] }

/-- Documents of some author, by name or by identifier. -/
def authored : SearchExpression where
  select := [allFields]
  source := "SI"
  criteria := { members := [
    .condition none ⟨"SI._author_id", .equal, "a"⟩,
    .condition (some .or) ⟨"SI._author", .equal, "A"⟩] }

/-- The first is valid and has an answer, the second is only answered by a store. -/
theorem valid_evaluates_numbered :
    numbered.isValid numberType {} = true ∧
      (∃ value, numbered.evaluate numberType .point { documentType := "SI" } = .ok value) ∧
      authored.isValid numberType { allowStorageOnly := true } = true ∧
      ∃ error, authored.evaluate numberType .point { documentType := "SI" } = .error error := by
  have hnumbered : numbered.isValid numberType {} = true := by rfl
  have hauthored : authored.isValid numberType { allowStorageOnly := true } = true := by rfl
  have hmember : (⟨"SI._author", .equal, "A"⟩ : Condition) ∈ authored.criteria.conditions := by
    decide
  have hstored : (FieldRef.ofText "SI._author").known? = some .author := by decide
  exact ⟨hnumbered, ((valid_evaluates numbered numberType {} rfl).1 hnumbered).1, hauthored,
    ((valid_evaluates authored numberType {} rfl).2 hauthored).1.mpr ⟨_, hmember, _, hstored, rfl⟩⟩

end SearchExpression

end CatalogRecords.Query
