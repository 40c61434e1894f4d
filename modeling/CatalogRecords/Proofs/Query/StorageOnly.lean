import CatalogRecords.Proofs.Query.CheckedEvaluation
import CatalogRecords.Proofs.Query.Validity
import Mathlib.Data.List.Basic

/-!
# Expressions that only a store can answer

An expression is scanned for metafields that only stored documents have, and checking reports them
where they are not allowed. The scan takes the fields as they are written, while checking resolves
them and stops at a field with which something is wrong. On an expression that is valid where such
metafields are allowed nothing else is wrong, so that checking without them reports what the scan
finds, field by field and with nothing in between.
-/

namespace CatalogRecords.Query

variable {t : DocumentType} {options : CheckOptions}

/-- The options with metafields allowed that only stored documents have. -/
def CheckOptions.opened (options : CheckOptions) : CheckOptions :=
  { options with allowStorageOnly := true }

/-- The options with such metafields not allowed. -/
def CheckOptions.closed (options : CheckOptions) : CheckOptions :=
  { options with allowStorageOnly := false }

/-- The name of the metafield of a field, if only stored documents have it. -/
def storedNames (field : String) : List String :=
  ((FieldRef.ofText field).known?.toList.filter Metafield.isStorageOnly).map Metafield.name

/-- The findings that metafields with these names are not allowed. -/
def notAllowed (names : List String) : List ExpressionFinding :=
  names.map ExpressionFinding.storageOnlyMetafield

/-- The name of a metafield that is reported as not allowed. -/
def ExpressionFinding.storedName? : ExpressionFinding → Option String
  | .storageOnlyMetafield name => some name
  | _ => none

/-- The names that are reported as not allowed are those that were to be reported. -/
theorem filterMap_notAllowed (names : List String) :
    (notAllowed names).filterMap ExpressionFinding.storedName? = names := by
  rw [notAllowed, List.filterMap_map]
  exact List.filterMap_some

/-- Reports one after the other are the report of all. -/
theorem flatMap_notAllowed {α : Type} (items : List α) (names : α → List String) :
    (items.flatMap fun item => notAllowed (names item)) = notAllowed (items.flatMap names) := by
  simp only [notAllowed, List.map_flatMap]

/-! Fields. -/

/-- A metafield that is allowed where stored ones are is only reported for being stored. -/
theorem Metafield.IsAllowed.findings_closed {m : Metafield} {isRoot : Bool}
    {field : Option SimpleField} (h : m.IsAllowed options.opened isRoot field) (path : String) :
    m.findings options.closed path isRoot field =
      reportIf m.isStorageOnly (.storageOnlyMetafield m.name) := by
  have hopened : m.findings options.opened path isRoot field = [] := findings_eq_nil_iff.mpr h
  unfold findings at hopened ⊢
  rw [List.append_eq_nil_iff, List.append_eq_nil_iff] at hopened
  obtain ⟨⟨-, hscope⟩, hmedia⟩ := hopened
  rw [hscope, hmedia, List.append_nil, List.append_nil, CheckOptions.closed, Bool.not_false,
    Bool.and_true]

/-- A field that resolves where stored metafields are allowed is only reported for its own. -/
theorem Resolves.resolveField_closed {field : String} {target : Target}
    (h : Resolves t options.opened field target) :
    resolveField t options.closed field = (some target, notAllowed (storedNames field)) := by
  unfold resolveField
  cases h with
  | text path simple hpath hmetafield hsimple =>
    simp [hpath, hmetafield, hsimple, reportIf, storedNames, FieldRef.known?, notAllowed]
  | metafield path name m hpath hmetafield hname hallowed =>
    have hknown := FieldRef.known?_eq_some_iff.mpr ⟨name, hmetafield, hname⟩
    have hfindings : notAllowed (storedNames field) =
        reportIf m.isStorageOnly (.storageOnlyMetafield m.name) := by
      rw [storedNames, hknown, Option.toList_some]
      cases hstored : m.isStorageOnly <;> simp [hstored, notAllowed, reportIf]
    simp only [hpath, hmetafield, hname, hallowed.findings_closed, hfindings]

/-- The same of what is reported for a field. -/
theorem fieldFindings_closed {field : String} (h : fieldFindings t options.opened field = []) :
    fieldFindings t options.closed field = notAllowed (storedNames field) := by
  obtain ⟨target, hresolves⟩ := fieldFindings_eq_nil_iff.mp h
  rw [fieldFindings, hresolves.resolveField_closed]

/-! Conditions and criteria. -/

/-- A condition that is valid where stored metafields are allowed is only reported for its own. -/
theorem Condition.findings_closed {c : Condition} (h : c.findings t options.opened = []) :
    c.findings t options.closed = notAllowed (storedNames c.field) := by
  obtain ⟨target, hresolves, hfits⟩ := c.exists_target h
  rw [findings, hresolves.resolveField_closed]
  -- what is wrong with the comparator and the literal is looked at if nothing is reported so far
  cases hnames : storedNames c.field with
  | nil => exact Target.findings_eq_nil_iff.mpr ⟨hfits.ordering, hfits.like, hfits.literal,
      hfits.converts⟩
  | cons name names => rfl

mutual

/-- A criterion that is valid where stored metafields are allowed is only reported for those in
it. -/
theorem Criterion.findings_closed (c : Criterion) (h : c.findings t options.opened = []) :
    c.findings t options.closed =
      notAllowed (c.conditions.flatMap fun test => storedNames test.field) := by
  cases c with
  | condition op test =>
    rw [Criterion.findings] at h ⊢
    rw [Criterion.conditions, List.flatMap_singleton, test.findings_closed h]
  | group op members =>
    rw [Criterion.findings] at h ⊢
    rw [Criterion.conditions, memberFindings_closed members h]

/-- The same of the members of a group. -/
theorem memberFindings_closed {isFirst : Bool} (cs : List Criterion)
    (h : memberFindings t options.opened isFirst cs = []) :
    memberFindings t options.closed isFirst cs =
      notAllowed ((conditionsIn cs).flatMap fun test => storedNames test.field) := by
  cases cs with
  | nil => rfl
  | cons c cs =>
    rw [memberFindings, List.append_eq_nil_iff, List.append_eq_nil_iff] at h
    obtain ⟨⟨hoperator, hc⟩, hcs⟩ := h
    rw [memberFindings, hoperator, c.findings_closed hc, memberFindings_closed cs hcs, conditionsIn,
      List.flatMap_append, List.nil_append, notAllowed, notAllowed, notAllowed, List.map_append]

end

/-! Whole expressions. -/

namespace SearchExpression

variable {e : SearchExpression}

/-- The scan takes the names from each field in turn, and each once. -/
theorem storageOnlyMetafields_eq (e : SearchExpression) :
    e.storageOnlyMetafields = (e.fieldRefs.flatMap storedNames).eraseDups := by
  rw [storageOnlyMetafields, distinct_eq_eraseDups]
  congr 1
  induction e.fieldRefs with
  | nil => rfl
  | cons field fields ih =>
    rw [List.flatMap_cons, ← ih, storedNames]
    cases hknown : (FieldRef.ofText field).known? with
    | none => simp [hknown]
    | some m => cases hstored : m.isStorageOnly <;> simp [hknown, hstored]

/-- An expression that is valid where stored metafields are allowed is only reported for those that
its fields name, in the order in which they come. -/
theorem findings_closed (h : e.isValid t options.opened = true) :
    e.findings t options.closed = notAllowed (e.fieldRefs.flatMap storedNames) := by
  rw [isValid, List.isEmpty_iff, findings, List.append_eq_nil_iff, List.append_eq_nil_iff,
    List.append_eq_nil_iff, List.flatMap_eq_nil_iff, List.flatMap_eq_nil_iff] at h
  obtain ⟨⟨⟨hselect, hsource⟩, hmembers⟩, horder⟩ := h
  have hwanted : (e.select.filter (· != allFields)).flatMap (fieldFindings t options.closed) =
      notAllowed ((e.select.filter (· != allFields)).flatMap storedNames) := by
    rw [← flatMap_notAllowed]
    exact List.flatMap_congr fun field hfield => fieldFindings_closed (hselect field hfield)
  have hterms : (e.orderBy.flatMap fun term => fieldFindings t options.closed term.field) =
      notAllowed (e.orderBy.flatMap fun term => storedNames term.field) := by
    rw [← flatMap_notAllowed]
    exact List.flatMap_congr fun term hterm => fieldFindings_closed (horder term hterm)
  rw [findings, hwanted, hsource, memberFindings_closed _ hmembers, hterms, fieldRefs,
    List.flatMap_append, List.flatMap_append, List.flatMap_map, List.flatMap_map, List.append_nil]
  simp only [notAllowed, List.map_append, Criteria.conditions]

/-- Of an expression that is valid where metafields are allowed that only stored documents have,
checking without them reports nothing exactly if the scan finds none. Whatever it reports is that
such a metafield is not allowed, and the names it reports are those that the scan lists. -/
theorem isValid_closed_iff (e : SearchExpression) (t : DocumentType) (options : CheckOptions)
    (hvalid : e.isValid t { options with allowStorageOnly := true } = true) :
    (e.isValid t { options with allowStorageOnly := false } = true ↔ e.isStorageOnly = false) ∧
      ((e.findings t { options with allowStorageOnly := false }).filterMap
        ExpressionFinding.storedName?).eraseDups = e.storageOnlyMetafields ∧
      ∀ finding ∈ e.findings t { options with allowStorageOnly := false },
        ∃ name, finding = .storageOnlyMetafield name := by
  have hfindings : e.findings t { options with allowStorageOnly := false } =
      notAllowed (e.fieldRefs.flatMap storedNames) := findings_closed hvalid
  refine ⟨?_, ?_, fun finding hfinding => ?_⟩
  · rw [isValid, hfindings, isStorageOnly, Bool.not_eq_false', List.isEmpty_iff, List.isEmpty_iff,
      notAllowed, List.map_eq_nil_iff, storageOnlyMetafields_eq, ← distinct_eq_eraseDups,
      distinct_eq_nil_iff]
  · rw [hfindings, filterMap_notAllowed, storageOnlyMetafields_eq]
  · rw [hfindings, notAllowed, List.mem_map] at hfinding
    obtain ⟨name, -, hname⟩ := hfinding
    exact ⟨name, hname.symm⟩

/-- An expression about the author is valid only for stored documents, and is reported for both
metafields. -/
theorem isValid_closed_authored :
    authored.isValid numberType { allowStorageOnly := true } = true ∧
      authored.isValid numberType {} = false ∧
      authored.storageOnlyMetafields = ["_author_id", "_author"] := by
  have hvalid : authored.isValid numberType { allowStorageOnly := true } = true := by rfl
  have hnames : authored.storageOnlyMetafields = ["_author_id", "_author"] := by rfl
  have hiff := (isValid_closed_iff authored numberType {} hvalid).1
  refine ⟨hvalid, Bool.eq_false_iff.mpr fun hclosed => ?_, hnames⟩
  have hfalse := hiff.mp hclosed
  rw [isStorageOnly, hnames] at hfalse
  cases hfalse

end SearchExpression

end CatalogRecords.Query
