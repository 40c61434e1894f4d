import CatalogRecords.Query.Checking

/-!
# What checked expressions are like

Checking reports everything that is wrong with an expression. If nothing is reported, then each
field that is named stands for one target, whose metafield is allowed there, and the comparator and
the literal of each condition fit the target, at every depth of the criteria.
-/

namespace CatalogRecords.Query

variable {t : DocumentType} {options : CheckOptions}

/-- Nothing is reported exactly if there is no reason for it. -/
theorem reportIf_eq_nil_iff {reason : Bool} {finding : ExpressionFinding} :
    reportIf reason finding = [] ↔ reason = false := by
  cases reason <;> simp [reportIf]

/-- A metafield may stand at an element, or at the document type. -/
structure Metafield.IsAllowed (m : Metafield) (options : CheckOptions) (isRoot : Bool)
    (field : Option SimpleField) : Prop where
  storage : m.isStorageOnly = true → options.allowStorageOnly = true
  scope : m.scope = .documentType ↔ isRoot = true
  simple : m.scope = .element → m ≠ .count → field.isSome = true
  media : m = .attachmentCount → ∀ f, field = some f → f.media ≠ .none

/-- Nothing is wrong with a metafield exactly if it is allowed. -/
theorem Metafield.findings_eq_nil_iff {m : Metafield} {path : String} {isRoot : Bool}
    {field : Option SimpleField} :
    m.findings options path isRoot field = [] ↔ m.IsAllowed options isRoot field := by
  have hstorage : (m.isStorageOnly && !options.allowStorageOnly) = false ↔
      (m.isStorageOnly = true → options.allowStorageOnly = true) := by
    cases m.isStorageOnly <;> simp
  have hmedia : (m == .attachmentCount && field.any fun f => f.media == .none) = false ↔
      (m = .attachmentCount → ∀ f, field = some f → f.media ≠ .none) := by
    cases field <;> simp
  have hallowed : m.IsAllowed options isRoot field ↔
      ((m.isStorageOnly = true → options.allowStorageOnly = true) ∧
        (m.scope = .documentType ↔ isRoot = true) ∧
          (m.scope = .element → m ≠ .count → field.isSome = true)) ∧
        (m = .attachmentCount → ∀ f, field = some f → f.media ≠ .none) :=
    ⟨fun h => ⟨⟨h.storage, h.scope, h.simple⟩, h.media⟩, fun h => ⟨h.1.1, h.1.2.1, h.1.2.2, h.2⟩⟩
  unfold findings
  rw [List.append_eq_nil_iff, List.append_eq_nil_iff, reportIf_eq_nil_iff, reportIf_eq_nil_iff,
    hstorage, hmedia, hallowed]
  refine and_congr (and_congr Iff.rfl ?_) Iff.rfl
  cases m.scope <;> cases isRoot <;> cases field <;> simp [reportIf_eq_nil_iff]

/-- A field of an expression stands for a target, and nothing is wrong with it. -/
inductive Resolves (t : DocumentType) (options : CheckOptions) (field : String) :
    Target → Prop where
  | text (path : String) (simple : SimpleField)
      (hpath : t.resolveAll (FieldRef.ofText field).path = [path])
      (hmetafield : (FieldRef.ofText field).metafield = none)
      (hsimple : t.field? path = some simple) :
      Resolves t options field ⟨path, t.isRoot path, some simple, none⟩
  | metafield (path name : String) (m : Metafield)
      (hpath : t.resolveAll (FieldRef.ofText field).path = [path])
      (hmetafield : (FieldRef.ofText field).metafield = some name)
      (hname : Metafield.ofName? name = some m)
      (hallowed : m.IsAllowed options (t.isRoot path) (t.field? path)) :
      Resolves t options field ⟨path, t.isRoot path, t.field? path, some m⟩

/-- A field with which nothing is wrong stands for a target. -/
theorem resolves_of_findings_eq_nil {field : String} (h : (resolveField t options field).2 = []) :
    ∃ target, resolveField t options field = (some target, []) ∧
      Resolves t options field target := by
  unfold resolveField at h ⊢
  dsimp only at h ⊢
  split at h
  · cases h
  · next path hpath =>
    cases hmetafield : (FieldRef.ofText field).metafield with
    | none =>
      rw [hmetafield] at h
      rw [reportIf_eq_nil_iff] at h
      cases hsimple : t.field? path with
      | none =>
        rw [hsimple] at h
        cases h
      | some simple =>
        exact ⟨_, rfl, .text path simple hpath hmetafield hsimple⟩
    | some name =>
      rw [hmetafield] at h
      dsimp only at h ⊢
      cases hname : Metafield.ofName? name with
      | none =>
        rw [hname] at h
        cases h
      | some m =>
        rw [hname] at h
        have hallowed := Metafield.findings_eq_nil_iff.mp h
        exact ⟨_, congrArg _ h, .metafield path name m hpath hmetafield hname hallowed⟩
  · cases h

/-- A condition fits what its field stands for. -/
structure Target.Fits (target : Target) (options : CheckOptions) (c : Condition) : Prop where
  ordering : c.comparator.isOrdering = true → target.isOrdered = true
  like : c.comparator = .like → target.isText = true
  literal : c.literal ≠ ""
  converts : target.converts options.convention c.literal = true

/-- Nothing is wrong with a condition on a target exactly if it fits. -/
theorem Target.findings_eq_nil_iff {target : Target} {c : Condition} :
    target.findings options c = [] ↔ target.Fits options c := by
  have hordering : (c.comparator.isOrdering && !target.isOrdered) = false ↔
      (c.comparator.isOrdering = true → target.isOrdered = true) := by
    cases c.comparator.isOrdering <;> simp
  have hlike : (c.comparator == .like && !target.isText) = false ↔
      (c.comparator = .like → target.isText = true) := by
    cases target.isText <;> simp
  rw [findings, List.append_eq_nil_iff, List.append_eq_nil_iff, reportIf_eq_nil_iff,
    reportIf_eq_nil_iff, hordering, hlike]
  constructor
  · rintro ⟨⟨hordering, hlike⟩, hliteral⟩
    by_cases hempty : c.literal = ""
    · rw [if_pos (beq_iff_eq.mpr hempty)] at hliteral
      cases hliteral
    · rw [if_neg (mt beq_iff_eq.mp hempty), reportIf_eq_nil_iff, Bool.not_eq_false'] at hliteral
      exact ⟨hordering, hlike, hempty, hliteral⟩
  · rintro ⟨hordering, hlike, hempty, hconverts⟩
    refine ⟨⟨hordering, hlike⟩, ?_⟩
    rw [if_neg (mt beq_iff_eq.mp hempty), reportIf_eq_nil_iff, hconverts]
    rfl

/-- A condition with which nothing is wrong fits what its field stands for. -/
theorem Condition.exists_target {c : Condition} (h : c.findings t options = []) :
    ∃ target, Resolves t options c.field target ∧ target.Fits options c := by
  rw [Condition.findings] at h
  -- findings on the field are findings on the condition
  have hfield : (resolveField t options c.field).2 = [] := by
    split at h
    · next hresolve => rw [hresolve]
    · next target findings _ hresolve => rw [hresolve, h]
  obtain ⟨target, heq, hresolves⟩ := resolves_of_findings_eq_nil hfield
  rw [heq] at h
  exact ⟨target, hresolves, Target.findings_eq_nil_iff.mp h⟩

mutual

/-- If nothing is wrong with a criterion, nothing is wrong with the conditions in it. -/
theorem Criterion.findings_of_mem_conditions {c : Criterion} (h : c.findings t options = []) :
    ∀ x ∈ c.conditions, x.findings t options = [] := by
  cases c with
  | condition op test =>
    rw [Criterion.findings] at h
    rw [Criterion.conditions]
    intro x hx
    rw [List.mem_singleton.mp hx]
    exact h
  | group op members =>
    rw [Criterion.findings] at h
    rw [Criterion.conditions]
    exact findings_of_mem_conditionsIn h

/-- If nothing is wrong with the members of a group, nothing is wrong with the conditions in
them. -/
theorem findings_of_mem_conditionsIn {isFirst : Bool} {cs : List Criterion}
    (h : memberFindings t options isFirst cs = []) :
    ∀ x ∈ conditionsIn cs, x.findings t options = [] := by
  cases cs with
  | nil => exact fun x hx => absurd hx List.not_mem_nil
  | cons c cs =>
    rw [memberFindings, List.append_eq_nil_iff, List.append_eq_nil_iff] at h
    rw [conditionsIn]
    intro x hx
    rcases List.mem_append.mp hx with hx | hx
    · exact Criterion.findings_of_mem_conditions h.1.2 x hx
    · exact findings_of_mem_conditionsIn h.2 x hx

end

/-- A valid expression is about the document type, and nothing is wrong with its conditions. -/
theorem SearchExpression.eq_sid_of_isValid {e : SearchExpression} (h : e.isValid t options = true) :
    e.source = t.sid ∧ ∀ c ∈ e.criteria.conditions, c.findings t options = [] := by
  rw [isValid, List.isEmpty_iff, findings] at h
  simp only [List.append_eq_nil_iff] at h
  obtain ⟨⟨⟨-, hsource⟩, hmembers⟩, -⟩ := h
  refine ⟨?_, findings_of_mem_conditionsIn hmembers⟩
  rw [reportIf_eq_nil_iff] at hsource
  simpa using hsource

end CatalogRecords.Query
