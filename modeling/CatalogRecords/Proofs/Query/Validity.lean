import CatalogRecords.Proofs.Query.Checking

/-!
# What checking accepts

Checking walks over an expression and reports what is wrong with it, and what it finds on a field
keeps it from looking at the comparator and the literal. What it accepts can be said without that
walk: the fields that are named resolve, in each group at each depth operators stand where they
have something to join, and each condition suits what its field stands for. An expression is valid
exactly if it is sound in this sense, so that no rule is passed over and none is added.
-/

namespace CatalogRecords.Query

variable {t : DocumentType} {options : CheckOptions}

/-! Fields. -/

/-- Nothing is wrong with a field that stands for a target exactly if it resolves to that target. -/
theorem resolveField_eq_iff {field : String} {target : Target} :
    resolveField t options field = (some target, []) ↔ Resolves t options field target := by
  constructor
  · intro h
    obtain ⟨resolved, heq, hresolves⟩ := resolves_of_findings_eq_nil (congrArg Prod.snd h)
    rw [h, Prod.mk.injEq, Option.some.injEq] at heq
    exact heq.1 ▸ hresolves
  · intro h
    unfold resolveField
    cases h with
    | text path simple hpath hmetafield hsimple =>
      simp [hpath, hmetafield, hsimple, reportIf]
    | metafield path name m hpath hmetafield hname hallowed =>
      simp [hpath, hmetafield, hname, Metafield.findings_eq_nil_iff.mpr hallowed]

/-- Nothing is wrong with a field exactly if it resolves. -/
theorem fieldFindings_eq_nil_iff {field : String} :
    fieldFindings t options field = [] ↔ ∃ target, Resolves t options field target := by
  constructor
  · intro h
    obtain ⟨target, -, hresolves⟩ := resolves_of_findings_eq_nil h
    exact ⟨target, hresolves⟩
  · intro ⟨target, hresolves⟩
    rw [fieldFindings, resolveField_eq_iff.mpr hresolves]

/-! Conditions. -/

/-- A condition suits what its field stands for. There is a literal; LIKE asks for the text of a
string; an order asks on the document type for an ordered metafield and on what holds other elements
for the number of them; and the literal is a value of the field where values are compared, and a
number where there is counting. -/
structure Target.Suits (target : Target) (convention : DecimalConvention) (c : Condition) :
    Prop where
  literal : c.literal ≠ ""
  like : c.comparator = .like →
    (target.metafield = none ∨ target.metafield = some .asValue) ∧
      ∃ f, target.field = some f ∧ f.fieldType = .string
  orderOnType : c.comparator.isOrdering = true → target.isRoot = true →
    ∃ m, target.metafield = some m ∧ m.isOrderable = true
  orderOnContainer : c.comparator.isOrdering = true → target.isRoot = false →
    target.field = none → target.metafield = some .count
  value : target.metafield = some .asValue → ∀ f, target.field = some f →
    ∃ value, f.coerce? convention c.literal = some value
  number : target.metafield = some .count ∨ target.metafield = some .attachmentCount →
    ∃ n, Number.readInteger? (.unsigned 64) (Text.trim c.literal).toList = some n

namespace Target

variable {target : Target} {convention : DecimalConvention} {literal : String}

/-- A target has an order if it is neither the document type without an ordered metafield nor holds
other elements that are not counted. -/
theorem isOrdered_iff : target.isOrdered = true ↔
    (target.isRoot = true → ∃ m, target.metafield = some m ∧ m.isOrderable = true) ∧
      (target.isRoot = false → target.field = none → target.metafield = some .count) := by
  unfold isOrdered
  cases target.isRoot with
  | true => simp [Option.any_eq_true]
  | false => cases target.field <;> simp

/-- A target is a text if it is a string field without a metafield, or its values. -/
theorem isText_iff : target.isText = true ↔
    (target.metafield = none ∨ target.metafield = some .asValue) ∧
      ∃ f, target.field = some f ∧ f.fieldType = .string := by
  rw [isText, Bool.and_eq_true, and_comm, Bool.or_eq_true, beq_iff_eq, beq_iff_eq,
    Option.any_eq_true]
  simp only [beq_iff_eq]

/-- A literal converts if it is a value where values are compared and a number where there is
counting. -/
theorem converts_iff : target.converts convention literal = true ↔
    (target.metafield = some .asValue → ∀ f, target.field = some f →
      ∃ value, f.coerce? convention literal = some value) ∧
    (target.metafield = some .count ∨ target.metafield = some .attachmentCount →
      ∃ n, Number.readInteger? (.unsigned 64) (Text.trim literal).toList = some n) := by
  unfold converts
  cases target.metafield with
  | none => simp
  | some m =>
    cases m with
    | asValue => cases target.field <;> simp [Option.isSome_iff_exists]
    | _ => simp [Option.isSome_iff_exists]

/-- A condition fits a target exactly if it suits it. -/
theorem fits_iff_suits {c : Condition} :
    target.Fits options c ↔ target.Suits options.convention c := by
  constructor
  · intro h
    have hordered (horder : c.comparator.isOrdering = true) := isOrdered_iff.mp (h.ordering horder)
    have hconverts := converts_iff.mp h.converts
    exact {
      literal := h.literal
      like := fun hlike => isText_iff.mp (h.like hlike)
      orderOnType := fun horder => (hordered horder).1
      orderOnContainer := fun horder => (hordered horder).2
      value := hconverts.1
      number := hconverts.2 }
  · intro h
    exact {
      ordering := fun horder => isOrdered_iff.mpr ⟨h.orderOnType horder, h.orderOnContainer horder⟩
      like := fun hlike => isText_iff.mpr (h.like hlike)
      literal := h.literal
      converts := converts_iff.mpr ⟨h.value, h.number⟩ }

end Target

/-- The field of a condition resolves, and the condition suits what it stands for. -/
def Condition.IsSound (t : DocumentType) (options : CheckOptions) (c : Condition) : Prop :=
  ∃ target, Resolves t options c.field target ∧ target.Suits options.convention c

/-- Nothing is wrong with a condition exactly if it is sound. -/
theorem Condition.findings_eq_nil_iff {c : Condition} :
    c.findings t options = [] ↔ c.IsSound t options := by
  constructor
  · intro h
    obtain ⟨target, hresolves, hfits⟩ := c.exists_target h
    exact ⟨target, hresolves, Target.fits_iff_suits.mp hfits⟩
  · intro ⟨target, hresolves, hsuits⟩
    rw [Condition.findings, resolveField_eq_iff.mpr hresolves]
    exact Target.findings_eq_nil_iff.mpr (Target.fits_iff_suits.mpr hsuits)

/-! Operators. -/

/-- What can stand before the first member of a group: no operator, or a negation. -/
def leadingOperators : List (Option BooleanOperator) := [none, some .not]

/-- What can stand before a later member of a group, and joins it to those before it. -/
def joiningOperators : List (Option BooleanOperator) :=
  [some .and, some .or, some .andNot, some .orNot]

/-- The operators of the members of a group are such that the first can stand first and the others
join. -/
structure AreJoined (members : List Criterion) : Prop where
  first : ∀ c ∈ members.head?, c.operator ∈ leadingOperators
  later : ∀ c ∈ members.tail, c.operator ∈ joiningOperators

/-- No members are joined. -/
theorem AreJoined.nil : AreJoined [] := ⟨by simp, by simp⟩

mutual

/-- The members of a criterion and those of each group in it, at all depths. -/
def Criterion.memberLists : Criterion → List (List Criterion)
  | .condition _ _ => []
  | .group _ members => members :: memberListsIn members

/-- The members of each group among criteria, at all depths. -/
def memberListsIn : List Criterion → List (List Criterion)
  | [] => []
  | c :: cs => c.memberLists ++ memberListsIn cs

end

/-- The members of the groups in several criteria are those of each, one after the other. -/
theorem memberListsIn_eq_flatMap (cs : List Criterion) :
    memberListsIn cs = cs.flatMap Criterion.memberLists := by
  induction cs with
  | nil => rfl
  | cons c cs ih => rw [memberListsIn, ih, List.flatMap_cons]

/-- The operators that may lead a group are those listed. -/
theorem isLeading_iff {op : Option BooleanOperator} :
    BooleanOperator.isLeading op = true ↔ op ∈ leadingOperators := by
  cases op with
  | none => decide
  | some op => cases op <;> decide

/-- An operator that cannot stand first joins. -/
theorem isLeading_eq_false_iff {op : Option BooleanOperator} :
    BooleanOperator.isLeading op = false ↔ op ∈ joiningOperators := by
  cases op with
  | none => decide
  | some op => cases op <;> decide

/-- A first member and later ones are joined if the first can stand first and the others join. -/
theorem areJoined_cons_iff {c : Criterion} {cs : List Criterion} :
    AreJoined (c :: cs) ↔ c.operator ∈ leadingOperators ∧
      ∀ other ∈ cs, other.operator ∈ joiningOperators := by
  constructor
  · intro h
    exact ⟨h.first c (Option.mem_some_self c), h.later⟩
  · intro ⟨hfirst, hlater⟩
    exact ⟨fun other hother => Option.mem_some.mp hother ▸ hfirst, hlater⟩

/-- Nothing is wrong with the operator of a first member exactly if it can stand first. -/
theorem operatorFindings_first_eq_nil_iff {c : Criterion} :
    c.operatorFindings true = [] ↔ c.operator ∈ leadingOperators := by
  rw [← isLeading_iff]
  unfold Criterion.operatorFindings
  cases c.operator with
  | none => exact iff_of_true rfl rfl
  | some op => simp only [reportIf_eq_nil_iff, Bool.not_eq_false']

/-- Nothing is wrong with the operator of a later member exactly if it joins. -/
theorem operatorFindings_later_eq_nil_iff {c : Criterion} :
    c.operatorFindings false = [] ↔ c.operator ∈ joiningOperators := by
  rw [← isLeading_eq_false_iff]
  exact reportIf_eq_nil_iff

/-! Criteria. -/

/-- The members of each group in a criterion are joined, its own included. -/
def Criterion.IsJoined (c : Criterion) : Prop := ∀ members ∈ c.memberLists, AreJoined members

/-- A group is joined if its members are, and each of these is joined inside. -/
theorem isJoined_group_iff {op : Option BooleanOperator} {members : List Criterion} :
    (Criterion.group op members).IsJoined ↔ AreJoined members ∧ ∀ c ∈ members, c.IsJoined := by
  rw [Criterion.IsJoined, Criterion.memberLists, List.forall_mem_cons, memberListsIn_eq_flatMap,
    List.forall_mem_flatMap]
  rfl

/-- Nothing is wrong inside a criterion: its conditions are sound, and the members of its groups are
joined. -/
structure Criterion.IsSound (t : DocumentType) (options : CheckOptions) (c : Criterion) : Prop where
  conditions : ∀ test ∈ c.conditions, test.IsSound t options
  joined : c.IsJoined

/-- A group is sound if its members are joined, and each of these is sound. -/
theorem isSound_group_iff {op : Option BooleanOperator} {members : List Criterion} :
    (Criterion.group op members).IsSound t options ↔
      AreJoined members ∧ ∀ c ∈ members, c.IsSound t options := by
  have hconditions : (∀ test ∈ (Criterion.group op members).conditions, test.IsSound t options) ↔
      ∀ c ∈ members, ∀ test ∈ c.conditions, test.IsSound t options := by
    rw [Criterion.conditions, conditionsIn_eq_flatMap, List.forall_mem_flatMap]
  constructor
  · intro h
    have hmembers := hconditions.mp h.conditions
    have hjoined := isJoined_group_iff.mp h.joined
    exact ⟨hjoined.1, fun c hc => ⟨hmembers c hc, hjoined.2 c hc⟩⟩
  · intro ⟨hjoined, hmembers⟩
    exact ⟨hconditions.mpr fun c hc => (hmembers c hc).conditions,
      isJoined_group_iff.mpr ⟨hjoined, fun c hc => (hmembers c hc).joined⟩⟩

mutual

/-- Nothing is wrong with a criterion apart from its operator exactly if it is sound. -/
theorem Criterion.findings_eq_nil_iff (c : Criterion) :
    c.findings t options = [] ↔ c.IsSound t options := by
  cases c with
  | condition op test =>
    rw [Criterion.findings, Condition.findings_eq_nil_iff]
    constructor
    · intro h
      exact ⟨by simpa [Criterion.conditions] using h,
        by simp [Criterion.IsJoined, Criterion.memberLists]⟩
    · intro h
      exact h.conditions test (by simp [Criterion.conditions])
  | group op members =>
    rw [Criterion.findings, isSound_group_iff, memberFindings_eq_nil_iff members]

/-- Nothing is wrong with the members of a group exactly if they are joined and sound. -/
theorem memberFindings_eq_nil_iff (members : List Criterion) :
    memberFindings t options true members = [] ↔
      AreJoined members ∧ ∀ c ∈ members, c.IsSound t options := by
  cases members with
  | nil => simp [memberFindings, AreJoined.nil]
  | cons c cs =>
    rw [memberFindings, List.append_eq_nil_iff, List.append_eq_nil_iff,
      operatorFindings_first_eq_nil_iff, c.findings_eq_nil_iff,
      laterFindings_eq_nil_iff cs, areJoined_cons_iff, List.forall_mem_cons]
    exact and_and_and_comm

/-- Nothing is wrong with later members of a group exactly if their operators join and they are
sound. -/
theorem laterFindings_eq_nil_iff (cs : List Criterion) :
    memberFindings t options false cs = [] ↔
      (∀ c ∈ cs, c.operator ∈ joiningOperators) ∧ ∀ c ∈ cs, c.IsSound t options := by
  cases cs with
  | nil => simp [memberFindings]
  | cons c cs =>
    rw [memberFindings, List.append_eq_nil_iff, List.append_eq_nil_iff,
      operatorFindings_later_eq_nil_iff, c.findings_eq_nil_iff, laterFindings_eq_nil_iff cs,
      List.forall_mem_cons, List.forall_mem_cons]
    exact and_and_and_comm

end

/-! Expressions. -/

namespace SearchExpression

/-- An expression that can be answered by documents of a type: it is about that type, the fields
that it names resolve, the members of all its groups are joined, and its conditions are sound. -/
structure IsSound (e : SearchExpression) (t : DocumentType) (options : CheckOptions) : Prop where
  source : e.source = t.sid
  select : ∀ field ∈ e.select, field ≠ allFields → ∃ target, Resolves t options field target
  joined : ∀ members ∈ e.criteria.toCriterion.memberLists, AreJoined members
  conditions : ∀ c ∈ e.criteria.conditions, ∃ target,
    Resolves t options c.field target ∧ target.Suits options.convention c
  orderBy : ∀ term ∈ e.orderBy, ∃ target, Resolves t options term.field target

variable {e : SearchExpression}

/-- Nothing is wrong with the criteria of an expression exactly if they are sound. -/
theorem memberFindings_criteria_eq_nil_iff :
    memberFindings t options true e.criteria.members = [] ↔
      (∀ c ∈ e.criteria.conditions, c.IsSound t options) ∧ e.criteria.toCriterion.IsJoined := by
  have hgroup : e.criteria.toCriterion.IsSound t options ↔
      AreJoined e.criteria.members ∧ ∀ c ∈ e.criteria.members, c.IsSound t options :=
    isSound_group_iff
  have hconditions : e.criteria.toCriterion.conditions = e.criteria.conditions := by
    rw [Criteria.toCriterion, Criterion.conditions, Criteria.conditions]
  rw [memberFindings_eq_nil_iff, ← hgroup, ← hconditions]
  exact ⟨fun h => ⟨h.conditions, h.joined⟩, fun h => ⟨h.1, h.2⟩⟩

/-- Whatever checking accepts is sound. -/
theorem isSound_of_isValid (h : e.isValid t options = true) : e.IsSound t options := by
  rw [isValid, List.isEmpty_iff, findings, List.append_eq_nil_iff, List.append_eq_nil_iff,
    List.append_eq_nil_iff, List.flatMap_eq_nil_iff, List.flatMap_eq_nil_iff] at h
  obtain ⟨⟨⟨hselect, hsource⟩, hmembers⟩, horder⟩ := h
  obtain ⟨hconditions, hjoined⟩ := memberFindings_criteria_eq_nil_iff.mp hmembers
  rw [reportIf_eq_nil_iff, bne_eq_false_iff_eq] at hsource
  refine ⟨hsource, fun field hfield hne => ?_, hjoined, hconditions, fun term hterm => ?_⟩
  · have hwanted : field ∈ e.select.filter (· != allFields) :=
      List.mem_filter.mpr ⟨hfield, bne_iff_ne.mpr hne⟩
    exact fieldFindings_eq_nil_iff.mp (hselect field hwanted)
  · exact fieldFindings_eq_nil_iff.mp (horder term hterm)

/-- Whatever is sound checking accepts. -/
theorem IsSound.isValid (h : e.IsSound t options) : e.isValid t options = true := by
  have hselect : ∀ field ∈ e.select.filter (· != allFields),
      fieldFindings t options field = [] := by
    intro field hfield
    obtain ⟨hmem, hne⟩ := List.mem_filter.mp hfield
    exact fieldFindings_eq_nil_iff.mpr (h.select field hmem (bne_iff_ne.mp hne))
  have horder : ∀ term ∈ e.orderBy, fieldFindings t options term.field = [] := by
    intro term hterm
    exact fieldFindings_eq_nil_iff.mpr (h.orderBy term hterm)
  rw [SearchExpression.isValid, List.isEmpty_iff, findings, List.flatMap_eq_nil_iff.mpr hselect,
    List.flatMap_eq_nil_iff.mpr horder, h.source, bne_self_eq_false,
    memberFindings_criteria_eq_nil_iff.mpr ⟨h.conditions, h.joined⟩]
  rfl

/-- Checking accepts an expression exactly if it is sound. -/
theorem isValid_iff_isSound (e : SearchExpression) (t : DocumentType) (options : CheckOptions) :
    e.isValid t options = true ↔ e.IsSound t options :=
  ⟨isSound_of_isValid, IsSound.isValid⟩

end SearchExpression

end CatalogRecords.Query
