import CatalogRecords.Proofs.Query.Grammar
import CatalogRecords.Proofs.Query.OpenGroups

/-!
# Open groups on two stacks

The groups that are open while criteria are read can also be kept on a stack of their own, beside a
stack of the offsets of their parentheses. Nothing in the types says then that the two stacks belong
together: a group may be missing where one is added to, and an offset where a group is closed. Such
reading halts if one of these happens. It never does, because it is the reading of criteria, step by
step, and what that keeps for each open group is just one entry of either stack.
-/

namespace CatalogRecords.Query

/-! Reading with two stacks. -/

/-- Why reading with stacks comes to an end. -/
inductive Halt where
  | refused (error : ParseError)
  /-- There is no group to add to, to close, or to end with. -/
  | noGroup
  /-- No parenthesis is known for the group to close. -/
  | noOffset
  deriving DecidableEq, Repr

/-- Criteria that are being read: the groups that are not complete, from the innermost to the
outermost, which has no parenthesis; the offsets of the parentheses of the others; and the operator
and the tokens that wait. -/
structure StackReader where
  groups : List Criteria := [{}]
  offsets : List Nat := []
  pending : Option BooleanOperator := none
  fragment : List Token := []
  deriving DecidableEq, Repr

namespace StackReader

/-- Halts in strict reading, and goes on in lenient reading. -/
def refuse {α : Type} (reading : Reading) (error : ParseError) (otherwise : α) : Except Halt α :=
  match reading with
  | .strict => .error (.refused error)
  | .lenient => .ok otherwise

/-- Adds a criterion to the innermost group. -/
def push (c : Criterion) (s : StackReader) : Except Halt StackReader :=
  match s.groups with
  | [] => .error .noGroup
  | group :: outer =>
    .ok { s with groups := { group with members := group.members ++ [c] } :: outer }

/-- Refuses a condition that is not complete. -/
def withoutFragment (reading : Reading) (s : StackReader) : Except Halt StackReader :=
  if s.fragment.isEmpty then .ok s
  else refuse reading (.incompleteCondition (s.fragment.map Token.kind)) { s with fragment := [] }

/-- Refuses an operator with nothing to apply to. -/
def withoutPending (reading : Reading) (s : StackReader) : Except Halt StackReader :=
  match s.pending with
  | none => .ok s
  | some op => refuse reading (.danglingOperator op) { s with pending := none }

/-- Reads one of the operators AND and OR. -/
def join (reading : Reading) (op : BooleanOperator) (token : Token) (s : StackReader) :
    Except Halt StackReader :=
  let read := { s with pending := some op }
  if s.pending.isSome || !s.fragment.isEmpty then
    refuse reading (.unexpectedToken token .condition) read
  else .ok read

/-- Reads a negation. -/
def negate (reading : Reading) (token : Token) (s : StackReader) : Except Halt StackReader :=
  let read := { s with pending := BooleanOperator.negated s.pending }
  if !s.fragment.isEmpty then refuse reading (.unexpectedToken token .condition) read else .ok read

/-- Opens a group: either stack has one entry more. -/
def openGroup (reading : Reading) (offset : Nat) (s : StackReader) : Except Halt StackReader := do
  let s ← s.withoutFragment reading
  .ok { s with
    groups := { operator := s.pending } :: s.groups, offsets := offset :: s.offsets,
    pending := none }

/-- Closes the innermost group, unless it is the only one: either stack has one entry less, and the
group is a criterion of the one that is the innermost now. -/
def closeGroup (reading : Reading) (offset : Nat) (s : StackReader) : Except Halt StackReader := do
  let s ← (← s.withoutFragment reading).withoutPending reading
  if s.groups.length = 1 then refuse reading (.unmatchedClose offset) s
  else
    match s.groups, s.offsets with
    | [], _ => .error .noGroup
    | _ :: _, [] => .error .noOffset
    | group :: outer, openedAt :: offsets =>
      let closed : StackReader := { s with groups := outer, offsets := offsets }
      if group.members.isEmpty ∧ reading = .strict then .error (.refused (.emptyGroup openedAt))
      else closed.push group.toCriterion

/-- Adds a token of a condition. When there are three they are put together; tokens that make no
condition are dropped with their operator. -/
def collect (token : Token) (s : StackReader) : Except Halt StackReader :=
  let fragment := s.fragment ++ [token]
  if fragment.length = 3 then
    let emptied := { s with pending := none, fragment := [] }
    match conditionOf? (fragment.map Token.kind) with
    | some test => emptied.push (.condition s.pending test)
    | none => .ok emptied
  else .ok { s with fragment := fragment }

/-- Reads a token of a condition. -/
def readOperand (reading : Reading) (token : Token) (s : StackReader) :
    Except Halt StackReader :=
  match reading, CriteriaReader.misfit? s.fragment.length token.kind with
  | .strict, some expected => .error (.refused (.unexpectedToken token expected))
  | _, _ => s.collect token

/-- Reads a token. -/
def read (reading : Reading) (s : StackReader) (token : Token) : Except Halt StackReader :=
  match token.kind.keyword? with
  | some "AND" => s.join reading .and token
  | some "OR" => s.join reading .or token
  | some "NOT" => s.negate reading token
  | _ =>
    match token.kind with
    | .opening => s.openGroup reading token.offset
    | .closing => s.closeGroup reading token.offset
    | _ => s.readOperand reading token

/-- Reads tokens from the beginning of criteria. -/
def readAll (reading : Reading) (ts : List Token) : Except Halt StackReader :=
  ts.foldlM (read reading) {}

/-- The criteria when there are no more tokens: the outermost group. -/
def finish (reading : Reading) (s : StackReader) : Except Halt Criteria := do
  let s ← (← s.withoutFragment reading).withoutPending reading
  if 1 < s.groups.length ∧ reading = .strict then
    .error (.refused (.unclosedGroup (s.groups.length - 1)))
  else
    match s.groups.getLast? with
    | some outermost => .ok outermost
    | none => .error .noGroup

/-! The two ways of reading are the same. -/

/-- The groups that are not complete: those that are open and the outermost. -/
def groupsOf : List OpenGroup → List Criterion → List Criteria
  | [], members => [{ members := members }]
  | group :: outer, members =>
    { operator := group.operator, members := members } :: groupsOf outer group.before

/-- What is read, on two stacks. -/
def ofReader (r : CriteriaReader) : StackReader where
  groups := groupsOf r.opened r.members
  offsets := r.opened.map OpenGroup.openedAt
  pending := r.pending
  fragment := r.fragment

/-- What reading comes to, as what reading with stacks comes to. -/
def lift {α β : Type} (f : α → β) (x : Except ParseError α) : Except Halt β :=
  match x with
  | .ok a => .ok (f a)
  | .error error => .error (.refused error)

section

variable {α β γ δ : Type} {reading : Reading} {r : CriteriaReader} {token : Token}

/-- What is refused stays refused, and what is taken otherwise is mapped. -/
theorem lift_refuse (f : α → β) (error : ParseError) (otherwise : α) :
    lift f (reading.refuse error otherwise) = refuse reading error (f otherwise) := by
  cases reading <;> rfl

/-- What is the same for a result is the same for the computation that comes to it. -/
theorem lift_bind {f : α → β} {k : γ → δ} {x : Except ParseError α} {g : β → Except Halt δ}
    {h : α → Except ParseError γ} (hnext : ∀ a, x = .ok a → g (f a) = lift k (h a)) :
    (lift f x >>= g) = lift k (x >>= h) := by
  cases x with
  | error error => rfl
  | ok a => exact hnext a rfl

/-- A lifted result is one exactly if there was a result, and it is the image of that. -/
theorem lift_eq_ok_iff {f : α → β} {x : Except ParseError α} {b : β} :
    lift f x = .ok b ↔ ∃ a, x = .ok a ∧ f a = b := by
  cases x <;> simp [lift]

/-- A lifted result is a refusal exactly if there was an error. -/
theorem lift_eq_error_iff {f : α → β} {x : Except ParseError α} {halt : Halt} :
    lift f x = .error halt ↔ ∃ error, x = .error error ∧ .refused error = halt := by
  cases x <;> simp [lift]

/-- There is a list of members for each group that is open, and one for the whole. -/
theorem length_groupsOf (opened : List OpenGroup) (members : List Criterion) :
    (groupsOf opened members).length = opened.length + 1 := by
  induction opened generalizing members with
  | nil => rfl
  | cons group outer ih => rw [groupsOf, List.length_cons, ih, List.length_cons]

/-- Both readers add a criterion to the members of the innermost group. -/
theorem push_ofReader (r : CriteriaReader) (c : Criterion) :
    (ofReader r).push c = .ok (ofReader { r with members := r.members ++ [c] }) := by
  obtain ⟨opened, members, pending, fragment⟩ := r
  cases opened <;> rfl

/-- Both readers treat an unfinished condition alike. -/
theorem withoutFragment_ofReader (r : CriteriaReader) :
    (ofReader r).withoutFragment reading = lift ofReader (r.withoutFragment reading) := by
  unfold withoutFragment CriteriaReader.withoutFragment
  change (if r.fragment.isEmpty then _ else _) = _
  split
  · rfl
  · rw [lift_refuse]
    rfl

/-- Both readers treat a dangling operator alike. -/
theorem withoutPending_ofReader (r : CriteriaReader) :
    (ofReader r).withoutPending reading = lift ofReader (r.withoutPending reading) := by
  obtain ⟨opened, members, pending, fragment⟩ := r
  cases pending with
  | none => rfl
  | some op =>
    unfold CriteriaReader.withoutPending
    rw [lift_refuse]
    rfl

/-- Both readers take an operator alike. -/
theorem join_ofReader (r : CriteriaReader) (op : BooleanOperator) (token : Token) :
    (ofReader r).join reading op token = lift ofReader (r.join reading op token) := by
  unfold join CriteriaReader.join
  change (if r.pending.isSome || !r.fragment.isEmpty then _ else _) = _
  dsimp only
  split
  · rw [lift_refuse]
    rfl
  · rfl

/-- Both readers negate alike. -/
theorem negate_ofReader (r : CriteriaReader) (token : Token) :
    (ofReader r).negate reading token = lift ofReader (r.negate reading token) := by
  unfold negate CriteriaReader.negate
  change (if !r.fragment.isEmpty then _ else _) = _
  dsimp only
  split
  · rw [lift_refuse]
    rfl
  · rfl

/-- Opening a group puts an empty list of members on the one stack and a pending operator on the
other. -/
theorem openGroup_ofReader (r : CriteriaReader) (offset : Nat) :
    (ofReader r).openGroup reading offset = lift ofReader (r.openGroup reading offset) := by
  unfold openGroup CriteriaReader.openGroup
  rw [withoutFragment_ofReader]
  refine lift_bind fun r hr => ?_
  have hfragment := CriteriaReader.fragment_of_withoutFragment hr
  obtain ⟨opened, members, pending, fragment⟩ := r
  cases hfragment
  rfl

/-- Closing a group takes one entry from each stack, and the group goes to the members below. -/
theorem closeGroup_ofReader (r : CriteriaReader) (offset : Nat) :
    (ofReader r).closeGroup reading offset = lift ofReader (r.closeGroup reading offset) := by
  unfold closeGroup CriteriaReader.closeGroup
  rw [withoutFragment_ofReader]
  refine lift_bind fun r hr => ?_
  rw [withoutPending_ofReader]
  refine lift_bind fun settled hsettled => ?_
  obtain ⟨hpending, hfragment⟩ :=
    CriteriaReader.pending_of_withoutPending hsettled
  rw [CriteriaReader.fragment_of_withoutFragment hr] at hfragment
  obtain ⟨opened, members, pending, fragment⟩ := settled
  cases hpending
  cases hfragment
  cases opened with
  | nil =>
    dsimp only
    rw [lift_refuse]
    rfl
  | cons group outer =>
    have hmore : (groupsOf (group :: outer) members).length ≠ 1 := by
      rw [length_groupsOf, List.length_cons]
      omega
    change (if (groupsOf (group :: outer) members).length = 1 then _ else _) = _
    rw [if_neg hmore]
    change (if members.isEmpty ∧ reading = .strict then _ else
      (ofReader ⟨outer, group.before, none, []⟩).push (.group group.operator members)) = _
    rw [push_ofReader]
    cases reading <;> cases members <;> rfl

/-- Both readers collect the parts of a condition alike. -/
theorem collect_ofReader {r : CriteriaReader} (hr : r.fragment.length < 3) (token : Token) :
    (ofReader r).collect token = .ok (ofReader (r.collect token)) := by
  unfold collect CriteriaReader.collect
  change (if (r.fragment ++ [token]).length = 3 then _ else _) = _
  dsimp only
  have hlength : (r.fragment ++ [token]).length = r.fragment.length + 1 := List.length_append
  by_cases hfull : (r.fragment ++ [token]).length = 3
  · rw [if_pos hfull, if_neg (by omega)]
    change (match conditionOf? ((r.fragment ++ [token]).map Token.kind) with
      | some test => _ | none => _) = _
    cases htest : conditionOf? ((r.fragment ++ [token]).map Token.kind) with
    | some test => exact push_ofReader { r with pending := none, fragment := [] } _
    | none => rfl
  · rw [if_neg hfull, if_pos (by omega)]
    rfl

/-- Both readers take an operand alike. -/
theorem readOperand_ofReader {r : CriteriaReader} (hr : r.fragment.length < 3) (token : Token) :
    (ofReader r).readOperand reading token = lift ofReader (r.readOperand reading token) := by
  unfold readOperand CriteriaReader.readOperand
  have hcollect := collect_ofReader hr token
  change (match reading, CriteriaReader.misfit? r.fragment.length token.kind with
    | .strict, some expected => Except.error (Halt.refused (.unexpectedToken token expected))
    | _, _ => (ofReader r).collect token) = _
  rw [hcollect]
  cases CriteriaReader.misfit? r.fragment.length token.kind <;> cases reading <;> rfl

/-- With no more than two tokens of a condition kept, reading a token with stacks is reading it. -/
theorem read_ofReader {r : CriteriaReader} (hr : r.fragment.length < 3) (token : Token) :
    (ofReader r).read reading token = lift ofReader (r.read reading token) := by
  unfold read
  split <;> rename_i hkeyword
  · rw [CriteriaReader.read_of_joins hkeyword (.inl rfl), join_ofReader]
  · rw [CriteriaReader.read_of_joins hkeyword (.inr rfl), join_ofReader]
  · rw [CriteriaReader.read_of_isNegation (beq_iff_eq.mpr hkeyword), negate_ofReader]
  · have hplain : token.kind.isOperator = false := by
      simp_all [TokenKind.isOperator, TokenKind.isJoining, TokenKind.isNegation]
    rw [CriteriaReader.read_of_isOperator_eq_false hplain]
    cases token.kind with
    | opening => exact openGroup_ofReader r token.offset
    | closing => exact closeGroup_ofReader r token.offset
    | _ => exact readOperand_ofReader hr token

/-- Both readers read tokens alike, from any state in which a condition is unfinished. -/
theorem foldlM_ofReader {r : CriteriaReader} (hr : r.fragment.length < 3) (ts : List Token) :
    ts.foldlM (read reading) (ofReader r) =
      lift ofReader (ts.foldlM (fun r t => CriteriaReader.read reading t r) r) := by
  induction ts generalizing r with
  | nil => rfl
  | cons t ts ih =>
    rw [List.foldlM_cons, List.foldlM_cons, read_ofReader hr]
    exact lift_bind fun next hnext => ih ((CriteriaReader.step_of_read hnext).2 hr)

/-- Reading with stacks is reading. -/
theorem readAll_eq_lift (reading : Reading) (ts : List Token) :
    readAll reading ts = lift ofReader (CriteriaReader.readAll reading ts) :=
  foldlM_ofReader (r := {}) (Nat.zero_lt_succ 2) ts

/-- The group that is the outermost has the members that are left when no other is closed any
more. -/
theorem getLast?_groupsOf (r : CriteriaReader) :
    (groupsOf r.opened r.members).getLast? = some { members := r.outermost } := by
  obtain ⟨opened, members, pending, fragment⟩ := r
  induction opened generalizing members with
  | nil => rfl
  | cons group outer ih =>
    rw [groupsOf, List.getLast?_cons, ih]
    cases outer <;> rfl

/-- At the end of the tokens both readers have the same criteria or the same error. -/
theorem finish_ofReader (r : CriteriaReader) :
    (ofReader r).finish reading = lift id (r.finish reading) := by
  unfold finish CriteriaReader.finish
  rw [withoutFragment_ofReader]
  refine lift_bind fun r _ => ?_
  rw [withoutPending_ofReader]
  refine lift_bind fun settled _ => ?_
  change (if 1 < (groupsOf settled.opened settled.members).length ∧ reading = .strict then
      Except.error (Halt.refused (.unclosedGroup
        ((groupsOf settled.opened settled.members).length - 1)))
    else match (groupsOf settled.opened settled.members).getLast? with
      | some outermost => Except.ok outermost
      | none => Except.error Halt.noGroup) = _
  rw [length_groupsOf, getLast?_groupsOf]
  obtain ⟨opened, members, pending, fragment⟩ := settled
  cases opened with
  | nil =>
    rw [if_neg fun h => Nat.lt_irrefl 1 h.1]
    rfl
  | cons group outer =>
    cases reading with
    | strict =>
      rw [if_pos ⟨Nat.succ_lt_succ outer.length.succ_pos, rfl⟩]
      rfl
    | lenient =>
      rw [if_neg fun h => nomatch h.2]
      rfl

/-- Below an open group are those that were open before it, the innermost with the members that it
had then. -/
theorem drop_groupsOf {opened outer : List OpenGroup} {group : OpenGroup} {i : Nat}
    (members : List Criterion) (h : opened.drop i = group :: outer) :
    ∃ inner, (groupsOf opened members).drop i =
      { operator := group.operator, members := inner } :: groupsOf outer group.before := by
  induction i generalizing opened members with
  | zero =>
    rw [List.drop_zero] at h
    subst h
    exact ⟨members, rfl⟩
  | succ i ih =>
    cases opened with
    | nil => cases h
    | cons innermost opened => exact ih innermost.before h

end

/-! What holds after tokens. -/

/-- What the stacks are after tokens: one group more than offsets, the offsets of the parentheses
without a partner, and below each entry what there was when its parenthesis was read. -/
structure InStep (reading : Reading) (ts : List Token) (s : StackReader) : Prop where
  length_groups : s.groups.length = s.offsets.length + 1
  reverse_offsets : s.offsets.reverse = openOffsets ts
  length_fragment : s.fragment.length < 3
  opened_by : ∀ i < s.offsets.length, ∃ before token after earlier members,
    ts = before ++ token :: after ∧ token.kind = .opening ∧
    readAll reading before = .ok earlier ∧
    s.offsets.drop i = token.offset :: earlier.offsets ∧
    s.groups.drop i = { operator := earlier.pending, members := members } :: earlier.groups

/-- The stacks of a reader that tokens lead to are in step, since they are made from the groups that
are open. -/
theorem inStep_ofReader {reading : Reading} {ts : List Token} {r : CriteriaReader}
    (h : CriteriaReader.readAll reading ts = .ok r) : InStep reading ts (ofReader r) where
  length_groups := by
    change (groupsOf r.opened r.members).length = (r.opened.map OpenGroup.openedAt).length + 1
    rw [length_groupsOf, List.length_map]
  reverse_offsets := by
    change (r.opened.map OpenGroup.openedAt).reverse = _
    rw [CriteriaReader.openedAt_of_readAll h, List.reverse_reverse]
  length_fragment := CriteriaReader.length_fragment_of_readAll h
  opened_by := by
    intro i hi
    change i < (r.opened.map OpenGroup.openedAt).length at hi
    rw [List.length_map] at hi
    have hdrop := List.drop_eq_getElem_cons hi
    obtain ⟨members, hgroups⟩ := drop_groupsOf r.members hdrop
    obtain ⟨before, token, after, earlier, rfl, hkind, hearlier, houter, hgroup⟩ :=
      CriteriaReader.wasOpened_of_suffix h (hdrop ▸ List.drop_suffix i r.opened)
    refine ⟨before, token, after, ofReader earlier, members, rfl, hkind, ?_, ?_, ?_⟩
    · rw [readAll_eq_lift, hearlier]
      rfl
    · change (r.opened.map OpenGroup.openedAt).drop i = _
      rw [← List.map_drop, hdrop, List.map_cons, hgroup, ← houter]
      rfl
    · change (groupsOf r.opened r.members).drop i = _
      rw [hgroups, hgroup, ← houter]
      rfl

/-- Reading with two stacks is reading criteria, so that neither a group nor an offset is ever
missing, and the stacks stay in step. That groups are open is reported at the end of strict reading,
with the number of parentheses without a partner. -/
theorem stacks_keep_in_step (reading : Reading) (ts : List Token) :
    readAll reading ts >>= finish reading =
        lift id (CriteriaReader.readAll reading ts >>= CriteriaReader.finish reading) ∧
      (∀ halt, readAll reading ts >>= finish reading = .error halt →
        ∃ error, halt = .refused error) ∧
      (∀ s, readAll reading ts = .ok s → s.groups ≠ [] ∧ InStep reading ts s) ∧
      ∀ n, readAll reading ts >>= finish reading = .error (.refused (.unclosedGroup n)) ↔
        reading = .strict ∧
          (∃ s, readAll .strict ts = .ok s ∧ s.fragment = [] ∧ s.pending = none) ∧
          openOffsets ts ≠ [] ∧ n = (openOffsets ts).length := by
  have heq : readAll reading ts >>= finish reading =
      lift id (CriteriaReader.readAll reading ts >>= CriteriaReader.finish reading) := by
    rw [readAll_eq_lift]
    exact lift_bind fun r _ => finish_ofReader r
  refine ⟨heq, ?_, ?_, ?_⟩
  · intro halt h
    rw [heq] at h
    obtain ⟨error, -, rfl⟩ := lift_eq_error_iff.mp h
    exact ⟨error, rfl⟩
  · intro s h
    rw [readAll_eq_lift] at h
    obtain ⟨r, hr, rfl⟩ := lift_eq_ok_iff.mp h
    have hstep := inStep_ofReader hr
    exact ⟨List.ne_nil_of_length_eq_add_one hstep.length_groups, hstep⟩
  · intro n
    have hreport : lift id (CriteriaReader.readAll reading ts >>= CriteriaReader.finish reading) =
          .error (.refused (.unclosedGroup n)) ↔
        CriteriaReader.readAll reading ts >>= CriteriaReader.finish reading =
          .error (.unclosedGroup n) := by
      simp only [lift_eq_error_iff, Halt.refused.injEq, exists_eq_right]
    have hsettled : (∃ s, readAll .strict ts = .ok s ∧ s.fragment = [] ∧ s.pending = none) ↔
        ∃ r, CriteriaReader.readAll .strict ts = .ok r ∧ r.fragment = [] ∧ r.pending = none := by
      rw [readAll_eq_lift]
      constructor
      · rintro ⟨s, hs, hclear⟩
        obtain ⟨r, hr, rfl⟩ := lift_eq_ok_iff.mp hs
        exact ⟨r, hr, hclear⟩
      · rintro ⟨r, hr, hclear⟩
        exact ⟨ofReader r, lift_eq_ok_iff.mpr ⟨r, hr, rfl⟩, hclear⟩
    rw [heq, hreport, hsettled]
    exact CriteriaReader.readAll_finish_eq_unclosedGroup_iff

/-- In `((A = "1")` the first of the parentheses is left open. -/
theorem stacks_keep_in_step_openOuter :
    let ts : List Token := [⟨.opening, 0⟩, ⟨.opening, 1⟩, ⟨.name "A" false, 2⟩,
      ⟨.comparator .equal, 4⟩, ⟨.literal "1", 6⟩, ⟨.closing, 9⟩]
    (∃ s, readAll .strict ts = .ok s ∧ s.offsets = [0] ∧ InStep .strict ts s) ∧
      readAll .strict ts >>= finish .strict = .error (.refused (.unclosedGroup 1)) :=
  ⟨⟨_, rfl, rfl, ((stacks_keep_in_step .strict _).2.2.1 _ rfl).2⟩,
    ((stacks_keep_in_step .strict _).2.2.2 1).mpr
      ⟨rfl, ⟨_, rfl, rfl, rfl⟩, by decide, by decide⟩⟩

end StackReader

end CatalogRecords.Query
