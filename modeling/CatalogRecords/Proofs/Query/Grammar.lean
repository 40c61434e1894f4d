import CatalogRecords.Proofs.Query.Rereading
import CatalogRecords.Proofs.Query.StrictReading
import Mathlib.Algebra.Group.Nat.Even
import Mathlib.Logic.Function.Iterate

/-!
# The grammar of criteria

Strict reading of criteria keeps a stack of open groups, an operator that waits and the tokens of a
condition that is not complete. What it accepts can be said without any of these: `Builds` derives
tokens and members together, each condition and each group with the operators that stand right
before it. A reader in any state has read what the grammar derives for the groups that are open, one
after the other from the outermost in, and the operators and tokens that wait. It accepts just the
tokens that the grammar derives, as the members that it derives them with.

Two negations cancel each other in the one place that there is for an operator, so that an even
number of them leaves no trace. The grammar has to allow such idle negations before AND and OR,
before a closing parenthesis and at the end.
-/

namespace CatalogRecords.Query

/-! Operators among tokens. -/

/-- Whether a token is the keyword NOT. -/
def TokenKind.isNegation (kind : TokenKind) : Bool := kind.keyword? == some "NOT"

/-- Whether a token is one of the keywords AND and OR. -/
def TokenKind.isJoining (kind : TokenKind) : Bool :=
  kind.keyword? == some "AND" || kind.keyword? == some "OR"

/-- Whether a token is one of the keywords AND, OR and NOT. -/
def TokenKind.isOperator (kind : TokenKind) : Bool := kind.isJoining || kind.isNegation

/-- AND and OR are the keywords of two of the operators. -/
theorem TokenKind.isJoining_iff {kind : TokenKind} :
    kind.isJoining = true ↔
      ∃ op : BooleanOperator, kind.keyword? = some op.text ∧ (op = .and ∨ op = .or) := by
  rw [isJoining, Bool.or_eq_true, beq_iff_eq, beq_iff_eq]
  constructor
  · rintro (hand | hor)
    · exact ⟨.and, hand, Or.inl rfl⟩
    · exact ⟨.or, hor, Or.inr rfl⟩
  · rintro ⟨op, hkind, rfl | rfl⟩
    · exact Or.inl hkind
    · exact Or.inr hkind

/-- What joins two operands is no negation. -/
theorem TokenKind.isNegation_eq_false_of_isJoining {kind : TokenKind}
    (h : kind.isJoining = true) : kind.isNegation = false := by
  obtain ⟨op, hkind, hop⟩ := isJoining_iff.mp h
  rw [isNegation, hkind]
  rcases hop with rfl | rfl <;> rfl

/-- Negations that cancel each other. -/
structure IsIdle (run : List TokenKind) : Prop where
  negations : ∀ kind ∈ run, kind.isNegation = true
  even : Even run.length

/-- The operators that stand before a condition or group, and what they come to: some negations, or
AND or OR and negations behind it. Negations before AND or OR have to cancel each other. -/
inductive Announces : List TokenKind → Option BooleanOperator → Prop
  | negations {run : List TokenKind} (hrun : ∀ kind ∈ run, kind.isNegation = true) :
      Announces run (BooleanOperator.negated^[run.length] none)
  | joined {idle run : List TokenKind} {kind : TokenKind} {op : BooleanOperator}
      (hidle : IsIdle idle) (hkind : kind.keyword? = some op.text) (hop : op = .and ∨ op = .or)
      (hrun : ∀ kind ∈ run, kind.isNegation = true) :
      Announces (idle ++ kind :: run) (BooleanOperator.negated^[run.length] (some op))

/-- The tokens of members one after the other, each with its operators before it. -/
inductive Builds : List TokenKind → List Criterion → Prop
  | nil : Builds [] []
  | condition {kinds run : List TokenKind} {members : List Criterion}
      {op : Option BooleanOperator} {field literal : String} {bracketed : Bool}
      {comparator : Comparator} (h : Builds kinds members) (hrun : Announces run op)
      (hfield : (TokenKind.name field bracketed).isOperator = false) :
      Builds (kinds ++ (run ++ [.name field bracketed, .comparator comparator, .literal literal]))
        (members ++ [.condition op ⟨field, comparator, literal⟩])
  | group {kinds run inner idle : List TokenKind} {members innerMembers : List Criterion}
      {op : Option BooleanOperator} (h : Builds kinds members) (hrun : Announces run op)
      (hinner : Builds inner innerMembers) (hne : innerMembers ≠ []) (hidle : IsIdle idle) :
      Builds (kinds ++ (run ++ .opening :: (inner ++ idle ++ [.closing])))
        (members ++ [.group op innerMembers])

/-- An operand may come with nothing before it, and then has no operator. -/
theorem announces_nil : Announces [] none := .negations (by simp)

/-- A negation behind operators turns around what they come to. -/
theorem Announces.negated {run : List TokenKind} {op : Option BooleanOperator} {kind : TokenKind}
    (h : Announces run op) (hkind : kind.isNegation = true) :
    Announces (run ++ [kind]) (BooleanOperator.negated op) := by
  have hconcat {run : List TokenKind} (hrun : ∀ kind ∈ run, kind.isNegation = true) :
      ∀ k ∈ run ++ [kind], k.isNegation = true := by
    simpa [or_imp, forall_and, hkind] using hrun
  cases h with
  | negations hrun =>
    have hmore := Announces.negations (hconcat hrun)
    rwa [List.length_append, List.length_singleton, Function.iterate_succ_apply'] at hmore
  | joined hidle hop hjoins hrun =>
    have hmore := Announces.joined hidle hop hjoins (hconcat hrun)
    rw [List.length_append, List.length_singleton, Function.iterate_succ_apply'] at hmore
    simpa using hmore

/-- Negations cancel each other two by two. -/
theorem iterate_negated (n : Nat) (op : Option BooleanOperator) :
    BooleanOperator.negated^[n] op = if Even n then op else BooleanOperator.negated op := by
  induction n with
  | zero => rfl
  | succ n ih =>
    rw [Function.iterate_succ_apply', ih]
    by_cases hn : Even n
    · simp [hn, Nat.even_add_one]
    · simp [hn, Nat.even_add_one, BooleanOperator.negated_negated]

/-- Operators that come to none are negations that cancel each other. -/
theorem Announces.isIdle {run : List TokenKind} (h : Announces run none) : IsIdle run := by
  generalize hop : (none : Option BooleanOperator) = op at h
  cases h with
  | negations hrun =>
    refine ⟨hrun, ?_⟩
    by_contra hodd
    rw [iterate_negated, if_neg hodd] at hop
    cases hop
  | joined hidle hkind hjoins hrun =>
    rw [iterate_negated] at hop
    rcases hjoins with rfl | rfl <;> split at hop <;> cases hop

/-! What a reader does with a token. -/

namespace CriteriaReader

variable {reading : Reading} {r r' : CriteriaReader} {token : Token} {kinds : List TokenKind}

/-- A token `AND` or `OR` joins. -/
theorem read_of_joins {op : BooleanOperator} (hkind : token.kind.keyword? = some op.text)
    (hop : op = .and ∨ op = .or) : r.read reading token = r.join reading op token := by
  rcases hop with rfl | rfl <;> simp [read, hkind, BooleanOperator.text]

/-- A token `NOT` negates. -/
theorem read_of_isNegation (h : token.kind.isNegation = true) :
    r.read reading token = r.negate reading token := by
  rw [TokenKind.isNegation, beq_iff_eq] at h
  simp [read, h]

/-- A token that is no operator opens or closes a group, or belongs to a condition. -/
theorem read_of_isOperator_eq_false (h : token.kind.isOperator = false) :
    r.read reading token = match token.kind with
      | .opening => r.openGroup reading token.offset
      | .closing => r.closeGroup reading token.offset
      | _ => r.readOperand reading token := by
  simp only [TokenKind.isOperator, TokenKind.isJoining, TokenKind.isNegation, Bool.or_eq_false_iff,
    beq_eq_false_iff_ne] at h
  obtain ⟨⟨hand, hor⟩, hnot⟩ := h
  unfold read
  split
  · contradiction
  · contradiction
  · contradiction
  · rfl

/-! Reading is deriving. -/

/-- The tokens up to the last complete member of the innermost group, given the open groups and the
members of the innermost. -/
inductive Opens : List TokenKind → List OpenGroup → List Criterion → Prop
  | outermost {kinds : List TokenKind} {members : List Criterion} (h : Builds kinds members) :
      Opens kinds [] members
  | inside {kinds run inner : List TokenKind} {outer : List OpenGroup} {group : OpenGroup}
      {members : List Criterion} (h : Opens kinds outer group.before)
      (hrun : Announces run group.operator) (hinner : Builds inner members) :
      Opens (kinds ++ (run ++ .opening :: inner)) (group :: outer) members

/-- The first tokens of a condition. -/
inductive IsBegun : List TokenKind → Prop
  | nil : IsBegun []
  | field (field : String) (bracketed : Bool)
      (hfield : (TokenKind.name field bracketed).isOperator = false) :
      IsBegun [.name field bracketed]
  | comparator (field : String) (bracketed : Bool) (comparator : Comparator)
      (hfield : (TokenKind.name field bracketed).isOperator = false) :
      IsBegun [.name field bracketed, .comparator comparator]

/-- A reader has read what is derived for the groups that are open, then the operators that wait,
and then the first tokens of a condition. -/
def HasRead (kinds : List TokenKind) (r : CriteriaReader) : Prop :=
  ∃ done run, kinds = done ++ (run ++ r.fragment.map Token.kind) ∧
    Opens done r.opened r.members ∧ Announces run r.pending ∧ IsBegun (r.fragment.map Token.kind)

/-- What a member adds to any members it adds to those of the innermost group. -/
theorem Opens.extend {more : List TokenKind} {opened : List OpenGroup}
    {members : List Criterion} {c : Criterion} (h : Opens kinds opened members)
    (hmore : ∀ {kinds members}, Builds kinds members → Builds (kinds ++ more) (members ++ [c])) :
    Opens (kinds ++ more) opened (members ++ [c]) := by
  cases h with
  | outermost h => exact .outermost (hmore h)
  | inside h hrun hinner =>
    rw [List.append_assoc, List.append_assoc, List.cons_append]
    exact .inside h hrun (hmore hinner)

/-- A reader without tokens of a condition has read members and operators. -/
theorem HasRead.of_nil (h : HasRead kinds r) (hfragment : r.fragment = []) :
    ∃ done run, kinds = done ++ run ∧ Opens done r.opened r.members ∧
      Announces run r.pending := by
  obtain ⟨done, run, rfl, hopens, hrun, -⟩ := h
  exact ⟨done, run, by simp [hfragment], hopens, hrun⟩

/-- Tokens that have been read, followed by one that joins, have been read. -/
theorem HasRead.join {op : BooleanOperator} (h : HasRead kinds r)
    (hkind : token.kind.keyword? = some op.text) (hop : op = .and ∨ op = .or)
    (hread : r.join .strict op token = .ok r') : HasRead (kinds ++ [token.kind]) r' := by
  obtain ⟨rfl, hpending, hfragment⟩ := eq_of_join hread
  obtain ⟨done, run, rfl, hopens, hrun⟩ := h.of_nil hfragment
  rw [hpending] at hrun
  refine ⟨done, run ++ [token.kind], ?_, hopens, ?_, ?_⟩
  · simp [hfragment]
  · exact .joined hrun.isIdle hkind hop (List.forall_mem_nil _)
  · simpa [hfragment] using IsBegun.nil

/-- Tokens that have been read, followed by a negation, have been read. -/
theorem HasRead.negate (h : HasRead kinds r) (hkind : token.kind.isNegation = true)
    (hread : r.negate .strict token = .ok r') : HasRead (kinds ++ [token.kind]) r' := by
  obtain ⟨rfl, hfragment⟩ := eq_of_negate hread
  obtain ⟨done, run, rfl, hopens, hrun⟩ := h.of_nil hfragment
  refine ⟨done, run ++ [token.kind], ?_, hopens, hrun.negated hkind, ?_⟩
  · simp [hfragment]
  · simpa [hfragment] using IsBegun.nil

/-- Tokens that have been read, followed by an opening parenthesis, have been read. -/
theorem HasRead.openGroup {offset : Nat} (h : HasRead kinds r)
    (hread : r.openGroup .strict offset = .ok r') : HasRead (kinds ++ [.opening]) r' := by
  obtain ⟨rfl, hfragment⟩ := eq_of_openGroup hread
  obtain ⟨done, run, rfl, hopens, hrun⟩ := h.of_nil hfragment
  refine ⟨done ++ (run ++ [.opening]), [], ?_, ?_, announces_nil, .nil⟩
  · simp
  · exact .inside hopens hrun .nil

/-- Tokens that have been read, followed by a closing parenthesis, have been read. -/
theorem HasRead.closeGroup {offset : Nat} (h : HasRead kinds r)
    (hread : r.closeGroup .strict offset = .ok r') : HasRead (kinds ++ [.closing]) r' := by
  obtain ⟨group, outer, rfl, hopened, hne, hfragment, hpending⟩ := eq_of_closeGroup hread
  obtain ⟨done, idle, rfl, hopens, hidle⟩ := h.of_nil hfragment
  rw [hpending] at hidle
  rw [hopened] at hopens
  cases hopens with
  | @inside before run inner _ _ _ houter hrun hinner =>
    have hclosed := houter.extend fun hbuilt => hbuilt.group hrun hinner hne hidle.isIdle
    refine ⟨_, [], ?_, hclosed, announces_nil, .nil⟩
    simp

/-- Tokens that have been read, followed by a part of a condition, have been read. -/
theorem HasRead.readOperand (h : HasRead kinds r) (hplain : token.kind.isOperator = false)
    (hread : r.readOperand .strict token = .ok r') : HasRead (kinds ++ [token.kind]) r' := by
  rw [CriteriaReader.readOperand] at hread
  split at hread
  · exact absurd hread refuse_strict_ne_ok
  rename_i hfits
  cases hread
  obtain ⟨done, run, rfl, hopens, hrun, hbegun⟩ := h
  obtain ⟨opened, members, pending, fragment⟩ := r
  obtain ⟨kind, offset⟩ := token
  -- The cases are the numbers of tokens that there are of the condition.
  rcases fragment with _ | ⟨⟨first, _⟩, _ | ⟨⟨second, _⟩, _ | ⟨third, rest⟩⟩⟩
  · cases kind with
    | name field bracketed =>
      exact ⟨done, run, by simp [collect], hopens, hrun, .field field bracketed hplain⟩
    | _ => cases hfits
  · cases kind with
    | comparator comparator =>
      cases hbegun with
      | field field bracketed hfield =>
        exact ⟨done, run, by simp [collect], hopens, hrun,
          .comparator field bracketed comparator hfield⟩
    | _ => cases hfits
  · cases kind with
    | literal value =>
      cases hbegun with
      | comparator field bracketed comparator hfield =>
        -- The third token completes the condition, and the operators have found their place.
        have hmore : Opens
            (done ++ (run ++ [.name field bracketed, .comparator comparator, .literal value]))
            opened (members ++ [.condition pending ⟨field, comparator, value⟩]) :=
          hopens.extend fun hbuilt => hbuilt.condition hrun hfield
        exact ⟨_, [], by simp [collect], hmore, announces_nil, .nil⟩
    | _ => cases hfits
  · cases hbegun

/-- What is read stays derived. -/
theorem HasRead.read (h : HasRead kinds r) (hread : r.read .strict token = .ok r') :
    HasRead (kinds ++ [token.kind]) r' := by
  by_cases hjoining : token.kind.isJoining = true
  · obtain ⟨op, hkind, hop⟩ := TokenKind.isJoining_iff.mp hjoining
    rw [read_of_joins hkind hop] at hread
    exact h.join hkind hop hread
  by_cases hnegation : token.kind.isNegation = true
  · rw [read_of_isNegation hnegation] at hread
    exact h.negate hnegation hread
  have hplain : token.kind.isOperator = false := by simp [TokenKind.isOperator, hjoining, hnegation]
  rw [read_of_isOperator_eq_false hplain] at hread
  split at hread
  · rename_i hkind
    rw [hkind]
    exact h.openGroup hread
  · rename_i hkind
    rw [hkind]
    exact h.closeGroup hread
  · exact h.readOperand hplain hread

/-- Whatever tokens were read, they stay derived. -/
theorem HasRead.foldlM {ts : List Token} (h : HasRead kinds r)
    (hread : ts.foldlM (fun r t => CriteriaReader.read .strict t r) r = .ok r') :
    HasRead (kinds ++ ts.map Token.kind) r' := by
  induction ts generalizing kinds r with
  | nil =>
    cases hread
    simpa using h
  | cons t ts ih =>
    rw [List.foldlM_cons] at hread
    obtain ⟨next, hnext, hrest⟩ := bind_eq_ok_iff.mp hread
    simpa using ih (h.read hnext) hrest

/-- Without tokens nothing has been read. -/
theorem hasRead_nil : HasRead [] {} :=
  ⟨[], [], rfl, .outermost .nil, announces_nil, .nil⟩

/-- A reader that can end has read members, and idle negations behind them. -/
theorem HasRead.finish {criteria : Criteria} (h : HasRead kinds r)
    (hfinish : r.finish .strict = .ok criteria) :
    ∃ done idle, kinds = done ++ idle ∧ Builds done criteria.members ∧ IsIdle idle := by
  obtain ⟨rfl, hopened, hfragment, hpending⟩ := eq_of_finish hfinish
  obtain ⟨done, run, rfl, hopens, hrun⟩ := h.of_nil hfragment
  rw [hopened] at hopens
  rw [hpending] at hrun
  cases hopens with
  | outermost hbuilds => exact ⟨done, run, rfl, hbuilds, hrun.isIdle⟩

/-! Deriving is reading. -/

variable {opened : List OpenGroup} {before members : List Criterion} {op : Option BooleanOperator}

/-- A negation turns the operator around that waits. -/
theorem reads_negations {run : List TokenKind} (hrun : ∀ kind ∈ run, kind.isNegation = true) :
    ReadsCriteria run ⟨opened, before, op, []⟩
      ⟨opened, before, BooleanOperator.negated^[run.length] op, []⟩ := by
  induction run generalizing op with
  | nil => exact Reads.nil
  | cons kind run ih =>
    rw [List.forall_mem_cons] at hrun
    refine Reads.cons fun offset => ⟨_, ?_, ih hrun.2⟩
    rw [read_of_isNegation hrun.1]
    rfl

/-- Negations that cancel one another leave the reader as it was. -/
theorem reads_idle {idle : List TokenKind} (hidle : IsIdle idle) :
    ReadsCriteria idle ⟨opened, before, op, []⟩ ⟨opened, before, op, []⟩ := by
  have hkept : BooleanOperator.negated^[idle.length] op = op := by
    rw [iterate_negated, if_pos hidle.even]
  have hreads := @reads_negations opened before op idle hidle.negations
  rwa [hkept] at hreads

/-- Operators are read as what they come to. -/
theorem reads_announced {run : List TokenKind} (hrun : Announces run op) :
    ReadsCriteria run ⟨opened, before, none, []⟩ ⟨opened, before, op, []⟩ := by
  cases hrun with
  | negations hrun => exact reads_negations hrun
  | @joined idle run kind op hidle hkind hop hrun =>
    refine (reads_idle hidle).append (Reads.cons fun offset => ⟨_, ?_, reads_negations hrun⟩)
    rw [read_of_joins hkind hop]
    rfl

/-- Tokens that are derived as members are read as these. -/
theorem reads_built (h : Builds kinds members) :
    ReadsCriteria kinds ⟨opened, before, none, []⟩ ⟨opened, before ++ members, none, []⟩ := by
  induction h generalizing opened before with
  | nil => simpa using Reads.nil
  | @condition _ _ members op field _ bracketed _ h hrun hfield ih =>
    rw [← List.append_assoc before]
    have hfirst (offset : Nat) : CriteriaReader.read .strict ⟨.name field bracketed, offset⟩
        ⟨opened, before ++ members, op, []⟩ =
          .ok ⟨opened, before ++ members, op, [⟨.name field bracketed, offset⟩]⟩ := by
      rw [read_of_isOperator_eq_false hfield]
      rfl
    exact ih.append ((reads_announced hrun).append (Reads.cons fun offset => ⟨_, hfirst offset,
      Reads.cons fun _ => ⟨_, rfl, Reads.single fun _ => rfl⟩⟩))
  | group h hrun hinner hne hidle ih ihinner =>
    rw [← List.append_assoc before]
    refine ih.append ((reads_announced hrun).append (reads_group hne fun opened => ?_))
    exact ihinner.append (reads_idle hidle)

/-- Strict reading accepts just the tokens that are derived, with idle negations behind them, and
comes to the members that they are derived as. -/
theorem read_eq_ok_iff {ts : List Token} {criteria : Criteria} :
    (ts.foldlM (fun r t => CriteriaReader.read .strict t r) {} >>= fun r => r.finish .strict) =
        .ok criteria ↔
      criteria.operator = none ∧ ∃ done idle, ts.map Token.kind = done ++ idle ∧
        Builds done criteria.members ∧ IsIdle idle := by
  constructor
  · intro hread
    obtain ⟨r, hfold, hfinish⟩ := bind_eq_ok_iff.mp hread
    refine ⟨?_, (hasRead_nil.foldlM hfold).finish hfinish⟩
    rw [(eq_of_finish hfinish).1]
  · rintro ⟨hoperator, done, idle, hkinds, hbuilds, hidle⟩
    have hbuilt : ReadsCriteria done {} ⟨[], [] ++ criteria.members, none, []⟩ :=
      reads_built hbuilds
    have hreads := (hbuilt.append (reads_idle hidle)) ts hkinds
    obtain ⟨operator, members⟩ := criteria
    cases hoperator
    refine bind_eq_ok_iff.mpr ⟨_, hreads, ?_⟩
    rfl

end CriteriaReader

/-! The criteria of a text. -/

/-- The tokens of a clause among tokens that follow those of another one, without keywords that
begin clauses. -/
def tokensOf (clause : Clause) : Option Clause → List Token → List Token
  | _, [] => []
  | current, t :: ts =>
    match t.kind.clause? with
    | some next => tokensOf clause (some next) ts
    | none =>
      if current = some clause then t :: tokensOf clause current ts else tokensOf clause current ts

/-- The tokens of the criteria of a text. -/
def criteriaKindsOf (text : String) : List TokenKind :=
  (tokensOf .criteria none (tokens text)).map Token.kind

namespace ExpressionReader

variable {r r' : ExpressionReader} {token : Token} {ts : List Token}

/-- A token that begins no clause is one of the criteria's, or leaves them as they are. -/
theorem criteria_of_read (hclause : token.kind.clause? = none)
    (hread : r.read .strict token = .ok r') :
    r'.clause = r.clause ∧
      if r.clause = some .criteria then r.criteria.read .strict token = .ok r'.criteria
      else r'.criteria = r.criteria := by
  cases expressionStep_of_read hread with
  | begin clause hbegun => cases hclause.symm.trans hbegun
  | select name hselect => simp [hselect]
  | source name bracketed hsource => simp [hsource]
  | criteria criteria hcriteria hstep => simp [hcriteria, hstep]
  | order order horder => simp [horder]

/-- The criteria of an expression are read from the tokens of their clause. -/
theorem criteria_of_foldlM (hread : ts.foldlM (ExpressionReader.read .strict) r = .ok r') :
    (tokensOf .criteria r.clause ts).foldlM (fun r t => CriteriaReader.read .strict t r)
      r.criteria = .ok r'.criteria := by
  induction ts generalizing r with
  | nil =>
    cases hread
    rfl
  | cons t ts ih =>
    rw [List.foldlM_cons] at hread
    obtain ⟨next, hnext, hrest⟩ := bind_eq_ok_iff.mp hread
    have hih := ih hrest
    rw [tokensOf]
    cases hclause : t.kind.clause? with
    | some clause =>
      rw [read_of_clause?_eq_some .strict r hclause] at hnext
      obtain ⟨rfl, -⟩ := eq_of_begin hnext
      exact hih
    | none =>
      obtain ⟨hsame, hcriteria⟩ := criteria_of_read hclause hnext
      rw [hsame] at hih
      dsimp only
      split
      · rename_i hcurrent
        rw [if_pos hcurrent] at hcriteria
        rw [List.foldlM_cons, hcriteria]
        exact hih
      · rename_i hother
        rw [if_neg hother] at hcriteria
        rwa [hcriteria] at hih

end ExpressionReader

/-- The tokens of the criteria of a text that is read strictly are derived as the criteria of the
expression, up to idle negations at the end. -/
theorem builds_of_read {text : String} {e : SearchExpression}
    (hread : SearchExpression.read .strict text = .ok e) :
    ∃ done idle, criteriaKindsOf text = done ++ idle ∧ Builds done e.criteria.members ∧
      IsIdle idle := by
  obtain ⟨r, hfold, hfinish⟩ := exists_foldlM_of_read hread
  obtain ⟨_, -, -, criteria, hcriteria, rfl⟩ := ExpressionReader.eq_of_finish hfinish
  have htokens := ExpressionReader.criteria_of_foldlM hfold
  exact (CriteriaReader.read_eq_ok_iff.mp (bind_eq_ok_iff.mpr ⟨_, htokens, hcriteria⟩)).2

end CatalogRecords.Query
