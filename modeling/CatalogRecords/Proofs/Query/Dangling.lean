import CatalogRecords.Proofs.Query.Grammar

/-!
# Operators with nothing to apply to

An operator applies to the condition or group that it stands before, with nothing but negations in
between. Strict reading refuses operators that do not, with one exception: where no other operator
waits, two negations cancel each other before they are missed, so that an even number of them is
accepted before AND and OR, before a closing parenthesis and at the end. These idle negations are
the only operators of an accepted text that apply to nothing.
-/

namespace CatalogRecords.Query

/-- Whether tokens begin with a condition or with an opening parenthesis. -/
def BeginsOperand : List TokenKind → Prop
  | .opening :: _ => True
  | .name text bracketed :: .comparator _ :: .literal _ :: _ =>
    (TokenKind.name text bracketed).isOperator = false
  | _ => False

/-- Whether an operator before these tokens has something to apply to: after negations comes a
condition or a group. -/
def HasOperand (after : List TokenKind) : Prop :=
  BeginsOperand (after.dropWhile TokenKind.isNegation)

/-- Whether tokens do not end in an operator. -/
def EndsPlain (before : List TokenKind) : Prop :=
  ∀ kind ∈ before.getLast?, kind.isOperator = false

/-- Whether there are no tokens, or they begin with AND, OR or a closing parenthesis. -/
def BeginsBreak (after : List TokenKind) : Prop :=
  ∀ kind ∈ after.head?, kind = .closing ∨ kind.isJoining = true

/-- Whether a token is one of an even number of negations that no other operator stands before and
that no condition or group comes after. -/
def StandsIdle (before : List TokenKind) (kind : TokenKind) (after : List TokenKind) : Prop :=
  ∃ outside left right beyond, before = outside ++ left ∧ after = right ++ beyond ∧
    IsIdle (left ++ kind :: right) ∧ EndsPlain outside ∧ BeginsBreak beyond

/-! Neighbours of operators. -/

variable {before after kinds more run : List TokenKind} {kind : TokenKind}
  {members : List Criterion} {op : Option BooleanOperator}

/-- Dropping the negations takes a run of them away and goes on after it. -/
theorem dropWhile_negations (hrun : ∀ kind ∈ run, kind.isNegation = true)
    (after : List TokenKind) :
    (run ++ after).dropWhile TokenKind.isNegation = after.dropWhile TokenKind.isNegation :=
  List.dropWhile_append_of_pos hrun

/-- A condition or a group begins with no operator, and with no closing parenthesis. -/
theorem BeginsOperand.head (h : BeginsOperand (kind :: after)) :
    kind.isOperator = false ∧ kind ≠ .closing := by
  unfold BeginsOperand at h
  split at h
  · rename_i heq
    cases heq
    exact ⟨rfl, TokenKind.noConfusion⟩
  · rename_i heq
    cases heq
    exact ⟨h, TokenKind.noConfusion⟩
  · contradiction

/-- An operator right before a condition or a group has that to apply to. -/
theorem BeginsOperand.hasOperand (h : BeginsOperand after) : HasOperand after := by
  cases after with
  | nil => exact h
  | cons kind after =>
    have hplain := h.head.1
    rw [TokenKind.isOperator, Bool.or_eq_false_iff] at hplain
    rwa [HasOperand, List.dropWhile_cons_of_neg (by simp [hplain.2])]

/-- An operator has nothing to apply to before AND and OR, before a closing parenthesis and at the
end. -/
theorem BeginsBreak.not_hasOperand (h : BeginsBreak after) : ¬HasOperand after := by
  cases after with
  | nil => exact id
  | cons kind after =>
    intro hoperand
    rcases h kind rfl with rfl | hjoining
    · exact hoperand
    · rw [HasOperand, List.dropWhile_cons_of_neg
        (by simp [TokenKind.isNegation_eq_false_of_isJoining hjoining])] at hoperand
      have hplain := hoperand.head.1
      rw [TokenKind.isOperator, hjoining] at hplain
      cases hplain

/-- Idle negations apply to nothing. -/
theorem StandsIdle.not_hasOperand (h : StandsIdle before kind after) : ¬HasOperand after := by
  obtain ⟨_, left, right, beyond, -, rfl, hidle, -, hbreak⟩ := h
  have hright : ∀ k ∈ right, k.isNegation = true :=
    fun k hk => hidle.negations k (by simp [hk])
  rw [HasOperand, dropWhile_negations hright]
  exact hbreak.not_hasOperand

/-! Operators in their place. -/

/-- Whether the operators among tokens have something to apply to or are idle, with the tokens that
stand around. -/
def ArePlaced (before kinds after : List TokenKind) : Prop :=
  ∀ left kind right, kinds = left ++ kind :: right → kind.isOperator = true →
    HasOperand (right ++ after) ∨ StandsIdle (before ++ left) kind (right ++ after)

/-- Tokens in their places, followed by more in theirs, are all in their places. -/
theorem ArePlaced.append (h : ArePlaced before kinds (more ++ after))
    (hmore : ArePlaced (before ++ kinds) more after) : ArePlaced before (kinds ++ more) after := by
  intro left kind right hsplit hop
  rcases List.append_eq_append_iff.mp hsplit with ⟨middle, rfl, hright⟩ | ⟨middle, rfl, hright⟩
  · rw [← List.append_assoc]
    exact hmore middle kind right hright hop
  · cases middle with
    | nil =>
      rw [List.nil_append] at hright
      simpa using hmore [] kind right hright.symm hop
    | cons first middle =>
      rw [List.cons_append] at hright
      injection hright with hfirst hrest
      rw [hfirst, hrest, List.append_assoc]
      exact h left first middle rfl (hfirst ▸ hop)

/-- A token in its place, followed by more in theirs, makes all of them in their places. -/
theorem ArePlaced.cons (h : ArePlaced before [kind] (kinds ++ after))
    (hrest : ArePlaced (before ++ [kind]) kinds after) : ArePlaced before (kind :: kinds) after :=
  h.append hrest

/-- Tokens that are no operators need nothing to apply to. -/
theorem arePlaced_of_forall (h : ∀ kind ∈ kinds, kind.isOperator = false) :
    ArePlaced before kinds after := by
  rintro left kind right rfl hop
  rw [h kind (by simp)] at hop
  cases hop

/-- A token may be an operator if it has something to apply to. -/
theorem arePlaced_singleton (hafter : HasOperand after) : ArePlaced before [kind] after := by
  intro left first right hsplit _
  obtain ⟨-, hright⟩ := List.append_eq_singleton_iff.mp hsplit.symm |>.resolve_right (by simp)
  injection hright with _ hright
  rw [hright]
  exact Or.inl hafter

/-- Negations before a condition or a group apply to it. -/
theorem hasOperand_of_negations (hrun : ∀ kind ∈ run, kind.isNegation = true)
    (hafter : BeginsOperand after) : HasOperand (run ++ after) := by
  rw [HasOperand, dropWhile_negations hrun]
  exact hafter.hasOperand

/-- Negations are in their places where an operand begins after them. -/
theorem arePlaced_negations (hrun : ∀ kind ∈ run, kind.isNegation = true)
    (hafter : BeginsOperand after) : ArePlaced before run after := by
  rintro left kind right rfl -
  exact Or.inl (hasOperand_of_negations (fun k hk => hrun k (by simp [hk])) hafter)

/-- Idle negations are idle where they come to an end. -/
theorem arePlaced_idle (hidle : IsIdle run) (hbefore : EndsPlain before)
    (hafter : BeginsBreak after) : ArePlaced before run after := by
  rintro left kind right rfl -
  exact Or.inr ⟨before, left, right, after, rfl, rfl, hidle, hbefore, hafter⟩

/-- Operators before a condition or a group apply to it, but for idle negations before AND and
OR. -/
theorem arePlaced_announced (hrun : Announces run op) (hbefore : EndsPlain before)
    (hafter : BeginsOperand after) : ArePlaced before run after := by
  cases hrun with
  | negations hrun => exact arePlaced_negations hrun hafter
  | @joined idle run kind op hidle hkind hop hrun =>
    have hjoining : kind.isJoining = true := TokenKind.isJoining_iff.mpr ⟨op, hkind, hop⟩
    have hbreak : BeginsBreak (kind :: run ++ after) := by
      intro k hk
      cases hk
      exact Or.inr hjoining
    refine ArePlaced.append (arePlaced_idle hidle hbefore hbreak) ?_
    exact ArePlaced.cons (arePlaced_singleton (hasOperand_of_negations hrun hafter))
      (arePlaced_negations hrun hafter)

/-- Tokens end plainly if the last of them is no operator. -/
theorem endsPlain_concat (before : List TokenKind) (hkind : kind.isOperator = false) :
    EndsPlain (before ++ [kind]) := by
  intro k hk
  rw [List.getLast?_concat] at hk
  cases hk
  exact hkind

/-- Members end in a literal or in a closing parenthesis. -/
theorem Builds.endsPlain (h : Builds kinds members) (hbefore : EndsPlain before) :
    EndsPlain (before ++ kinds) := by
  cases h with
  | nil => rwa [List.append_nil]
  | @condition kinds run _ _ field literal bracketed comparator h hrun hfield =>
    have hliteral : (TokenKind.literal literal).isOperator = false := rfl
    have hends := endsPlain_concat
      (before ++ kinds ++ run ++ [.name field bracketed, .comparator comparator]) hliteral
    simpa using hends
  | @group kinds run inner idle _ _ _ h hrun hinner hne hidle =>
    have hclosing : TokenKind.closing.isOperator = false := rfl
    have hends := endsPlain_concat (before ++ kinds ++ run ++ .opening :: (inner ++ idle)) hclosing
    simpa using hends

/-- The operators among the tokens of members have something to apply to, or are idle. -/
theorem Builds.arePlaced (h : Builds kinds members) (hbefore : EndsPlain before) :
    ArePlaced before kinds after := by
  induction h generalizing before after with
  | nil => exact arePlaced_of_forall (List.forall_mem_nil _)
  | @condition kinds run _ _ field literal bracketed comparator h hrun hfield ih =>
    have hoperand : BeginsOperand
        ([.name field bracketed, .comparator comparator, .literal literal] ++ after) := hfield
    have hannounced := arePlaced_announced hrun (h.endsPlain hbefore) hoperand
    refine (ih hbefore).append (hannounced.append (arePlaced_of_forall ?_))
    rw [List.forall_mem_cons, List.forall_mem_cons, List.forall_mem_singleton]
    exact ⟨hfield, rfl, rfl⟩
  | @group kinds run inner idle _ _ _ h hrun hinner hne hidle ih ihinner =>
    have hoperand : BeginsOperand (.opening :: (inner ++ idle ++ [.closing]) ++ after) := trivial
    have hannounced := arePlaced_announced hrun (h.endsPlain hbefore) hoperand
    have hopening : EndsPlain (before ++ kinds ++ run ++ [.opening]) := endsPlain_concat _ rfl
    have hbreak : BeginsBreak ([.closing] ++ after) := by
      intro k hk
      cases hk
      exact Or.inl rfl
    have hinside : ArePlaced (before ++ kinds ++ run ++ [.opening]) (inner ++ idle)
        ([.closing] ++ after) := (ihinner hopening).append
      (arePlaced_idle hidle (hinner.endsPlain hopening) hbreak)
    have hclosed : ArePlaced (before ++ kinds ++ run ++ [.opening]) (inner ++ idle ++ [.closing])
        after := hinside.append (arePlaced_of_forall (List.forall_mem_singleton.mpr rfl))
    refine (ih hbefore).append (hannounced.append ?_)
    exact ArePlaced.cons (arePlaced_of_forall (List.forall_mem_singleton.mpr rfl)) hclosed

/-- The criteria of a text that is read strictly are derived from their tokens, each condition and
group with the operators right before it. An operator has something to apply to just if it does not
stand idle among negations that cancel each other. -/
theorem operator_applies_iff {text : String} {e : SearchExpression}
    (hread : SearchExpression.read .strict text = .ok e) :
    (∃ done idle, criteriaKindsOf text = done ++ idle ∧ Builds done e.criteria.members ∧
      IsIdle idle) ∧
    ∀ before kind after, criteriaKindsOf text = before ++ kind :: after →
      kind.isOperator = true → (HasOperand after ↔ ¬StandsIdle before kind after) := by
  obtain ⟨done, idle, hdone, hbuilds, hidle⟩ := builds_of_read hread
  refine ⟨⟨done, idle, hdone, hbuilds, hidle⟩, fun before kind after hkinds hop => ?_⟩
  constructor
  · exact fun hoperand hstands => hstands.not_hasOperand hoperand
  · intro hbusy
    have hstart : EndsPlain [] := by simp [EndsPlain]
    have hend : BeginsBreak [] := by simp [BeginsBreak]
    have hplaced : ArePlaced [] (done ++ idle) [] := (hbuilds.arePlaced hstart).append
      (arePlaced_idle hidle (hbuilds.endsPlain hstart) hend)
    have hone := hplaced before kind after (hdone.symm.trans hkinds) hop
    rw [List.append_nil] at hone
    exact hone.resolve_right hbusy

/-- A text with two negations at the end of a group and one before a condition. -/
def negatedText : String := "SELECT * FROM [SI] WHERE ([A] = \"1\" NOT NOT) AND NOT [B] = \"2\""

/-- What the text says. -/
def negatedExpression : SearchExpression where
  select := [allFields]
  source := "SI"
  criteria := { members := [
    .group none [.condition none ⟨"A", .equal, "1"⟩],
    .condition (some .andNot) ⟨"B", .equal, "2"⟩] }
  orderBy := []

/-- The first negation of the text is idle, and its AND is not. -/
theorem negatedText_operators_apply :
    SearchExpression.read .strict negatedText = .ok negatedExpression ∧
      StandsIdle [.opening, .name "A" true, .comparator .equal, .literal "1"] (.word "NOT")
        [.word "NOT", .closing, .word "AND", .word "NOT", .name "B" true, .comparator .equal,
          .literal "2"] ∧
      ¬StandsIdle
        [.opening, .name "A" true, .comparator .equal, .literal "1", .word "NOT", .word "NOT",
          .closing] (.word "AND")
        [.word "NOT", .name "B" true, .comparator .equal, .literal "2"] := by
  have hread : SearchExpression.read .strict negatedText = .ok negatedExpression := by rfl
  obtain ⟨-, hoperators⟩ := operator_applies_iff hread
  refine ⟨hread, ?_, (hoperators _ _ _ rfl (by decide)).mp ?_⟩
  · by_contra hbusy
    exact (hoperators _ _ _ rfl (by decide)).mpr hbusy
  · exact (by decide : (TokenKind.name "B" true).isOperator = false)

/-- A text that ends in two negations. -/
def doublyNegatedText : String := "SELECT * FROM [SI] WHERE [A] = \"1\" NOT NOT"

/-- What is read of the text does not tell of the negations. -/
def plainExpression : SearchExpression where
  select := [allFields]
  source := "SI"
  criteria := { members := [.condition none ⟨"A", .equal, "1"⟩] }
  orderBy := []

/-- Negations with nothing to apply to are accepted if there are two of them. -/
theorem idle_negations_are_accepted :
    SearchExpression.read .strict doublyNegatedText = .ok plainExpression ∧
      criteriaKindsOf doublyNegatedText =
        [.name "A" true, .comparator .equal, .literal "1", .word "NOT"] ++ .word "NOT" :: [] ∧
      ¬HasOperand [] := by
  exact ⟨by rfl, by rfl, id⟩

end CatalogRecords.Query
