import CatalogRecords.Proofs.Query.Grammar
import Mathlib.Algebra.Ring.Parity
import Mathlib.Data.List.Forall2

/-!
# Criteria and where their tokens stand

Strict reading keeps all that the criteria of a text say. Apart from parentheses and operators,
their tokens are those of the conditions, three for each and in the same order. Conditions and
groups lie as deep as there are parentheses open where they begin, and each is negated if and only
if the negations that stand before it, with nothing else but AND and OR between them, are odd in
number.

All of this is said of the tokens with their positions. The derivation of criteria from their tokens
is followed with a position that is the same at the end as at the beginning.
-/

namespace CatalogRecords.Query

/-- Whether an operator carries a negation. -/
def BooleanOperator.isNegating : Option BooleanOperator → Bool
  | some .not => true
  | some .andNot => true
  | some .orNot => true
  | _ => false

/-- Negating an operator once more turns what it says about the operand round. -/
theorem BooleanOperator.isNegating_negated (op : Option BooleanOperator) :
    isNegating (negated op) = !isNegating op := by
  cases op with
  | none => rfl
  | some op => cases op <;> rfl

/-! Tokens with their positions. -/

/-- A place among tokens: the parentheses that are open there, and the negations since the last
token that was no operator. -/
@[ext] structure Position where
  depth : Nat
  negations : Nat
  deriving DecidableEq, Repr

/-- The place after a token. -/
def Position.after (p : Position) (kind : TokenKind) : Position where
  depth := match kind with
    | .opening => p.depth + 1
    | .closing => p.depth - 1
    | _ => p.depth
  negations :=
    if kind.isNegation then p.negations + 1 else if kind.isJoining then p.negations else 0

/-- A token and the place at which it stands. -/
structure PlacedKind where
  position : Position
  kind : TokenKind
  deriving DecidableEq, Repr

/-- The places of tokens, the first of them at a given one. -/
def placed (p : Position) : List TokenKind → List PlacedKind
  | [] => []
  | kind :: kinds => ⟨p, kind⟩ :: placed (p.after kind) kinds

/-- The place behind tokens. -/
def Position.afterAll (p : Position) (kinds : List TokenKind) : Position := kinds.foldl after p

/-- Whether a token belongs to a condition: it is neither a parenthesis nor an operator. -/
def TokenKind.isOperand (kind : TokenKind) : Bool :=
  kind != .opening && kind != .closing && !kind.isOperator

/-- Items taken three by three. -/
def threes {α : Type} : List α → List (List α)
  | [] => []
  | a :: b :: c :: rest => [a, b, c] :: threes rest
  | rest => [rest]

/-! Conditions and groups with their depths. -/

/-- A condition, or a group without its members, and the number of groups that it lies in. -/
structure Node where
  depth : Nat
  operator : Option BooleanOperator
  /-- What the condition tests; nothing for a group. -/
  test? : Option Condition
  deriving DecidableEq, Repr

mutual

/-- A criterion and all that it holds, each before its members. -/
def Criterion.nodes (depth : Nat) : Criterion → List Node
  | .condition op test => [⟨depth, op, some test⟩]
  | .group op members => ⟨depth, op, none⟩ :: nodesIn (depth + 1) members

/-- Criteria and all that they hold, each before its members. -/
def nodesIn (depth : Nat) : List Criterion → List Node
  | [] => []
  | c :: cs => c.nodes depth ++ nodesIn depth cs

end

/-- The nodes of criteria in a row are the nodes of each in a row. -/
theorem nodesIn_append (depth : Nat) (cs ds : List Criterion) :
    nodesIn depth (cs ++ ds) = nodesIn depth cs ++ nodesIn depth ds := by
  induction cs with
  | nil => rfl
  | cons c cs ih => rw [List.cons_append, nodesIn, ih, nodesIn, List.append_assoc]

mutual

/-- The tests of a criterion's nodes are its conditions. -/
theorem Criterion.filterMap_nodes (depth : Nat) : (c : Criterion) →
    (c.nodes depth).filterMap Node.test? = c.conditions
  | .condition _ _ => rfl
  | .group _ members => filterMap_nodesIn (depth + 1) members

/-- The tests of criteria's nodes are their conditions. -/
theorem filterMap_nodesIn (depth : Nat) : (cs : List Criterion) →
    (nodesIn depth cs).filterMap Node.test? = conditionsIn cs
  | [] => rfl
  | c :: cs => by
    rw [nodesIn, List.filterMap_append, c.filterMap_nodes depth, filterMap_nodesIn depth cs,
      conditionsIn]

end

/-- Whether a node stands where a token does, and is negated just if an odd number of negations
stands before that. -/
structure Node.StandsAt (node : Node) (p : Position) : Prop where
  depth : node.depth = p.depth
  negated : BooleanOperator.isNegating node.operator = true ↔ Odd p.negations

/-- Whether tokens are the field, the comparator and the literal of a condition that stands where
the first of them does. -/
def IsMadeOf (node : Node) (tokens : List PlacedKind) : Prop :=
  ∃ p q r field bracketed comparator literal, node.StandsAt p ∧
    node.test? = some ⟨field, comparator, literal⟩ ∧
    tokens = [⟨p, .name field bracketed⟩, ⟨q, .comparator comparator⟩, ⟨r, .literal literal⟩]

/-- Whether a group stands where its opening parenthesis does. -/
def IsOpenedBy (node : Node) (token : PlacedKind) : Prop := node.StandsAt token.position

/-- Whether placed tokens are those of nodes: three operands for each condition, and an opening
parenthesis for each group. -/
structure AreLaidOut (nodes : List Node) (tokens : List PlacedKind) : Prop where
  conditions : ∃ chunks, tokens.filter (·.kind.isOperand) = chunks.flatten ∧
    List.Forall₂ IsMadeOf (nodes.filter (·.test?.isSome)) chunks
  groups : List.Forall₂ IsOpenedBy (nodes.filter (·.test?.isNone))
    (tokens.filter (·.kind == .opening))

variable {p : Position} {kinds run : List TokenKind} {kind : TokenKind}
  {members : List Criterion} {op : Option BooleanOperator}

/-- A run of tokens is placed by placing its first part and, from where that ends, its second. -/
theorem placed_append (p : Position) (kinds more : List TokenKind) :
    placed p (kinds ++ more) = placed p kinds ++ placed (p.afterAll kinds) more := by
  induction kinds generalizing p with
  | nil => rfl
  | cons kind kinds ih =>
    rw [List.cons_append, placed, ih, placed, List.cons_append]
    rfl

/-- After a run of tokens one is where its second part ends, entered where its first part ends. -/
theorem Position.afterAll_append (p : Position) (kinds more : List TokenKind) :
    p.afterAll (kinds ++ more) = (p.afterAll kinds).afterAll more :=
  List.foldl_append

namespace AreLaidOut

variable {nodes others : List Node} {tokens more : List PlacedKind}

/-- No tokens are laid out as no nodes. -/
theorem nil : AreLaidOut [] [] := ⟨⟨[], rfl, .nil⟩, .nil⟩

/-- Tokens laid out one run after the other are laid out as the nodes of both. -/
theorem append (h : AreLaidOut nodes tokens) (hmore : AreLaidOut others more) :
    AreLaidOut (nodes ++ others) (tokens ++ more) := by
  obtain ⟨⟨chunks, hchunks, hconditions⟩, hgroups⟩ := h
  obtain ⟨⟨rest, hrest, hothers⟩, hmore⟩ := hmore
  constructor
  · refine ⟨chunks ++ rest, ?_, ?_⟩
    · rw [List.filter_append, hchunks, hrest, List.flatten_append]
    · rw [List.filter_append]
      exact List.rel_append hconditions hothers
  · rw [List.filter_append, List.filter_append]
    exact List.rel_append hgroups hmore

/-- Operators and closing parentheses belong to no node. -/
theorem of_forall (h : ∀ t ∈ tokens, t.kind.isOperand = false ∧ t.kind ≠ .opening) :
    AreLaidOut [] tokens := by
  constructor
  · refine ⟨[], ?_, .nil⟩
    rw [List.flatten_nil, List.filter_eq_nil_iff]
    exact fun t ht => Bool.not_eq_true _ ▸ (h t ht).1
  · have hnone : tokens.filter (·.kind == .opening) = [] := by
      rw [List.filter_eq_nil_iff]
      exact fun t ht => by simpa using (h t ht).2
    rw [hnone]
    exact .nil

end AreLaidOut

/-! Positions behind operators. -/

/-- Only a parenthesis changes the depth. -/
theorem Position.depth_after (p : Position) (hopening : kind ≠ .opening)
    (hclosing : kind ≠ .closing) : (p.after kind).depth = p.depth := by
  unfold after
  dsimp only
  split
  · contradiction
  · contradiction
  · rfl

/-- A negation is an operator. -/
theorem isOperator_of_isNegation (h : kind.isNegation = true) : kind.isOperator = true := by
  rw [TokenKind.isOperator, h, Bool.or_true]

/-- A parenthesis is no operator. -/
theorem ne_paren_of_isOperator (h : kind.isOperator = true) :
    kind ≠ .opening ∧ kind ≠ .closing := by
  constructor <;> rintro rfl <;> cases h

/-- All that announces an operand is operators. -/
theorem isOperator_of_mem_announced (hrun : Announces run op) :
    ∀ kind ∈ run, kind.isOperator = true := by
  cases hrun with
  | negations hrun => exact fun kind hkind => isOperator_of_isNegation (hrun kind hkind)
  | @joined idle run kind op hidle hkind hop hrun =>
    have hjoining : kind.isJoining = true := TokenKind.isJoining_iff.mpr ⟨op, hkind, hop⟩
    rw [List.forall_mem_append, List.forall_mem_cons]
    exact ⟨fun kind hkind => isOperator_of_isNegation (hidle.negations kind hkind),
      by rw [TokenKind.isOperator, hjoining, Bool.true_or],
      fun kind hkind => isOperator_of_isNegation (hrun kind hkind)⟩

/-- Operators belong to no node. -/
theorem areLaidOut_operators (hrun : ∀ kind ∈ run, kind.isOperator = true) (p : Position) :
    AreLaidOut [] (placed p run) := by
  have hkinds : ∀ t ∈ placed p run, t.kind ∈ run := by
    clear hrun
    induction run generalizing p with
    | nil => exact fun _ ht => absurd ht List.not_mem_nil
    | cons kind run ih =>
      intro t ht
      rcases List.mem_cons.mp ht with rfl | ht
      · exact List.mem_cons_self
      · exact List.mem_cons_of_mem _ (ih _ t ht)
  refine AreLaidOut.of_forall fun t ht => ?_
  have hop := hrun t.kind (hkinds t ht)
  exact ⟨by simp [TokenKind.isOperand, hop], (ne_paren_of_isOperator hop).1⟩

/-- Negations are counted. -/
theorem afterAll_negations (hrun : ∀ kind ∈ run, kind.isNegation = true) (p : Position) :
    p.afterAll run = ⟨p.depth, p.negations + run.length⟩ := by
  induction run generalizing p with
  | nil => rfl
  | cons kind run ih =>
    rw [List.forall_mem_cons] at hrun
    obtain ⟨hopening, hclosing⟩ := ne_paren_of_isOperator (isOperator_of_isNegation hrun.1)
    have hnext : p.after kind = ⟨p.depth, p.negations + 1⟩ :=
      Position.ext (p.depth_after hopening hclosing) (if_pos hrun.1)
    have hrest : p.afterAll (kind :: run) = (p.after kind).afterAll run := rfl
    rw [hrest, ih hrun.2, hnext, List.length_cons, Nat.add_assoc, Nat.add_comm 1]

/-- AND and OR are passed over. -/
theorem after_joining (p : Position) (h : kind.isJoining = true) : p.after kind = p := by
  have hop : kind.isOperator = true := by rw [TokenKind.isOperator, h, Bool.true_or]
  obtain ⟨hopening, hclosing⟩ := ne_paren_of_isOperator hop
  have hnegations : (p.after kind).negations = p.negations := by
    unfold Position.after
    rw [TokenKind.isNegation_eq_false_of_isJoining h, h]
    rfl
  exact Position.ext (p.depth_after hopening hclosing) hnegations

/-- Turning an operator without a negation around an odd number of times makes it negating. -/
theorem isNegating_iterate_negated (hop : BooleanOperator.isNegating op = false) (n : Nat) :
    BooleanOperator.isNegating (BooleanOperator.negated^[n] op) = true ↔ Odd n := by
  rw [iterate_negated]
  by_cases hn : Even n
  · simp [hn, hop]
  · simp [hn, hop, BooleanOperator.isNegating_negated, Nat.not_even_iff_odd.mp hn]

/-- Behind the operators before a condition or group, the number of negations tells whether it is
negated. -/
theorem afterAll_announced (hrun : Announces run op) (depth : Nat) :
    ∃ n, Position.afterAll ⟨depth, 0⟩ run = ⟨depth, n⟩ ∧
      (BooleanOperator.isNegating op = true ↔ Odd n) := by
  cases hrun with
  | negations hrun =>
    refine ⟨run.length, ?_, isNegating_iterate_negated rfl _⟩
    rw [afterAll_negations hrun, Nat.zero_add]
  | @joined idle run kind op hidle hkind hop hrun =>
    have hjoining : kind.isJoining = true := TokenKind.isJoining_iff.mpr ⟨op, hkind, hop⟩
    have hplain : BooleanOperator.isNegating (some op) = false := by
      rcases hop with rfl | rfl <;> rfl
    refine ⟨idle.length + run.length, ?_, ?_⟩
    · rw [Position.afterAll_append, afterAll_negations hidle.negations, Nat.zero_add]
      have hrest : ∀ p : Position, p.afterAll (kind :: run) = (p.after kind).afterAll run :=
        fun _ => rfl
      rw [hrest, after_joining _ hjoining, afterAll_negations hrun]
    · rw [isNegating_iterate_negated hplain, Nat.odd_add', iff_true_right hidle.even]

/-! Derived criteria. -/

/-- Tokens behind so many negations are those of nodes, and lead back to the depth at which they
begin. -/
structure LaysOut (depth negations : Nat) (kinds : List TokenKind) (nodes : List Node) : Prop where
  laidOut : AreLaidOut nodes (placed ⟨depth, negations⟩ kinds)
  behind : Position.afterAll ⟨depth, negations⟩ kinds = ⟨depth, 0⟩

namespace LaysOut

variable {depth n : Nat}

/-- No tokens lay out no criteria. -/
theorem nil : LaysOut depth 0 [] [] := ⟨.nil, rfl⟩

/-- A name, a comparator and a literal lay out a condition, whose operator negates if the negations
before it are odd in number. -/
theorem condition {field literal : String} {bracketed : Bool} {comparator : Comparator}
    (hfield : (TokenKind.name field bracketed).isOperator = false)
    (hnegated : BooleanOperator.isNegating op = true ↔ Odd n) :
    LaysOut depth n [.name field bracketed, .comparator comparator, .literal literal]
      [⟨depth, op, some ⟨field, comparator, literal⟩⟩] := by
  have hname : (TokenKind.name field bracketed).isOperand = true := by
    simp [TokenKind.isOperand, hfield]
  refine ⟨⟨⟨[placed ⟨depth, n⟩
    [.name field bracketed, .comparator comparator, .literal literal]], ?_, ?_⟩, .nil⟩, rfl⟩
  · rw [List.flatten_singleton]
    simp only [placed, List.filter, hname]
    rfl
  · exact .cons ⟨_, _, _, field, bracketed, comparator, literal, ⟨rfl, hnegated⟩, rfl, rfl⟩ .nil

/-- A group is laid out as its members are, between its parentheses. -/
theorem group {inner idle : List TokenKind} {nodes : List Node}
    (hinner : LaysOut (depth + 1) 0 inner nodes) (hidle : IsIdle idle)
    (hnegated : BooleanOperator.isNegating op = true ↔ Odd n) :
    LaysOut depth n (.opening :: (inner ++ idle ++ [.closing])) (⟨depth, op, none⟩ :: nodes) := by
  have hopens : Position.after ⟨depth, n⟩ .opening = ⟨depth + 1, 0⟩ := rfl
  have hrest : Position.afterAll ⟨depth + 1, 0⟩ (inner ++ idle) = ⟨depth + 1, idle.length⟩ := by
    rw [Position.afterAll_append, hinner.behind, afterAll_negations hidle.negations, Nat.zero_add]
  constructor
  · have hopening : AreLaidOut [⟨depth, op, none⟩] [⟨⟨depth, n⟩, .opening⟩] :=
      ⟨⟨[], rfl, .nil⟩, .cons ⟨rfl, hnegated⟩ .nil⟩
    have hclosing : AreLaidOut [] [⟨⟨depth + 1, idle.length⟩, .closing⟩] := ⟨⟨[], rfl, .nil⟩, .nil⟩
    have hnegations := areLaidOut_operators
      (fun kind hkind => isOperator_of_isNegation (hidle.negations kind hkind)) ⟨depth + 1, 0⟩
    have hall := hopening.append ((hinner.laidOut.append hnegations).append hclosing)
    rw [List.append_nil, List.append_nil] at hall
    rw [placed, hopens, placed_append, hrest, placed_append, hinner.behind]
    exact hall
  · have hbehind : Position.afterAll ⟨depth, n⟩ (.opening :: (inner ++ idle ++ [.closing])) =
        Position.afterAll ⟨depth + 1, 0⟩ (inner ++ idle ++ [.closing]) := rfl
    rw [hbehind, Position.afterAll_append, hrest]
    rfl

/-- What stands behind operators is laid out with the negations among them, and behind members that
are laid out. -/
theorem member {more : List TokenKind} {nodes others : List Node}
    (hmembers : LaysOut depth 0 kinds nodes) (hrun : Announces run op)
    (hmore : ∀ n, (BooleanOperator.isNegating op = true ↔ Odd n) → LaysOut depth n more others) :
    LaysOut depth 0 (kinds ++ (run ++ more)) (nodes ++ others) := by
  obtain ⟨n, hafter, hnegated⟩ := afterAll_announced hrun depth
  obtain ⟨hlaidOut, hbehind⟩ := hmore n hnegated
  have hoperators := areLaidOut_operators (isOperator_of_mem_announced hrun) ⟨depth, 0⟩
  constructor
  · rw [placed_append, hmembers.behind, placed_append, hafter]
    exact hmembers.laidOut.append (hoperators.append hlaidOut)
  · rw [Position.afterAll_append, hmembers.behind, Position.afterAll_append, hafter, hbehind]

end LaysOut

/-- The tokens that criteria are derived from are laid out as they are. -/
theorem Builds.laysOut (h : Builds kinds members) (depth : Nat) :
    LaysOut depth 0 kinds (nodesIn depth members) := by
  induction h generalizing depth with
  | nil => exact .nil
  | condition h hrun hfield ih =>
    rw [nodesIn_append]
    exact (ih depth).member hrun fun n hnegated => .condition hfield hnegated
  | @group kinds run inner idle members innerMembers op h hrun hinner hne hidle ih ihinner =>
    have hnodes : nodesIn depth [.group op innerMembers] =
        ⟨depth, op, none⟩ :: nodesIn (depth + 1) innerMembers := List.append_nil _
    rw [nodesIn_append, hnodes]
    exact (ih depth).member hrun fun n hnegated => (ihinner (depth + 1)).group hidle hnegated

/-- Chunks of three come back when what they hold is taken three by three. -/
theorem threes_flatten {α : Type} {chunks : List (List α)}
    (h : ∀ chunk ∈ chunks, chunk.length = 3) : threes chunks.flatten = chunks := by
  induction chunks with
  | nil => rfl
  | cons chunk chunks ih =>
    rw [List.forall_mem_cons] at h
    obtain ⟨a, b, c, rfl⟩ := List.length_eq_three.mp h.1
    rw [List.flatten_cons]
    exact congrArg _ (ih h.2)

/-- The tokens of the criteria of a text, with the places at which they stand. -/
def placedCriteria (text : String) : List PlacedKind := placed ⟨0, 0⟩ (criteriaKindsOf text)

/-- The operands among the tokens of the criteria of a text that is read strictly, taken three by
three, are the conditions of the criteria in their order, and the opening parentheses are the
groups. Each condition and each group lies as deep as there are parentheses open at its first
token, and is negated if and only if the number of negations before that is odd. -/
theorem criteria_keep_their_tokens {text : String} {e : SearchExpression}
    (hread : SearchExpression.read .strict text = .ok e) :
    (nodesIn 0 e.criteria.members).filterMap Node.test? = e.criteria.conditions ∧
    List.Forall₂ IsMadeOf ((nodesIn 0 e.criteria.members).filter (·.test?.isSome))
      (threes ((placedCriteria text).filter (·.kind.isOperand))) ∧
    List.Forall₂ IsOpenedBy ((nodesIn 0 e.criteria.members).filter (·.test?.isNone))
      ((placedCriteria text).filter (·.kind == .opening)) := by
  obtain ⟨done, idle, hkinds, hbuilds, hidle⟩ := builds_of_read hread
  have hlaid : AreLaidOut (nodesIn 0 e.criteria.members) (placedCriteria text) := by
    have hdone := hbuilds.laysOut 0
    have hnegations := areLaidOut_operators
      (fun kind hkind => isOperator_of_isNegation (hidle.negations kind hkind)) ⟨0, 0⟩
    have hall := hdone.laidOut.append hnegations
    rw [List.append_nil] at hall
    rw [placedCriteria, hkinds, placed_append, hdone.behind]
    exact hall
  obtain ⟨⟨chunks, hchunks, hconditions⟩, hgroups⟩ := hlaid
  refine ⟨filterMap_nodesIn 0 _, ?_, hgroups⟩
  rw [hchunks, threes_flatten]
  · exact hconditions
  · have hlengths := hconditions.flip.imp (S := fun chunk node => chunk.length = 3 ∧
      IsMadeOf node chunk) fun chunk node h => by
        obtain ⟨_, _, _, _, _, _, _, -, -, rfl⟩ := id h
        exact ⟨rfl, h⟩
    exact ((List.forall₂_and_left _ _).mp hlengths).1

/-- A text with negations before and behind AND, and before a group in a group. -/
def nestedText : String :=
  "SELECT * FROM SI WHERE NOT NOT AND A = \"1\" " ++
    "OR NOT (NOT NOT NOT (B like \"x\") and [c d] > \"\")"

/-- What the text says. -/
def nestedExpression : SearchExpression where
  select := [allFields]
  source := "SI"
  criteria := { members := [
    .condition (some .and) ⟨"A", .equal, "1"⟩,
    .group (some .orNot) [
      .group (some .not) [.condition none ⟨"B", .like, "x"⟩],
      .condition (some .and) ⟨"c d", .greater, ""⟩]] }

/-- The conditions of the text lie at three depths, and both of its groups are negated. -/
theorem criteria_keep_their_tokens_nestedText :
    SearchExpression.read .strict nestedText = .ok nestedExpression ∧
      List.Forall₂ IsMadeOf
        [⟨0, some .and, some ⟨"A", .equal, "1"⟩⟩, ⟨2, none, some ⟨"B", .like, "x"⟩⟩,
          ⟨1, some .and, some ⟨"c d", .greater, ""⟩⟩]
        (threes ((placedCriteria nestedText).filter (·.kind.isOperand))) ∧
      List.Forall₂ IsOpenedBy [⟨0, some .orNot, none⟩, ⟨1, some .not, none⟩]
        [⟨⟨0, 1⟩, .opening⟩, ⟨⟨1, 3⟩, .opening⟩] := by
  have hread : SearchExpression.read .strict nestedText = .ok nestedExpression := by rfl
  obtain ⟨-, hconditions, hgroups⟩ := criteria_keep_their_tokens hread
  exact ⟨hread, hconditions, hgroups⟩

end CatalogRecords.Query
