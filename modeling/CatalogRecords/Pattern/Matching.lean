import CatalogRecords.Pattern.Reader

/-!
# Matching patterns

Whether an expression matches some part of a text is found by going through the text once with a
list of states, each a sequence of expressions that is still to match. At every place a state has
its beginnings: whether it can end there, and the sets that its next character may come from, each
with what is left after it. Preferences play no role here.
-/

namespace CatalogRecords.Pattern

/-- A sequence of expressions that is still to match. -/
abbrev State := List Expression

/-- How a match can begin at a place: whether without a character, and with a character of which
sets, each with what is left after it. -/
structure Beginnings where
  passes : Bool
  takes : List (CharSet × State)
  deriving DecidableEq, Repr

/-- The beginnings of an expression followed by others, whose own beginnings are given. -/
def Beginnings.andThen (b : Beginnings) (following : State) (next : Beginnings) : Beginnings where
  passes := b.passes && next.passes
  takes := (b.takes.map fun (s, left) => (s, left ++ following)) ++
    if b.passes then next.takes else []

/-- The beginnings of what matches without a character, if it does. -/
def Beginnings.passIf (passes : Bool) : Beginnings := ⟨passes, []⟩

/-- The beginnings of an expression between two characters. -/
def Expression.beginnings (before after : Option Char) : Expression → Beginnings
  | .empty => .passIf true
  | .set s => ⟨false, [(s, [])]⟩
  | .anchor a => .passIf (a.holds before after)
  | .cat a b => (a.beginnings before after).andThen [b] (b.beginnings before after)
  | .alt a b =>
    let first := a.beginnings before after
    let second := b.beginnings before after
    ⟨first.passes || second.passes, first.takes ++ second.takes⟩
  | .plus greedy a => (a.beginnings before after).andThen [.again greedy a] (.passIf true)
  | .again greedy a =>
    ⟨true, ((a.beginnings before after).andThen [.again greedy a] (.passIf true)).takes⟩

/-- The beginnings of a sequence between two characters. -/
def State.beginnings (before after : Option Char) : State → Beginnings
  | [] => .passIf true
  | a :: rest => (a.beginnings before after).andThen rest (State.beginnings before after rest)

/-- Whether one of the states can end between two characters. -/
def anyEnds (before after : Option Char) (states : List State) : Bool :=
  states.any fun state => (State.beginnings before after state).passes

/-- The states that are left after a character. -/
def statesAfter (before : Option Char) (c : Char) (states : List State) : List State :=
  (states.flatMap fun state =>
    ((State.beginnings before (some c) state).takes.filter fun (s, _) => s.has c).map
      Prod.snd).eraseDups

/-- Whether one of the states, or an expression that begins here or later, matches. -/
def matchesFrom (whole : Expression) (before : Option Char) (states : List State) :
    List Char → Bool
  | [] => anyEnds before none ([whole] :: states)
  | c :: rest =>
    anyEnds before (some c) ([whole] :: states) ||
      matchesFrom whole (some c) (statesAfter before c ([whole] :: states)) rest

/-- Whether an expression matches some part of a text. -/
def Expression.isMatch (a : Expression) (text : String) : Bool :=
  matchesFrom a none [] text.toList

end CatalogRecords.Pattern
