import CatalogRecords.Pattern.CharSet

/-!
# Regular expressions

The expressions that patterns are read into. Repetitions are built from two: one or more times
(`plus`), and any further number of times (`again`), which is also what is left of the first after
a round. Everything is ordered by preference: of an alternation the left side is tried first, a
greedy repetition prefers another round, a reluctant one prefers to stop.
-/

namespace CatalogRecords.Pattern

/-- A place in a text that is wanted without taking a character. -/
inductive Anchor where
  | textStart
  | textEnd
  | lineStart
  | lineEnd
  | wordBoundary
  | notWordBoundary
  | wordStart
  | wordEnd
  deriving DecidableEq, Repr

/-- Whether the place between two characters, or an end of the text, is the one wanted. -/
def Anchor.holds (before after : Option Char) : Anchor → Bool
  | .textStart => before.isNone
  | .textEnd => after.isNone
  | .lineStart => before.isNone || before == some '\n'
  | .lineEnd => after.isNone || after == some '\n'
  | .wordBoundary => before.any Text.isWord != after.any Text.isWord
  | .notWordBoundary => before.any Text.isWord == after.any Text.isWord
  | .wordStart => !before.any Text.isWord && after.any Text.isWord
  | .wordEnd => before.any Text.isWord && !after.any Text.isWord

/-- A regular expression. -/
inductive Expression where
  | empty
  | set (s : CharSet)
  | anchor (a : Anchor)
  | cat (a b : Expression)
  | alt (a b : Expression)
  | plus (greedy : Bool) (a : Expression)
  | again (greedy : Bool) (a : Expression)
  deriving DecidableEq, Repr

namespace Expression

/-- Whether the expression can match without a character, if anchors are where they should be. -/
def isNullable : Expression → Bool
  | .empty => true
  | .set _ => false
  | .anchor _ => true
  | .cat a b => a.isNullable && b.isNullable
  | .alt a b => a.isNullable || b.isNullable
  | .plus _ a => a.isNullable
  | .again _ _ => true

/-- Zero or one time. -/
def optional (greedy : Bool) (a : Expression) : Expression :=
  if greedy then .alt a .empty else .alt .empty a

/-- Any number of times. If a round can do without a character, the first one is apart from the
others, so that it counts as a way to match. -/
def star (greedy : Bool) (a : Expression) : Expression :=
  if a.isNullable then optional greedy (.plus greedy a) else .again greedy a

/-- Exactly `n` times. -/
def times (a : Expression) : Nat → Expression
  | 0 => .empty
  | 1 => a
  | n + 1 => .cat a (times a n)

/-- At most `n` times. -/
def atMost (greedy : Bool) (a : Expression) : Nat → Expression
  | 0 => .empty
  | n + 1 => optional greedy (.cat a (atMost greedy a n))

/-- At least `n` times. -/
def atLeast (greedy : Bool) (a : Expression) : Nat → Expression
  | 0 => star greedy a
  | 1 => .plus greedy a
  | n + 1 => .cat a (atLeast greedy a n)

/-- From `least` to `most` times, or without a bound. -/
def counted (greedy : Bool) (a : Expression) (least : Nat) : Option Nat → Expression
  | none => atLeast greedy a least
  | some most => if most = least then times a least
    else .cat (times a least) (atMost greedy a (most - least))

/-- One expression after the other. -/
def sequence : List Expression → Expression
  | [] => .empty
  | [a] => a
  | a :: rest => .cat a (sequence rest)

/-- One of several expressions. -/
def choice : List Expression → Expression
  | [] => .empty
  | [a] => a
  | a :: rest => .alt a (choice rest)

end Expression

end CatalogRecords.Pattern
