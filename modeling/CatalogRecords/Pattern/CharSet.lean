import CatalogRecords.Text.LetterCase
import CatalogRecords.Text.CharClass

/-!
# Sets of characters

The sets that a pattern's brackets and class letters write, kept as they are written: a set is
asked whether it has a character.
-/

namespace CatalogRecords.Pattern

/-- A set of characters. -/
inductive CharSet where
  | none
  | range (first last : Nat)
  | digit
  | word
  | blank
  | compl (s : CharSet)
  | union (a b : CharSet)
  | inter (a b : CharSet)
  | diff (a b : CharSet)
  | symmDiff (a b : CharSet)
  /-- The characters that differ in case only from one in the set. -/
  | folded (s : CharSet)
  deriving DecidableEq, Repr

namespace CharSet

/-- The set of one character. -/
def single (c : Char) : CharSet := .range c.toNat c.toNat

/-- The set of some characters. -/
def ofList (cs : List Char) : CharSet := cs.foldr (fun c s => .union (single c) s) .none

/-- Whether a character is in the set. -/
def has (c : Char) : CharSet → Bool
  | .none => false
  | .range first last => first ≤ c.toNat && c.toNat ≤ last
  | .digit => Text.isDigit c
  | .word => Text.isWord c
  | .blank => Text.isBlank c
  | .compl s => !s.has c
  | .union a b => a.has c || b.has c
  | .inter a b => a.has c && b.has c
  | .diff a b => a.has c && !b.has c
  | .symmDiff a b => a.has c != b.has c
  | .folded s => (Text.variants c).any fun d => s.has d

/-- Every character. -/
def all : CharSet := .compl .none

/-- Every character but the line feed. -/
def exceptLineFeed : CharSet := .compl (single '\n')

/-- A set, or the set of all variants in case. -/
def foldedIf (fold : Bool) (s : CharSet) : CharSet := if fold then .folded s else s

/-- The set of a name between colons: a class of ASCII characters. -/
def named? : String → Option CharSet
  | "alnum" => some (.union (.range 48 57) (.union (.range 65 90) (.range 97 122)))
  | "alpha" => some (.union (.range 65 90) (.range 97 122))
  | "ascii" => some (.range 0 127)
  | "blank" => some (ofList ['\t', ' '])
  | "cntrl" => some (.union (.range 0 31) (.range 127 127))
  | "digit" => some (.range 48 57)
  | "graph" => some (.range 33 126)
  | "lower" => some (.range 97 122)
  | "print" => some (.range 32 126)
  | "punct" =>
    some (.union (.range 33 47) (.union (.range 58 64) (.union (.range 91 96) (.range 123 126))))
  | "space" => some (.union (.range 9 13) (.range 32 32))
  | "upper" => some (.range 65 90)
  | "word" =>
    some (.union (.range 48 57) (.union (.range 65 90) (.union (.range 95 95) (.range 97 122))))
  | "xdigit" => some (.union (.range 48 57) (.union (.range 65 70) (.range 97 102)))
  | _ => Option.none

/-- A measure of the room that a matcher for the set takes, in bytes. -/
def weight : CharSet → Nat
  | .none => 40
  | .range _ last => if last < 128 then 40 else 100
  | .digit => 60 * 65
  | .word => 60 * 772
  | .blank => 60 * 11
  | .compl s => s.weight + 100
  | .union a b => a.weight + b.weight
  | .inter a b => a.weight + b.weight
  | .diff a b => a.weight + b.weight
  | .symmDiff a b => a.weight + b.weight
  | .folded s => s.weight

end CharSet

end CatalogRecords.Pattern
