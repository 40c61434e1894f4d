import CatalogRecords.Pattern.Expression
import CatalogRecords.Json.Reader

/-!
# Reading patterns

The syntax of patterns: characters, classes in brackets with their set operations, class letters,
anchors, groups with or without a name, flags for case, lines and greed, and repetitions. Looking
around and references back to a group are no part of it, and a letter after a backslash that means
nothing is an error. A pattern whose matcher would take too much room is refused as well.
-/

namespace CatalogRecords.Pattern

/-- The flags that a pattern can set for the rest of a group. -/
structure Flags where
  foldCase : Bool
  multiLine : Bool
  dotAll : Bool
  swapGreed : Bool

/-- No flag is set at the start. -/
def Flags.initial : Flags := ⟨false, false, false, false⟩

/-- What one character or one escape stands for. -/
inductive Primitive where
  | char (c : Char)
  | set (s : CharSet)
  | anchor (a : Anchor)

/-- The character of a code, when there is one. -/
def charOfCode? (n : Nat) : Option Char := if n.isValidChar then some (Char.ofNat n) else none

/-- The value of hexadecimal digits, all of them. -/
def hexValue? (digits : List Char) : Option Nat :=
  if digits.isEmpty then none
  else digits.foldlM (fun n c => (Json.hexDigit? c).map (16 * n + ·)) 0

/-- Reads the code of a character after its letter: so many digits, or digits in braces. -/
def readCode? (count : Nat) (cs : List Char) : Option (Char × List Char) :=
  match cs with
  | '\x7b' :: rest => do
    let digits := rest.takeWhile (· != '\x7d')
    match rest.drop digits.length with
    | [] => none
    | _ :: rest => some (← charOfCode? (← hexValue? digits), rest)
  | cs => do
    if (cs.take count).length < count then none
    else some (← charOfCode? (← hexValue? (cs.take count)), cs.drop count)

/-- Reads what follows a backslash. -/
def readEscape? : List Char → Option (Primitive × List Char)
  | [] => none
  | 'd' :: rest => some (.set .digit, rest)
  | 'D' :: rest => some (.set (.compl .digit), rest)
  | 's' :: rest => some (.set .blank, rest)
  | 'S' :: rest => some (.set (.compl .blank), rest)
  | 'w' :: rest => some (.set .word, rest)
  | 'W' :: rest => some (.set (.compl .word), rest)
  | 'x' :: rest => (readCode? 2 rest).map fun (c, rest) => (.char c, rest)
  | 'u' :: rest => (readCode? 4 rest).map fun (c, rest) => (.char c, rest)
  | 'U' :: rest => (readCode? 8 rest).map fun (c, rest) => (.char c, rest)
  | 'a' :: rest => some (.char '\x07', rest)
  | 'f' :: rest => some (.char '\x0c', rest)
  | 't' :: rest => some (.char '\t', rest)
  | 'n' :: rest => some (.char '\n', rest)
  | 'r' :: rest => some (.char '\r', rest)
  | 'v' :: rest => some (.char '\x0b', rest)
  | 'A' :: rest => some (.anchor .textStart, rest)
  | 'z' :: rest => some (.anchor .textEnd, rest)
  | 'b' :: rest => some (.anchor .wordBoundary, rest)
  | 'B' :: rest => some (.anchor .notWordBoundary, rest)
  | '<' :: rest => some (.anchor .wordStart, rest)
  | '>' :: rest => some (.anchor .wordEnd, rest)
  | c :: rest => if c.toNat < 128 && !c.isAlphanum then some (.char c, rest) else none

/-- Reads one item of a class: an escape or any character. -/
def readClassItem? : List Char → Option (Primitive × List Char)
  | [] => none
  | '\\' :: rest => readEscape? rest
  | c :: rest => some (.char c, rest)

/-- Reads an item of a class or a range between two characters. -/
def readClassRange? (cs : List Char) : Option (CharSet × List Char) := do
  let (first, rest) ← readClassItem? cs
  let alone : Option (CharSet × List Char) := match first with
    | .char c => some (.single c, rest)
    | .set s => some (s, rest)
    | .anchor _ => none
  match rest with
  | [] => none
  | '-' :: ']' :: _ => alone
  | '-' :: '-' :: _ => alone
  | '-' :: rest =>
    match first, (← readClassItem? rest) with
    | .char a, (.char b, rest) => if a ≤ b then some (.range a.toNat b.toNat, rest) else none
    | _, _ => none
  | _ => alone

/-- Reads the name of a class between colons, after the opening bracket. -/
def readNamedClass? : List Char → Option (CharSet × List Char)
  | ':' :: rest =>
    let (negated, rest) := match rest with
      | '^' :: rest => (true, rest)
      | rest => (false, rest)
    let name := rest.takeWhile fun c => c != ':' && c != ']'
    match rest.drop name.length with
    | ':' :: ']' :: rest =>
      (CharSet.named? (String.ofList name)).map fun s => (if negated then .compl s else s, rest)
    | _ => none
  | _ => none

/-- An operation between two classes. -/
inductive SetOperation where
  | intersection
  | difference
  | symmetricDifference

/-- The result of an operation on two classes. -/
def SetOperation.apply : SetOperation → CharSet → CharSet → CharSet
  | .intersection, a, b => .inter a b
  | .difference, a, b => .diff a b
  | .symmetricDifference, a, b => .symmDiff a b

/-- An operation and its left side still waiting for its right side. -/
abbrev PendingSet := Option (SetOperation × CharSet)

/-- Finishes a waiting operation with its right side. -/
def PendingSet.finish (fold : Bool) (pending : PendingSet) (items : CharSet) : CharSet :=
  let items := CharSet.foldedIf fold items
  match pending with
  | some (operation, left) => operation.apply left items
  | none => items

/-- Reads what stands at the start of a class: a circumflex if it is negated, hyphens, and a
closing bracket when nothing is before it. -/
def readClassStart (cs : List Char) : Bool × CharSet × List Char :=
  let (negated, rest) := match cs with
    | '^' :: rest => (true, rest)
    | rest => (false, rest)
  match rest with
  | '-' :: _ => (negated, .single '-', rest.dropWhile (· == '-'))
  | ']' :: rest => (negated, .single ']', rest)
  | rest => (negated, .none, rest)

/-- Reads a class up to its closing bracket; the first number bounds the steps. -/
def readClassBody (fold : Bool) :
    Nat → Bool → PendingSet → CharSet → List Char → Option (CharSet × List Char)
  | 0, _, _, _, _ => none
  | steps + 1, negated, pending, items, cs =>
    match cs with
    | [] => none
    | ']' :: rest =>
      let result := CharSet.foldedIf fold (pending.finish fold items)
      some (if negated then .compl result else result, rest)
    | '[' :: rest =>
      match readNamedClass? rest with
      | some (s, rest) => readClassBody fold steps negated pending (.union items s) rest
      | none => do
        let (innerNegated, innerItems, rest) := readClassStart rest
        let (inner, rest) ← readClassBody fold steps innerNegated none innerItems rest
        readClassBody fold steps negated pending (.union items inner) rest
    | '&' :: '&' :: rest =>
      readClassBody fold steps negated (some (.intersection, pending.finish fold items)) .none rest
    | '-' :: '-' :: rest =>
      readClassBody fold steps negated (some (.difference, pending.finish fold items)) .none rest
    | '~' :: '~' :: rest =>
      let left := pending.finish fold items
      readClassBody fold steps negated (some (.symmetricDifference, left)) .none rest
    | cs => do
      let (s, rest) ← readClassRange? cs
      readClassBody fold steps negated pending (.union items s) rest

/-- Reads a class after its opening bracket. -/
def readClass? (fold : Bool) (cs : List Char) : Option (CharSet × List Char) :=
  let (negated, items, rest) := readClassStart cs
  readClassBody fold (rest.length + 1) negated none items rest

/-- A sequence of flags before a colon or a closing parenthesis. No flag comes twice, a minus turns
off those after it, and one at least follows the minus. -/
def readFlags? (flags : Flags) (negated : Bool) (seen : List Char) :
    List Char → Option (Flags × List Char × Char × List Char)
  | [] => none
  | c :: rest =>
    if c = ':' ∨ c = ')' then
      if seen.head? = some '-' then none else some (flags, seen, c, rest)
    else if seen.contains c then none
    else match c with
      | '-' => readFlags? flags true ('-' :: seen) rest
      | 'i' => readFlags? { flags with foldCase := !negated } negated (c :: seen) rest
      | 'm' => readFlags? { flags with multiLine := !negated } negated (c :: seen) rest
      | 's' => readFlags? { flags with dotAll := !negated } negated (c :: seen) rest
      | 'U' => readFlags? { flags with swapGreed := !negated } negated (c :: seen) rest
      | 'u' => if negated then none else readFlags? flags negated (c :: seen) rest
      | _ => none

/-- Reads the name of a group up to its closing angle. -/
def readGroupName? (cs : List Char) : Option (String × List Char) :=
  let name := cs.takeWhile (· != '>')
  let follows (c : Char) : Bool :=
    c == '_' || c == '.' || c == '[' || c == ']' || Text.isAlphanumeric c
  match name, cs.drop name.length with
  | first :: others, '>' :: rest =>
    if (first == '_' || Text.isAlphabetic first) && others.all follows
    then some (String.ofList name, rest)
    else none
  | _, _ => none

/-- Reads a decimal number with blanks around it. -/
def readCount (cs : List Char) : Option Nat × List Char :=
  let cs := cs.dropWhile Text.isBlank
  let digits := cs.takeWhile Char.isDigit
  let rest := (cs.dropWhile Char.isDigit).dropWhile Text.isBlank
  if digits.isEmpty then (none, rest) else (some (Number.digitsValue 0 digits), rest)

/-- Reads the bounds of a repetition after the opening brace. A bound without a greatest number
closes right after its comma. -/
def readBounds? (cs : List Char) : Option (Nat × Option Nat × List Char) :=
  match readCount cs with
  | (some least, '\x7d' :: rest) => some (least, some least, rest)
  | (some least, ',' :: '\x7d' :: rest) => some (least, none, rest)
  | (some least, ',' :: rest) =>
    match readCount rest with
    | (some most, '\x7d' :: rest) => if least ≤ most then some (least, some most, rest) else none
    | _ => none
  | _ => none

/-- The greatest room that a matcher may take, in bytes. -/
def greatestWeight : Nat := 10 * Number.twoPow 20

/-- A piece of a sequence with the room its matcher takes; a change of flags is no expression. -/
abbrev PieceRead := Option Expression × Nat

/-- The pieces read so far of a group: those of the branch at hand, last first, the branches
before it, last first, and the group names of the whole pattern. -/
structure GroupRead where
  flags : Flags
  pieces : List PieceRead
  branches : List (Expression × Nat)
  names : List String

namespace GroupRead

/-- The branch at hand as an expression. -/
def branch (g : GroupRead) : Expression × Nat :=
  (Expression.sequence (g.pieces.reverse.filterMap Prod.fst),
    g.pieces.foldr (fun piece total => piece.2 + total) 0)

/-- Adds a piece. -/
def push (g : GroupRead) (a : Expression) (weight : Nat) : GroupRead :=
  { g with pieces := (some a, weight) :: g.pieces }

/-- Starts another branch. -/
def nextBranch (g : GroupRead) : GroupRead :=
  { g with pieces := [], branches := g.branch :: g.branches }

/-- The group as an expression. -/
def finish (g : GroupRead) : Expression × Nat :=
  let all := (g.branch :: g.branches).reverse
  (Expression.choice (all.map Prod.fst), all.foldr (fun b total => b.2 + 40 + total) 0)

/-- Repeats the last piece. -/
def repeatLast (g : GroupRead) (least : Nat) (most : Option Nat) (cs : List Char) :
    Option (GroupRead × List Char) :=
  match g.pieces with
  | (some a, weight) :: pieces =>
    let (reluctant, rest) := match cs with
      | '?' :: rest => (true, rest)
      | rest => (false, rest)
    let greedy := reluctant == g.flags.swapGreed
    let total := (max least (most.getD (least + 1))) * (weight + 40)
    if greatestWeight < total then none
    else
      some ({ g with pieces := (some (Expression.counted greedy a least most), total) :: pieces },
        rest)
  | _ => none

/-- Adds what a character or escape stands for. -/
def pushPrimitive (g : GroupRead) : Primitive → GroupRead
  | .char c => g.push (.set (.foldedIf g.flags.foldCase (.single c))) (40 * c.utf8Size)
  | .set s => g.push (.set s) s.weight
  | .anchor a => g.push (.anchor a) 40

/-- Adds what an unescaped character stands for. -/
def pushChar (g : GroupRead) (c : Char) : GroupRead :=
  match c with
  | '.' => g.push (.set (if g.flags.dotAll then .all else .exceptLineFeed)) 400
  | '^' => g.push (.anchor (if g.flags.multiLine then .lineStart else .textStart)) 40
  | '$' => g.push (.anchor (if g.flags.multiLine then .lineEnd else .textEnd)) 40
  | c => g.pushPrimitive (.char c)

end GroupRead

/-- What follows an opening parenthesis: flags for the rest of the group, or a group with its own
flags and perhaps a name. -/
inductive GroupStart where
  | flags (flags : Flags)
  | group (flags : Flags) (name : Option String)

/-- Reads the start of a group after its opening parenthesis. -/
def readGroupStart? (flags : Flags) : List Char → Option (GroupStart × List Char)
  | '?' :: 'P' :: '<' :: rest =>
    (readGroupName? rest).map fun (name, rest) => (.group flags (some name), rest)
  | '?' :: '<' :: rest =>
    (readGroupName? rest).map fun (name, rest) => (.group flags (some name), rest)
  | '?' :: rest => do
    let (flags, seen, last, rest) ← readFlags? flags false [] rest
    if last = ':' then some (.group flags none, rest)
    else if seen.isEmpty then none
    else some (.flags flags, rest)
  | rest => some (.group flags none, rest)

/-- Reads a group up to its closing parenthesis or the end of the pattern. -/
def readGroup : Nat → GroupRead → List Char → Option (GroupRead × List Char)
  | 0, _, _ => none
  | steps + 1, g, cs =>
    match cs with
    | [] => some (g, [])
    | ')' :: rest => some (g, ')' :: rest)
    | '|' :: rest => readGroup steps g.nextBranch rest
    | '(' :: rest => do
      match (← readGroupStart? g.flags rest) with
      | (.flags flags, rest) =>
        readGroup steps { g with flags := flags, pieces := (none, 0) :: g.pieces } rest
      | (.group flags name, rest) =>
        if name.any g.names.contains then none
        else
          let names := name.toList ++ g.names
          match (← readGroup steps ⟨flags, [], [], names⟩ rest) with
          | (inner, ')' :: rest) =>
            let (a, weight) := inner.finish
            readGroup steps ({ g with names := inner.names }.push a (weight + 80)) rest
          | _ => none
    | '[' :: rest => do
      let (s, rest) ← readClass? g.flags.foldCase rest
      readGroup steps (g.push (.set s) s.weight) rest
    | '*' :: rest => do
      let (g, rest) ← g.repeatLast 0 none rest
      readGroup steps g rest
    | '+' :: rest => do
      let (g, rest) ← g.repeatLast 1 none rest
      readGroup steps g rest
    | '?' :: rest => do
      let (g, rest) ← g.repeatLast 0 (some 1) rest
      readGroup steps g rest
    | '\x7b' :: rest => do
      let (least, most, rest) ← readBounds? rest
      let (g, rest) ← g.repeatLast least most rest
      readGroup steps g rest
    | '\\' :: rest => do
      let (primitive, rest) ← readEscape? rest
      readGroup steps (g.pushPrimitive primitive) rest
    | c :: rest => readGroup steps (g.pushChar c) rest

/-- Reads a pattern. -/
def read? (source : String) : Option Expression :=
  let cs := source.toList
  match readGroup (cs.length + 1) ⟨.initial, [], [], []⟩ cs with
  | some (g, []) =>
    let (a, weight) := g.finish
    if weight ≤ greatestWeight then some a else none
  | _ => none

end CatalogRecords.Pattern
