import CatalogRecords.Data
import CatalogRecords.Number.Binary

/-!
# Reading JSON

The grammar is strict: no comments, no trailing commas, no leading zeros, no control characters
inside a text, and nothing but blanks after the value. A text that holds half a surrogate pair
and a number that rounds to infinity are read over as unreadable values.
-/

namespace CatalogRecords.Json

/-- The four characters that may stand between tokens. -/
def isSpace (c : Char) : Bool := c == ' ' || c == '\n' || c == '\t' || c == '\r'

/-- The text after the blanks at its start. -/
def skipSpace (cs : List Char) : List Char := cs.dropWhile isSpace

/-- The value of a hexadecimal digit. -/
def hexDigit? (c : Char) : Option Nat :=
  if c.isDigit then some (c.toNat - '0'.toNat)
  else if 'a' ≤ c ∧ c ≤ 'f' then some (c.toNat - 'a'.toNat + 10)
  else if 'A' ≤ c ∧ c ≤ 'F' then some (c.toNat - 'A'.toNat + 10)
  else none

/-- The value of four hexadecimal digits. -/
def hexCode? (a b c d : Char) : Option Nat := do
  some (((← hexDigit? a) * 16 + (← hexDigit? b)) * 256 + (← hexDigit? c) * 16 + (← hexDigit? d))

/-- The character that a letter after a backslash stands for. -/
def escaped? : Char → Option Char
  | '"' => some '"'
  | '\\' => some '\\'
  | '/' => some '/'
  | 'b' => some '\x08'
  | 'f' => some '\x0c'
  | 'n' => some '\n'
  | 'r' => some '\r'
  | 't' => some '\t'
  | _ => none

/-- The first half of a surrogate pair. -/
def isHighSurrogate (code : Nat) : Bool := 0xd800 ≤ code && code < 0xdc00

/-- The second half of a surrogate pair. -/
def isLowSurrogate (code : Nat) : Bool := 0xdc00 ≤ code && code < 0xe000

/-- The character that a surrogate pair stands for. -/
def pairChar (high low : Nat) : Char :=
  Char.ofNat (0x10000 + (high - 0xd800) * 0x400 + (low - 0xdc00))

/-- A piece of a written text: a character, or the code of an escape with four digits. -/
inductive Piece where
  | char (c : Char)
  | code (n : Nat)

/-- Reads the pieces of a text after its opening quote, and what follows the closing quote. `done`
holds the pieces so far, last first. -/
def readPieces (done : List Piece) : List Char → Option (List Piece × List Char)
  | [] => none
  | '"' :: rest => some (done.reverse, rest)
  | '\\' :: 'u' :: a :: b :: c :: d :: rest =>
    match hexCode? a b c d with
    | some n => readPieces (.code n :: done) rest
    | none => none
  | '\\' :: letter :: rest =>
    match escaped? letter with
    | some c => readPieces (.char c :: done) rest
    | none => none
  | c :: rest => if c.toNat < 32 then none else readPieces (.char c :: done) rest

/-- The characters of pieces, where the codes of a surrogate pair make one character; half a pair
makes none. -/
def joinPieces : List Piece → Option (List Char)
  | [] => some []
  | .char c :: pieces => (joinPieces pieces).map (c :: ·)
  | .code high :: .code low :: pieces =>
    if isHighSurrogate high then
      if isLowSurrogate low then (joinPieces pieces).map (pairChar high low :: ·) else none
    else if isLowSurrogate high then none
    else (joinPieces (.code low :: pieces)).map (Char.ofNat high :: ·)
  | .code n :: pieces =>
    if isHighSurrogate n || isLowSurrogate n then none
    else (joinPieces pieces).map (Char.ofNat n :: ·)

/-- Reads a text after its opening quote: its characters, or nothing if it holds half a pair, and
what follows the closing quote. -/
def readText (cs : List Char) : Option (Option (List Char) × List Char) :=
  (readPieces [] cs).map fun (pieces, rest) => (joinPieces pieces, rest)

/-- The value a text read by `readText` stands for. -/
def textData : Option (List Char) → Data
  | some cs => .text (String.ofList cs)
  | none => .unreadable

/-- Whether digits may stand before the point: one digit, or several without a leading zero. -/
def isWhole (digits : List Char) : Bool :=
  match digits with
  | [] => false
  | ['0'] => true
  | d :: _ => d != '0'

/-- The value of a numeral: an integer if it is written as one and fits 64 bits, otherwise a
number of 64 bits. Minus zero is no integer. -/
def numberData (negative : Bool) (whole fraction : List Char) (exponent : Option Int) : Data :=
  let digits := Number.digitsValue (Number.digitsValue 0 whole) fraction
  let value : Int := if negative then -digits else digits
  let isInteger := fraction.isEmpty && exponent.isNone && !(negative && digits == 0)
  if isInteger && Number.fitsBits 64 value then .int value
  else
    let format := Number.BinaryFormat.double
    if format.ofDecimal digits (exponent.getD 0 - fraction.length) = format.infinity then
      .unreadable
    else .real

/-- Reads an exponent after its letter: an optional sign and digits. -/
def readExponent (cs : List Char) : Option (Int × List Char) :=
  let (negative, cs) := match cs with
    | '-' :: rest => (true, rest)
    | '+' :: rest => (false, rest)
    | rest => (false, rest)
  let digits := cs.takeWhile Char.isDigit
  let value : Int := Number.digitsValue 0 digits
  if digits.isEmpty then none
  else some (if negative then -value else value, cs.dropWhile Char.isDigit)

/-- Reads a number. -/
def readNumber (cs : List Char) : Option (Data × List Char) := do
  let (negative, cs) := match cs with
    | '-' :: rest => (true, rest)
    | rest => (false, rest)
  let whole := cs.takeWhile Char.isDigit
  let cs := cs.dropWhile Char.isDigit
  if !isWhole whole then none
  else
    let (fraction, cs) ← match cs with
      | '.' :: rest =>
        let digits := rest.takeWhile Char.isDigit
        if digits.isEmpty then none else some (digits, rest.dropWhile Char.isDigit)
      | rest => some ([], rest)
    match cs with
    | e :: rest =>
      if e = 'e' ∨ e = 'E' then
        let (exponent, rest) ← readExponent rest
        some (numberData negative whole fraction (some exponent), rest)
      else some (numberData negative whole fraction none, cs)
    | [] => some (numberData negative whole fraction none, [])

/-- Reads one of the words true, false and null. -/
def readWord (cs : List Char) : Option (Data × List Char) :=
  match cs with
  | 't' :: 'r' :: 'u' :: 'e' :: rest => some (.bool true, rest)
  | 'f' :: 'a' :: 'l' :: 's' :: 'e' :: rest => some (.bool false, rest)
  | 'n' :: 'u' :: 'l' :: 'l' :: rest => some (.null, rest)
  | _ => none

/-- A map that a name without a meaning spoils. -/
def mapData (entries : List (Option String × Data)) : Data :=
  if entries.all fun entry => entry.1.isSome then
    .map (entries.map fun (name, value) => (name.getD "", value))
  else .unreadable

mutual

/-- Reads a value and the blanks before it; the first number bounds the steps. -/
def readValue : Nat → List Char → Option (Data × List Char)
  | 0, _ => none
  | steps + 1, cs =>
    match skipSpace cs with
    | [] => none
    | '"' :: rest => (readText rest).map fun (text, rest) => (textData text, rest)
    | '[' :: rest =>
      match skipSpace rest with
      | ']' :: rest => some (.list [], rest)
      | rest => (readItems steps rest).map fun (items, rest) => (.list items, rest)
    | '\x7b' :: rest =>
      match skipSpace rest with
      | '\x7d' :: rest => some (.map [], rest)
      | rest => (readEntries steps rest).map fun (entries, rest) => (mapData entries, rest)
    | c :: rest =>
      if c = '-' ∨ c.isDigit then readNumber (c :: rest) else readWord (c :: rest)

/-- Reads the items of a list up to its closing bracket. -/
def readItems : Nat → List Char → Option (List Data × List Char)
  | 0, _ => none
  | steps + 1, cs => do
    let (item, rest) ← readValue steps cs
    match skipSpace rest with
    | ']' :: rest => some ([item], rest)
    | ',' :: rest =>
      let (items, rest) ← readItems steps rest
      some (item :: items, rest)
    | _ => none

/-- Reads the entries of a map up to its closing brace. -/
def readEntries : Nat → List Char → Option (List (Option String × Data) × List Char)
  | 0, _ => none
  | steps + 1, cs =>
    match skipSpace cs with
    | '"' :: rest => do
      let (name, rest) ← readText rest
      match skipSpace rest with
      | ':' :: rest =>
        let (value, rest) ← readValue steps rest
        let entry := (name.map String.ofList, value)
        match skipSpace rest with
        | '\x7d' :: rest => some ([entry], rest)
        | ',' :: rest =>
          let (entries, rest) ← readEntries steps rest
          some (entry :: entries, rest)
        | _ => none
      | _ => none
    | _ => none

end

/-- Reads a text that holds one value and nothing else. -/
def read? (s : String) : Option Data :=
  let cs := s.toList
  match readValue (cs.length + 1) cs with
  | some (value, rest) => if (skipSpace rest).isEmpty then some value else none
  | none => none

/-- The greatest number of lists and maps around a value that a document may have. -/
def greatestDepth : Nat := 127

/-- Reads a text in which lists and maps beyond the greatest depth are unreadable. -/
def readLimited? (s : String) : Option Data := (read? s).map (Data.limitDepth greatestDepth)

end CatalogRecords.Json
