import CatalogRecords.Data

/-!
# Writing JSON

A value has two layouts. The compact one has no blanks at all; the other puts each item and each
entry on a line of its own, indented by two blanks a level, with an empty list or map on one line.
Each function writes in front of a given rest of the text.
-/

namespace CatalogRecords.Json

/-- The lower-case hexadecimal digit of a number below 16. -/
def hexChar (n : Nat) : Char := Nat.digitChar n

/-- A character as it is written inside quotes. -/
def escapeChar (c : Char) (rest : List Char) : List Char :=
  match c with
  | '"' => '\\' :: '"' :: rest
  | '\\' => '\\' :: '\\' :: rest
  | '\x08' => '\\' :: 'b' :: rest
  | '\x0c' => '\\' :: 'f' :: rest
  | '\n' => '\\' :: 'n' :: rest
  | '\r' => '\\' :: 'r' :: rest
  | '\t' => '\\' :: 't' :: rest
  | c =>
    if c.toNat < 32 then
      '\\' :: 'u' :: '0' :: '0' :: hexChar (c.toNat / 16) :: hexChar (c.toNat % 16) :: rest
    else c :: rest

/-- A text in quotes. -/
def writeText (s : String) (rest : List Char) : List Char :=
  '"' :: s.toList.foldr escapeChar ('"' :: rest)

/-- The values that are neither text nor list nor map. -/
def writeWord : Data → List Char
  | .bool true => "true".toList
  | .bool false => "false".toList
  | .int n => (toString n).toList
  | _ => "null".toList

mutual

/-- A value without blanks. -/
def writeCompact : Data → List Char → List Char
  | .text s, rest => writeText s rest
  | .plain s, rest => writeText s rest
  | .list items, rest => '[' :: compactItems items (']' :: rest)
  | .map entries, rest => '\x7b' :: compactEntries entries ('\x7d' :: rest)
  | other, rest => writeWord other ++ rest

/-- Items with commas between them. -/
def compactItems : List Data → List Char → List Char
  | [], rest => rest
  | [item], rest => writeCompact item rest
  | item :: items, rest => writeCompact item (',' :: compactItems items rest)

/-- Entries with commas between them. -/
def compactEntries : List (String × Data) → List Char → List Char
  | [], rest => rest
  | [(name, value)], rest => writeText name (':' :: writeCompact value rest)
  | (name, value) :: entries, rest =>
    writeText name (':' :: writeCompact value (',' :: compactEntries entries rest))

end

/-- A line break and the indentation of a level. -/
def newLine (level : Nat) (rest : List Char) : List Char :=
  '\n' :: (List.replicate (2 * level) ' ' ++ rest)

mutual

/-- A value on lines of their own, at a level of indentation. -/
def writePretty (level : Nat) : Data → List Char → List Char
  | .text s, rest => writeText s rest
  | .plain s, rest => writeText s rest
  | .list [], rest => '[' :: ']' :: rest
  | .map [], rest => '\x7b' :: '\x7d' :: rest
  | .list (item :: items), rest =>
    '[' :: prettyItems (level + 1) (item :: items) (newLine level (']' :: rest))
  | .map (entry :: entries), rest =>
    '\x7b' :: prettyEntries (level + 1) (entry :: entries) (newLine level ('\x7d' :: rest))
  | other, rest => writeWord other ++ rest

/-- Items, each on a new line. -/
def prettyItems (level : Nat) : List Data → List Char → List Char
  | [], rest => rest
  | [item], rest => newLine level (writePretty level item rest)
  | item :: items, rest =>
    newLine level (writePretty level item (',' :: prettyItems level items rest))

/-- Entries, each on a new line. -/
def prettyEntries (level : Nat) : List (String × Data) → List Char → List Char
  | [], rest => rest
  | [(name, value)], rest =>
    newLine level (writeText name (':' :: ' ' :: writePretty level value rest))
  | (name, value) :: entries, rest =>
    newLine level
      (writeText name (':' :: ' ' :: writePretty level value
        (',' :: prettyEntries level entries rest)))

end

/-- The compact text of a value. -/
def compact (value : Data) : String := String.ofList (writeCompact value [])

/-- The text of a value laid out on lines. -/
def pretty (value : Data) : String := String.ofList (writePretty 0 value [])

/-- One of the two layouts. -/
def render (laidOut : Bool) (value : Data) : String :=
  if laidOut then pretty value else compact value

end CatalogRecords.Json
