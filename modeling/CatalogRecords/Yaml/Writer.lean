import CatalogRecords.Yaml.Reader

/-!
# Writing YAML

A value is written in blocks, lists as far to the left as the keys they belong to. A text is
written as a word when it is read back as that word and as a text, else in quotes; a text of several
lines is kept line by line after a bar.
-/

namespace CatalogRecords.Yaml

/-- How a text is written. -/
inductive Style where
  | word
  | single
  | double
  | literal
  deriving DecidableEq, Repr

/-- Words that some readers take for truth values. -/
def truthWords : List String := [
  "y", "Y", "yes", "Yes", "YES", "n", "N", "no", "No", "NO",
  "true", "True", "TRUE", "false", "False", "FALSE",
  "on", "On", "ON", "off", "Off", "OFF"]

/-- Whether a character can be shown as it is: no control character, no mark of byte order, and none
beyond four hexadecimal digits. -/
def isShown (c : Char) : Bool :=
  c == '\n' || (' ' ≤ c && c ≤ '~') || (0xa0 ≤ c.toNat && c.toNat < 0xfffe && c.toNat != 0xfeff)

/-- Whether a blank stands before a line break. -/
def hasBlankBeforeBreak : List Char → Bool
  | ' ' :: '\n' :: _ => true
  | _ :: cs => hasBlankBeforeBreak cs
  | [] => false

/-- Whether a text is a word for a reader: it can begin one, and nothing in it ends one. -/
def isWord (cs : List Char) : Bool :=
  beginsWord (fun _ => false) cs && (readWord (fun _ => false) false cs).2.isEmpty &&
    cs.getLast? != some ' ' && cs.take 3 != "---".toList && cs.take 3 != "...".toList

/-- Whether a word would be taken for another value than a text. -/
def isAmbiguous (text : String) : Bool :=
  truthWords.contains text || Data.isPaddedNumeral text.toList ||
    match Data.wordValue text with
    | .text _ => false
    | _ => true

/-- How a text is written. -/
def styleOf (text : String) : Style :=
  let cs := text.toList
  if !cs.all isShown || hasBlankBeforeBreak cs then .double
  else if cs.contains '\n' then if cs.getLast? = some ' ' then .double else .literal
  else if isAmbiguous text || !isWord cs then .single
  else .word

/-- A text in single quotes, where a quote is written twice. -/
def singleQuoted (cs : List Char) : List Char :=
  '\'' :: (cs.flatMap fun c => if c = '\'' then ['\'', '\''] else [c]) ++ ['\'']

/-- The last hexadecimal digits of a number. -/
def hexDigits : (width : Nat) → Nat → List Char
  | 0, _ => []
  | width + 1, n => hexDigits width (n / 16) ++ [(Nat.digitChar (n % 16)).toUpper]

/-- A character in double quotes. -/
def escapeChar (c : Char) : List Char :=
  let escapes := [
    ('\x00', '0'), ('\x07', 'a'), ('\x08', 'b'), ('\t', 't'), ('\n', 'n'), ('\x0b', 'v'),
    ('\x0c', 'f'), ('\r', 'r'), ('\x1b', 'e'), ('"', '"'), ('\\', '\\'), (Char.ofNat 0x85, 'N')]
  match escapes.lookup c with
  | some letter => ['\\', letter]
  | none =>
    if isShown c then [c]
    else if c.toNat ≤ 0xff then '\\' :: 'x' :: hexDigits 2 c.toNat
    else if c.toNat ≤ 0xffff then '\\' :: 'u' :: hexDigits 4 c.toNat
    else '\\' :: 'U' :: hexDigits 8 c.toNat

/-- A text in double quotes. -/
def doubleQuoted (cs : List Char) : List Char := '"' :: cs.flatMap escapeChar ++ ['"']

/-- What stands after the bar: the indentation if the text itself begins with a blank or a line
break, and how the text ends. -/
def literalHints (cs : List Char) : List Char :=
  let indentation := match cs with
    | ' ' :: _ => ['2']
    | '\n' :: _ => ['2']
    | _ => []
  let ending := match cs.reverse with
    | ['\n'] => ['+']
    | '\n' :: '\n' :: _ => ['+']
    | '\n' :: _ => []
    | _ => ['-']
  indentation ++ ending

/-- The lines of a text kept line by line; lines that are empty are not indented. -/
def literalLines (indent : Nat) (cs : List Char) : List Char :=
  (Text.splitChars '\n' cs).flatMap fun line =>
    '\n' :: if line.isEmpty then [] else indented indent line

/-- A text without the line break at its end. -/
def dropLastBreak (cs : List Char) : List Char :=
  if cs.getLast? = some '\n' then cs.dropLast else cs

/-- A text, whose lines are indented if it is kept line by line. -/
def writeText (indent : Nat) (text : String) : List Char :=
  let cs := text.toList
  match styleOf text with
  | .word => cs
  | .single => singleQuoted cs
  | .double => doubleQuoted cs
  | .literal => '|' :: literalHints cs ++ literalLines indent (dropLastBreak cs)

/-- A value that is no list or map, or an empty one. -/
def writeScalar (indent : Nat) : Data → List Char
  | .text s => writeText indent s
  | .plain word => word.toList
  | .bool true => "true".toList
  | .bool false => "false".toList
  | .int n => (toString n).toList
  | .list _ => "[]".toList
  | .map _ => "\x7b\x7d".toList
  | _ => "null".toList

mutual

/-- A value after a key that is indented so far. -/
def writeAfterKey (indent : Nat) : Data → List Char
  | .list (item :: items) => '\n' :: writeItems indent false (item :: items)
  | .map (entry :: entries) => '\n' :: writeEntries (indent + 2) false (entry :: entries)
  | value => ' ' :: writeScalar (indent + 2) value ++ ['\n']

/-- A value after a dash that is indented so far. -/
def writeAfterDash (indent : Nat) : Data → List Char
  | .list (item :: items) => writeItems (indent + 2) true (item :: items)
  | .map (entry :: entries) => writeEntries (indent + 2) true (entry :: entries)
  | value => writeScalar (indent + 2) value ++ ['\n']

/-- The items of a list; the first one may already stand where it belongs. -/
def writeItems (indent : Nat) (isPlaced : Bool) : List Data → List Char
  | [] => []
  | item :: items =>
    indented (if isPlaced then 0 else indent) ['-', ' '] ++ writeAfterDash indent item ++
      writeItems indent false items

/-- The entries of a map; the first one may already stand where it belongs. -/
def writeEntries (indent : Nat) (isPlaced : Bool) : List (String × Data) → List Char
  | [] => []
  | (key, value) :: entries =>
    indented (if isPlaced then 0 else indent) (writeText indent key) ++ ':' ::
      writeAfterKey indent value ++ writeEntries indent false entries

end

/-- A value as a document. -/
def write (value : Data) : String :=
  String.ofList (match value with
    | .list (item :: items) => writeItems 0 false (item :: items)
    | .map (entry :: entries) => writeEntries 0 false (entry :: entries)
    | value => writeScalar 2 value ++ ['\n'])

end CatalogRecords.Yaml
