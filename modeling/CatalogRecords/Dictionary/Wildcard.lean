import CatalogRecords.Text.LetterCase

/-!
# Wildcard patterns

Terms are searched for by pattern: a percent sign stands for any characters, an underscore for any
one, a backslash takes the next character for itself, and every other character stands for itself
in either case, if it is a Latin letter without accents. A text becomes the pattern of all texts
that begin with it when its special characters are escaped and a percent sign is put behind it.
-/

namespace CatalogRecords.Wildcard

/-- The characters that do not stand for themselves. -/
def isSpecial (c : Char) : Bool := c == '%' || c == '_' || c == '\\'

/-- A text with a backslash before each special character. -/
def escapeChars : List Char → List Char
  | [] => []
  | c :: cs => if isSpecial c then '\\' :: c :: escapeChars cs else c :: escapeChars cs

/-- The pattern of the texts that begin with the given one. -/
def beginning (start : String) : List Char := escapeChars start.toList ++ ['%']

/-- The ends of a text, from the whole text down to the empty one. -/
def suffixes : List Char → List (List Char)
  | [] => [[]]
  | c :: cs => (c :: cs) :: suffixes cs

/-- Whether a text begins with a character that `accepts` holds of, and goes on as `rest` wants. -/
def beginsWith (accepts : Char → Bool) (rest : List Char → Bool) : List Char → Bool
  | [] => false
  | c :: cs => accepts c && rest cs

/-- Whether a text matches a pattern. A backslash at the end of a pattern matches nothing. -/
def matchesChars : List Char → List Char → Bool
  | [], cs => cs.isEmpty
  | ['\\'], _ => false
  | '\\' :: c :: pattern, cs => beginsWith (Text.sameLatin c) (matchesChars pattern) cs
  | p :: pattern, cs =>
    if p = '%' then (suffixes cs).any (matchesChars pattern)
    else if p = '_' then beginsWith (fun _ => true) (matchesChars pattern) cs
    else beginsWith (Text.sameLatin p) (matchesChars pattern) cs

/-- Whether a text begins with another one, whatever the case of Latin letters. -/
def startsAlike : List Char → List Char → Bool
  | [], _ => true
  | s :: start, cs => beginsWith (Text.sameLatin s) (startsAlike start) cs

end CatalogRecords.Wildcard
