/-!
# Attributes of elements

The finite vocabularies that definitions choose from: what kind of value a field holds, from which
level of cataloguing on an element is wanted, whether the field has a dictionary, and what can be
attached to it. Each has the word that stands for it in definitions.
-/

namespace CatalogRecords

/-- The kind of value that the text of a field stands for. -/
inductive FieldType where
  | boolean | byte | int16 | int32 | int64 | float32 | float64 | decimal
  | date | time | datetime | string
  deriving DecidableEq, Repr, Inhabited

namespace FieldType

/-- The words for the types. -/
def words : List (String × FieldType) := [
  ("boolean", boolean), ("byte", byte), ("int16", int16), ("int32", int32), ("int64", int64),
  ("float32", float32), ("float64", float64), ("decimal", decimal), ("date", date),
  ("time", time), ("datetime", datetime), ("string", string)]

/-- The word for a type. -/
def word : FieldType → String
  | boolean => "boolean"
  | byte => "byte"
  | int16 => "int16"
  | int32 => "int32"
  | int64 => "int64"
  | float32 => "float32"
  | float64 => "float64"
  | decimal => "decimal"
  | date => "date"
  | time => "time"
  | datetime => "datetime"
  | string => "string"

/-- Whether values of the type are numbers. -/
def isNumeric : FieldType → Bool
  | byte | int16 | int32 | int64 | float32 | float64 | decimal => true
  | _ => false

end FieldType

/-- How completely a record is catalogued: not to any level, for the inventory, provisionally, or
in full. -/
inductive Level where
  | none
  | inventory
  | provisional
  | full
  deriving DecidableEq, Repr, Inhabited

namespace Level

/-- The words for the levels; the lowest has two. -/
def words : List (String × Level) :=
  [("none", none), ("NONE", none), ("I", inventory), ("P", provisional), ("C", full)]

/-- The word for a level. -/
def word : Level → String
  | none => "none"
  | inventory => "I"
  | provisional => "P"
  | full => "C"

/-- The position of a level, from the laxest up. -/
def rank : Level → Nat
  | none => 0
  | inventory => 1
  | provisional => 2
  | full => 3

/-- The levels that ask for something, the strictest first. -/
def strictestFirst : List Level := [full, provisional, inventory]

end Level

/-- Whether the values of a field come from a dictionary: not at all, as a suggestion, or always. -/
inductive DictionaryMode where
  | none
  | openEnded
  | closed
  deriving DecidableEq, Repr, Inhabited

namespace DictionaryMode

/-- The words for the modes. -/
def words : List (String × DictionaryMode) :=
  [("none", none), ("open", openEnded), ("closed", closed)]

/-- The word for a mode. -/
def word : DictionaryMode → String
  | none => "none"
  | openEnded => "open"
  | closed => "closed"

end DictionaryMode

/-- What kind of file can be attached to a value. -/
inductive MediaKind where
  | none
  | picture
  | sound
  | movie
  deriving DecidableEq, Repr, Inhabited

namespace MediaKind

/-- The words for the kinds. -/
def words : List (String × MediaKind) :=
  [("none", none), ("picture", picture), ("sound", sound), ("movie", movie)]

/-- The word for a kind. -/
def word : MediaKind → String
  | none => "none"
  | picture => "picture"
  | sound => "sound"
  | movie => "movie"

end MediaKind

/-- Every word is read as what it was written for. -/
theorem FieldType.lookup_word (t : FieldType) : FieldType.words.lookup t.word = some t := by
  cases t <;> decide

/-- The word of a level stands for that level. -/
theorem Level.lookup_word (l : Level) : Level.words.lookup l.word = some l := by
  cases l <;> decide

/-- The word of a mode stands for that mode. -/
theorem DictionaryMode.lookup_word (m : DictionaryMode) :
    DictionaryMode.words.lookup m.word = some m := by
  cases m <;> decide

/-- The word of a kind of media stands for that kind. -/
theorem MediaKind.lookup_word (k : MediaKind) : MediaKind.words.lookup k.word = some k := by
  cases k <;> decide

end CatalogRecords
