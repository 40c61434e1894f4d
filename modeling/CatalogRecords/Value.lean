import CatalogRecords.Calendar.Reading
import CatalogRecords.Number.Decimal
import CatalogRecords.Schema.DocumentType
import CatalogRecords.Text.LetterCase

/-!
# Typed values

Documents hold texts; a comparison needs the value that a text stands for in the type of its
field. Numbers are read with the separator that a convention names, unless the field always uses a
point; dates and times by the format of the field, or else by the usual ones. A text that does not
convert has no value, and only values of one type are ordered.
-/

namespace CatalogRecords

/-- Which character separates the whole part of a number from its fraction. -/
inductive DecimalConvention where
  | point
  | comma
  deriving DecidableEq, Repr, Inhabited

namespace DecimalConvention

/-- The words for the conventions. -/
def words : List (String × DecimalConvention) := [("point", point), ("comma", comma)]

/-- The word for a convention. -/
def word : DecimalConvention → String
  | point => "point"
  | comma => "comma"

end DecimalConvention

/-- The value of a text in the type of its field. -/
inductive TypedValue where
  | boolean (value : Bool)
  | byte (value : Int)
  | int16 (value : Int)
  | int32 (value : Int)
  | int64 (value : Int)
  | float32 (value : Number.Binary)
  | float64 (value : Number.Binary)
  | decimal (value : Number.Decimal)
  | date (value : Calendar.Date)
  | time (value : Calendar.Time)
  | datetime (value : Calendar.DateTime)
  | text (value : String)

namespace TypedValue

/-- The order of two values; values of different types have none. -/
def cmp? : TypedValue → TypedValue → Option Ordering
  | boolean a, boolean b => some (compare a.toNat b.toNat)
  | byte a, byte b => some (compare a b)
  | int16 a, int16 b => some (compare a b)
  | int32 a, int32 b => some (compare a b)
  | int64 a, int64 b => some (compare a b)
  | float32 a, float32 b => some (compare a.key b.key)
  | float64 a, float64 b => some (compare a.key b.key)
  | decimal a, decimal b => some (a.cmp b)
  | date a, date b => some (a.cmp b)
  | time a, time b => some (a.cmp b)
  | datetime a, datetime b => some (a.cmp b)
  | text a, text b => some (compare a b)
  | _, _ => none

/-- Whether two values are of one type and equal. -/
def same (a b : TypedValue) : Bool := a.cmp? b == some .eq

end TypedValue

/-- The words that stand for a truth value. -/
def readBoolean? (text : String) : Option Bool :=
  let word := Text.lower text
  if ["true", "1", "yes", "si", "sì"].contains word then some true
  else if ["false", "0", "no"].contains word then some false
  else none

/-- Point for comma and comma for point. -/
def swapSeparator (c : Char) : Char := if c = ',' then '.' else if c = '.' then ',' else c

/-- The numeral in point notation that a text in some convention stands for. -/
def DecimalConvention.toPoint (convention : DecimalConvention) (cs : List Char) : List Char :=
  match convention with
  | .point => cs
  | .comma => cs.map swapSeparator

/-- The formats of dates when the field names none. -/
def dateFormats : List String := ["%Y-%m-%d", "%d/%m/%Y"]

/-- The formats of times when the field names none. -/
def timeFormats : List String := ["%H:%M:%S", "%H:%M"]

/-- The formats of dates with times when the field names none. -/
def datetimeFormats : List String := ["%Y-%m-%dT%H:%M:%S", "%Y-%m-%d %H:%M:%S"]

/-- The value that the format of the field, or else the first usual one that fits, reads. -/
def readFormatted? {α : Type} (read : String → String → Option α) (custom : Option String)
    (usual : List String) (text : String) : Option α :=
  match custom with
  | some format => read format text
  | none => usual.findSome? fun format => read format text

/-- The value of a text as a value of a field. -/
def SimpleField.coerce? (field : SimpleField) (convention : DecimalConvention) (text : String) :
    Option TypedValue :=
  let convention := if field.usesPointDecimal then .point else convention
  let trimmed := Text.trim text
  let numeral := convention.toPoint trimmed.toList
  let integer (range : Number.IntegerRange) := Number.readInteger? range numeral
  let format := field.datetimeFormat
  match field.fieldType with
  | .boolean => (readBoolean? trimmed).map .boolean
  | .byte => (integer (.unsigned 8)).map .byte
  | .int16 => (integer (.signed 16)).map .int16
  | .int32 => (integer (.signed 32)).map .int32
  | .int64 => (integer (.signed 64)).map .int64
  | .float32 => (Number.readBinary? .single numeral).map .float32
  | .float64 => (Number.readBinary? .double numeral).map .float64
  | .decimal => (Number.Decimal.read? numeral).map .decimal
  | .date => (readFormatted? Calendar.Date.read? format dateFormats trimmed).map .date
  | .time => (readFormatted? Calendar.Time.read? format timeFormats trimmed).map .time
  | .datetime =>
    (readFormatted? Calendar.DateTime.read? format datetimeFormats trimmed).map .datetime
  | .string => some (.text text)

end CatalogRecords
