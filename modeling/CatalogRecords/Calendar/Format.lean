import CatalogRecords.Text.Segments

/-!
# Date and time formats

A format is a text in which a percent sign and a letter stand for a part of a date or a time. It
is read into a list of items: literal text, blanks, numeric parts, named parts and offsets from
universal time. A format with an unknown part is no format.
-/

namespace CatalogRecords.Calendar

/-- A quantity that is part of a date, a time or both. -/
inductive Component where
  | year | yearHundreds | yearInHundred
  | weekYear | weekYearHundreds | weekYearInHundred
  | quarter | month | weekFromSunday | weekFromMonday | week | weekday | ordinal | day
  | halfDay | hourInHalf | minute | second | nanosecond | timestamp | offset
  deriving DecidableEq, Repr

/-- A numeric part of a format. Hours and weekdays are counted in several ways. -/
inductive NumericPart where
  | component (c : Component)
  | hour
  | hourOfTwelve
  | daysFromSunday
  | weekdayFromMonday
  deriving DecidableEq, Repr

/-- What an item of a format stands for. -/
inductive FormatItem where
  | literal (text : List Char)
  | blanks
  | numeric (part : NumericPart)
  | shortMonth
  | longMonth
  | shortWeekday
  | longWeekday
  | halfOfDay
  /-- A fraction of a second after its point, or nothing. -/
  | fraction
  /-- A fraction of so many digits after its point, or nothing. -/
  | pointedFraction (digits : Nat)
  /-- The digits of a fraction. -/
  | bareFraction (digits : Nat)
  | zoneName
  | zoneOffset
  /-- An offset that may be the letter Z or lack its minutes. -/
  | anyZoneOffset
  /-- A whole moment: date, time and offset. -/
  | moment
  deriving DecidableEq, Repr

namespace FormatItem

/-- A numeric part that is a quantity of its own. -/
def part (c : Component) : FormatItem := .numeric (.component c)

/-- One character that stands for itself. -/
def char (c : Char) : FormatItem := .literal [c]

/-- Month, day and year of the century. -/
def monthDayYear : List FormatItem :=
  [part .month, char '/', part .day, char '/', part .yearInHundred]

/-- Hour, minute and second. -/
def hourMinuteSecond : List FormatItem :=
  [.numeric .hour, char ':', part .minute, char ':', part .second]

/-- The items a letter after a percent sign stands for. -/
def ofLetter? : Char → Option (List FormatItem)
  | 'A' => some [.longWeekday]
  | 'B' => some [.longMonth]
  | 'C' => some [part .yearHundreds]
  | 'D' => some monthDayYear
  | 'F' => some [part .year, char '-', part .month, char '-', part .day]
  | 'G' => some [part .weekYear]
  | 'H' => some [.numeric .hour]
  | 'I' => some [.numeric .hourOfTwelve]
  | 'M' => some [part .minute]
  | 'P' => some [.halfOfDay]
  | 'R' => some [.numeric .hour, char ':', part .minute]
  | 'S' => some [part .second]
  | 'T' => some hourMinuteSecond
  | 'U' => some [part .weekFromSunday]
  | 'V' => some [part .week]
  | 'W' => some [part .weekFromMonday]
  | 'X' => some hourMinuteSecond
  | 'Y' => some [part .year]
  | 'Z' => some [.zoneName]
  | 'a' => some [.shortWeekday]
  | 'b' => some [.shortMonth]
  | 'c' => some ([.shortWeekday, .blanks, .shortMonth, .blanks, part .day, .blanks] ++
      hourMinuteSecond ++ [.blanks, part .year])
  | 'd' => some [part .day]
  | 'e' => some [part .day]
  | 'f' => some [part .nanosecond]
  | 'g' => some [part .weekYearInHundred]
  | 'h' => some [.shortMonth]
  | 'j' => some [part .ordinal]
  | 'k' => some [.numeric .hour]
  | 'l' => some [.numeric .hourOfTwelve]
  | 'm' => some [part .month]
  | 'n' => some [.blanks]
  | 'p' => some [.halfOfDay]
  | 'q' => some [part .quarter]
  | 'r' => some ([.numeric .hourOfTwelve, char ':', part .minute, char ':', part .second] ++
      [.blanks, .halfOfDay])
  | 's' => some [part .timestamp]
  | 't' => some [.blanks]
  | 'u' => some [.numeric .weekdayFromMonday]
  | 'v' => some [part .day, char '-', .shortMonth, char '-', part .year]
  | 'w' => some [.numeric .daysFromSunday]
  | 'x' => some monthDayYear
  | 'y' => some [part .yearInHundred]
  | 'z' => some [.zoneOffset]
  | '+' => some [.moment]
  | '%' => some [.literal ['%']]
  | _ => none

/-- Whether items are a single numeric part, which alone may be padded. -/
def isNumeric : List FormatItem → Bool
  | [.numeric _] => true
  | _ => false

end FormatItem

/-- Reads the part after a percent sign. -/
def readPart? : List Char → Option (List FormatItem × List Char)
  | '#' :: 'z' :: rest => some ([.anyZoneOffset], rest)
  | '.' :: 'f' :: rest => some ([.fraction], rest)
  | '.' :: '3' :: 'f' :: rest => some ([.pointedFraction 3], rest)
  | '.' :: '6' :: 'f' :: rest => some ([.pointedFraction 6], rest)
  | '.' :: '9' :: 'f' :: rest => some ([.pointedFraction 9], rest)
  | '3' :: 'f' :: rest => some ([.bareFraction 3], rest)
  | '6' :: 'f' :: rest => some ([.bareFraction 6], rest)
  | '9' :: 'f' :: rest => some ([.bareFraction 9], rest)
  | ':' :: ':' :: ':' :: 'z' :: rest => some ([.zoneOffset], rest)
  | ':' :: ':' :: 'z' :: rest => some ([.zoneOffset], rest)
  | ':' :: 'z' :: rest => some ([.zoneOffset], rest)
  | pad :: letter :: rest =>
    if pad = '-' ∨ pad = '0' ∨ pad = '_' then
      ((FormatItem.ofLetter? letter).filter FormatItem.isNumeric).map fun items => (items, rest)
    else (FormatItem.ofLetter? pad).map fun items => (items, letter :: rest)
  | [letter] => (FormatItem.ofLetter? letter).map fun items => (items, [])
  | [] => none

/-- A part of a format takes at least one character. -/
theorem readPart?_length {cs rest : List Char} {items : List FormatItem}
    (h : readPart? cs = some (items, rest)) : rest.length < cs.length := by
  unfold readPart? at h
  split at h
  case h_12 =>
    split at h
    all_goals
      obtain ⟨_, _, h⟩ := Option.map_eq_some_iff.1 h
      simp only [Prod.mk.injEq] at h
      simp only [← h.2, List.length_cons]
      omega
  case h_13 =>
    obtain ⟨_, _, h⟩ := Option.map_eq_some_iff.1 h
    simp only [Prod.mk.injEq] at h
    simp [← h.2]
  all_goals simp_all
  all_goals
    obtain ⟨_, rfl⟩ := h
    simp +arith

/-- Reads a format. -/
def readFormat? (cs : List Char) : Option (List FormatItem) :=
  match cs with
  | [] => some []
  | '%' :: rest =>
    match h : readPart? rest with
    | some (items, rest') =>
      have : rest'.length < rest.length := readPart?_length h
      (readFormat? rest').map (items ++ ·)
    | none => none
  | c :: rest =>
    let item := if Text.isBlank c then FormatItem.blanks else .char c
    (readFormat? rest).map (item :: ·)
termination_by cs.length
decreasing_by
  · simp only [List.length_cons]
    omega
  · simp

end CatalogRecords.Calendar
