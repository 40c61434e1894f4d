import CatalogRecords.Calendar.Date
import CatalogRecords.Calendar.Format
import CatalogRecords.Number.Binary

/-!
# Reading dates and times by a format

Reading a text by the items of a format gathers the quantities that it names; a quantity named
twice must be the same both times. The date or time is then made from the quantities that suffice,
and must agree with all the others.
-/

namespace CatalogRecords.Calendar

/-- Why quantities make no date or time. -/
inductive Fault where
  | notEnough
  | outOfRange
  | impossible
  | malformed
  deriving DecidableEq, Repr

/-- The quantities read so far, each at most once. -/
abbrev Quantities := List (Component × Int)

namespace Quantities

/-- The value of a quantity. -/
def get? (q : Quantities) (c : Component) : Option Int := List.lookup c q

/-- Records a quantity, which may not be there with another value. -/
def put (q : Quantities) (c : Component) (value : Int) : Except Fault Quantities :=
  match q.get? c with
  | some old => if old = value then .ok q else .error .impossible
  | none => .ok ((c, value) :: q)

/-- Records a quantity within bounds. -/
def putWithin (q : Quantities) (c : Component) (range : Number.IntegerRange) (value : Int) :
    Except Fault Quantities :=
  if range.holds value then q.put c value else .error .outOfRange

/-- The greatest year that is kept. -/
def greatestYear : Int := (Number.IntegerRange.signed 32).greatest

/-- The range of a quantity as it is written. -/
def bounds : Component → Number.IntegerRange
  | .year | .weekYear => .signed 32
  | .yearHundreds | .weekYearHundreds => ⟨0, greatestYear⟩
  | .yearInHundred | .weekYearInHundred => ⟨0, 99⟩
  | .quarter => ⟨1, 4⟩
  | .month => ⟨1, 12⟩
  | .weekFromSunday | .weekFromMonday => ⟨0, 53⟩
  | .week => ⟨1, 53⟩
  | .weekday => ⟨0, 6⟩
  | .ordinal => ⟨1, 366⟩
  | .day => ⟨1, 31⟩
  | .halfDay => ⟨0, 1⟩
  | .hourInHalf => ⟨0, 11⟩
  | .minute => ⟨0, 59⟩
  | .second => ⟨0, 60⟩
  | .nanosecond => ⟨0, 999999999⟩
  | .timestamp => .signed 64
  | .offset => .signed 32

/-- Records a component within its bounds. -/
def putComponent (q : Quantities) (c : Component) (value : Int) : Except Fault Quantities :=
  q.putWithin c (bounds c) value

/-- Records an hour of the day. -/
def putHour (q : Quantities) (hour : Int) : Except Fault Quantities :=
  if 0 ≤ hour ∧ hour < 24 then do (← q.put .halfDay (hour / 12)).put .hourInHalf (hour % 12)
  else .error .outOfRange

/-- Records a numeric part as it is written. -/
def putNumeric (q : Quantities) (part : NumericPart) (value : Int) : Except Fault Quantities :=
  match part with
  | .component c => q.putComponent c value
  | .hour => q.putHour value
  | .hourOfTwelve =>
    if 1 ≤ value ∧ value ≤ 12 then q.put .hourInHalf (value % 12) else .error .outOfRange
  | .daysFromSunday =>
    if 0 ≤ value ∧ value ≤ 6 then q.put .weekday ((value + 6) % 7) else .error .outOfRange
  | .weekdayFromMonday => q.putWithin .weekday ⟨0, 6⟩ (value - 1)

end Quantities

/-- The most digits that a part is written with, and whether it may have a sign. No bound at all
is a bound that no text reaches. -/
def NumericPart.width : NumericPart → Option Nat × Bool
  | .component .year | .component .weekYear => (some 4, true)
  | .component .quarter => (some 1, false)
  | .component .ordinal => (some 3, false)
  | .component .nanosecond => (some 9, false)
  | .component .timestamp => (none, false)
  | .component _ => (some 2, false)
  | .hour | .hourOfTwelve => (some 2, false)
  | .daysFromSunday | .weekdayFromMonday => (some 1, false)

/-- Reads at least `least` digits and no more than `most`, below the largest 64-bit integer. -/
def readDigits (least : Nat) (most : Option Nat) (cs : List Char) :
    Except Fault (Nat × List Char) :=
  let window := match most with
    | some n => cs.take n
    | none => cs
  let digits := window.takeWhile Char.isDigit
  let value := Number.digitsValue 0 digits
  if digits.length < least then .error .malformed
  else if Number.twoPow 63 ≤ value then .error .outOfRange
  else .ok (value, cs.drop digits.length)

/-- Reads a numeric part after any blanks. A signed part has no bound on its digits. -/
def readNumeric (part : NumericPart) (cs : List Char) : Except Fault (Int × List Char) := do
  let (width, signed) := part.width
  match signed, cs.dropWhile Text.isBlank with
  | true, '-' :: rest =>
    let (value, rest) ← readDigits 1 none rest
    .ok (-(value : Int), rest)
  | true, '+' :: rest =>
    let (value, rest) ← readDigits 1 none rest
    .ok (value, rest)
  | _, rest =>
    let (value, rest) ← readDigits 1 width rest
    .ok (value, rest)

/-- The English names of the months. -/
def monthNames : List String :=
  ["january", "february", "march", "april", "may", "june", "july", "august", "september",
    "october", "november", "december"]

/-- The English names of the days of the week. -/
def weekdayNames : List String :=
  ["monday", "tuesday", "wednesday", "thursday", "friday", "saturday", "sunday"]

/-- The rest of a text that begins with a name, whatever the case of its letters. -/
def dropName? : List Char → List Char → Option (List Char)
  | [], rest => some rest
  | n :: name, c :: cs => if n == c.toLower then dropName? name cs else none
  | _ :: _, [] => none

/-- Reads the first three letters of one of the names, and all of the name if `long` and it is
there: the number of the name and the rest. -/
def readName? (long : Bool) (names : List String) (cs : List Char) : Option (Nat × List Char) :=
  names.zipIdx.findSome? fun (name, i) => do
    let rest ← dropName? (name.toList.take 3) cs
    if long then some (i, (dropName? (name.toList.drop 3) rest).getD rest) else some (i, rest)

/-- Reads digits of a fraction of a second, up to nine of them; further digits are skipped. -/
def readFraction (cs : List Char) : Except Fault (Int × List Char) := do
  let (value, rest) ← readDigits 1 (some 9) cs
  let count := cs.length - rest.length
  .ok (value * Number.tenPow (9 - count), rest.dropWhile Char.isDigit)

/-- Reads exactly so many digits of a fraction of a second. -/
def readFixedFraction (digits : Nat) (cs : List Char) : Except Fault (Int × List Char) := do
  let (value, rest) ← readDigits digits (some digits) cs
  .ok (value * Number.tenPow (9 - digits), rest)

/-- Reads an offset from universal time in seconds: a sign, two digits of hours, blanks and colons
if any, and two digits of minutes. -/
def readOffset (zulu missingMinutes : Bool) (cs : List Char) : Except Fault (Int × List Char) :=
  let signed (negative : Bool) (cs : List Char) : Except Fault (Int × List Char) :=
    match cs with
    | h :: k :: rest =>
      if h.isDigit && k.isDigit then
        let hours := Number.digitsValue 0 [h, k]
        let total (minutes : Nat) : Int :=
          let seconds : Int := hours * 3600 + minutes * 60
          if negative then -seconds else seconds
        match rest.dropWhile fun c => c == ':' || Text.isBlank c with
        | m :: n :: rest =>
          if m.isDigit && n.isDigit then
            if '5' < m then .error .outOfRange
            else .ok (total (Number.digitsValue 0 [m, n]), rest)
          else .error .malformed
        | [] => if missingMinutes then .ok (total 0, []) else .error .malformed
        | [_] => .error .malformed
      else .error .malformed
    | _ => .error .malformed
  match cs with
  | '+' :: rest => signed false rest
  | '-' :: rest => signed true rest
  | '\u2212' :: rest => signed true rest
  | c :: rest => if zulu ∧ (c = 'Z' ∨ c = 'z') then .ok (0, rest) else .error .malformed
  | [] => .error .malformed

/-- A result, or the fault of a text that does not have the form wanted. -/
def orMalformed {α : Type} : Option α → Except Fault α
  | some a => .ok a
  | none => .error .malformed

/-- Reads an item that is not a whole moment. -/
def readSimpleItem (q : Quantities) (item : FormatItem) (cs : List Char) :
    Except Fault (Quantities × List Char) :=
  match item with
  | .literal text => (orMalformed (Text.dropStart? text cs)).map fun rest => (q, rest)
  | .blanks => .ok (q, cs.dropWhile Text.isBlank)
  | .numeric part => do
    let (value, rest) ← readNumeric part cs
    .ok (← q.putNumeric part value, rest)
  | .shortMonth => do
    let (month, rest) ← orMalformed (readName? false monthNames cs)
    .ok (← q.put .month (month + 1), rest)
  | .longMonth => do
    let (month, rest) ← orMalformed (readName? true monthNames cs)
    .ok (← q.put .month (month + 1), rest)
  | .shortWeekday => do
    let (weekday, rest) ← orMalformed (readName? false weekdayNames cs)
    .ok (← q.put .weekday weekday, rest)
  | .longWeekday => do
    let (weekday, rest) ← orMalformed (readName? true weekdayNames cs)
    .ok (← q.put .weekday weekday, rest)
  | .halfOfDay =>
    match cs with
    | h :: m :: rest =>
      if m.toLower ≠ 'm' then .error .malformed
      else if h.toLower = 'a' then (q.put .halfDay 0).map fun q => (q, rest)
      else if h.toLower = 'p' then (q.put .halfDay 1).map fun q => (q, rest)
      else .error .malformed
    | _ => .error .malformed
  | .fraction =>
    match cs with
    | '.' :: rest => do
      let (value, rest) ← readFraction rest
      .ok (← q.put .nanosecond value, rest)
    | _ => .ok (q, cs)
  | .pointedFraction digits =>
    match cs with
    | '.' :: rest => do
      let (value, rest) ← readFixedFraction digits rest
      .ok (← q.put .nanosecond value, rest)
    | _ => .ok (q, cs)
  | .bareFraction digits => do
    let (value, rest) ← readFixedFraction digits cs
    .ok (← q.put .nanosecond value, rest)
  | .zoneName => .ok (q, cs.dropWhile fun c => !Text.isBlank c)
  | .zoneOffset => do
    let (value, rest) ← readOffset false false (cs.dropWhile Text.isBlank)
    .ok (← q.put .offset value, rest)
  | .anyZoneOffset => do
    let (value, rest) ← readOffset true true (cs.dropWhile Text.isBlank)
    .ok (← q.put .offset value, rest)
  | .moment => .error .malformed

/-- Reads items one after the other, none of them a whole moment. -/
def readSimpleItems (q : Quantities) (items : List FormatItem) (cs : List Char) :
    Except Fault (Quantities × List Char) :=
  items.foldlM (fun (q, cs) item => readSimpleItem q item cs) (q, cs)

/-- The items of a date in a moment. -/
def momentDate : List FormatItem :=
  [.part .year, .blanks, .char '-', .part .month, .blanks, .char '-', .part .day]

/-- The items of a time in a moment. -/
def momentTime : List FormatItem :=
  [.numeric .hour, .blanks, .char ':', .part .minute, .blanks, .char ':', .part .second,
    .fraction, .blanks]

/-- Reads a moment: date, the letter T or a blank, time, and an offset, Z or UTC. -/
def readMoment (q : Quantities) (cs : List Char) : Except Fault (Quantities × List Char) := do
  let (q, rest) ← readSimpleItems q momentDate cs
  match rest with
  | c :: rest =>
    if c = 'T' ∨ c = 't' ∨ c = ' ' then
      let (q, rest) ← readSimpleItems q momentTime rest
      let rest := rest.dropWhile Text.isBlank
      let (offset, rest) ← match dropName? "utc".toList rest with
        | some rest => .ok (0, rest)
        | none => readOffset true false rest
      .ok (← q.put .offset offset, rest)
    else .error .malformed
  | [] => .error .malformed

/-- Reads an item. -/
def readItem (q : Quantities) (item : FormatItem) (cs : List Char) :
    Except Fault (Quantities × List Char) :=
  match item with
  | .moment => readMoment q cs
  | item => readSimpleItem q item cs

/-- The quantities of a text that has the form of the items from its start to its end. -/
def readItems (items : List FormatItem) (cs : List Char) : Except Fault Quantities := do
  let (q, rest) ← items.foldlM (fun (q, cs) item => readItem q item cs) (([] : Quantities), cs)
  if rest.isEmpty then .ok q else .error .malformed

namespace Quantities

/-- The year from a full year, a century and a year of the century. Two digits alone stand for a
year from 1970 to 2069. -/
def resolveYear : Option Int → Option Int → Option Int → Except Fault (Option Int)
  | year, none, none => .ok year
  | some year, hundreds, inHundred =>
    if year < 0 then .error .impossible
    else if hundreds.getD (year / 100) = year / 100 ∧ inHundred.getD (year % 100) = year % 100 then
      .ok (some year)
    else .error .impossible
  | none, some hundreds, some inHundred =>
    let year := hundreds * 100 + inHundred
    if year ≤ greatestYear then .ok (some year) else .error .outOfRange
  | none, none, some inHundred =>
    .ok (some (inHundred + if inHundred < 70 then 2000 else 1900))
  | none, some _, none => .error .notEnough

/-- Whether a quantity that was read agrees with its value in the date. -/
def agrees (q : Quantities) (c : Component) (value : Int) : Bool :=
  match q.get? c with
  | some given => given == value
  | none => true

/-- Whether the parts of a year agree with it; a year before zero has no century. -/
def agreesYear (q : Quantities) (full hundreds inHundred : Component) (year : Int) : Bool :=
  q.agrees full year &&
    if 0 ≤ year then q.agrees hundreds (year / 100) && q.agrees inHundred (year % 100)
    else (q.get? hundreds).isNone && (q.get? inHundred).isNone

/-- Whether year, month and day agree with a date. -/
def agreesDay (q : Quantities) (d : Date) : Bool :=
  q.agreesYear .year .yearHundreds .yearInHundred d.year && q.agrees .month d.month &&
    q.agrees .day d.day

/-- Whether the week, its year and the weekday agree with a date. -/
def agreesWeek (q : Quantities) (d : Date) : Bool :=
  q.agreesYear .weekYear .weekYearHundreds .weekYearInHundred d.weekYear && q.agrees .week d.week &&
    q.agrees .weekday d.weekday

/-- Whether the day of the year and the counted weeks agree with a date. -/
def agreesOrdinal (q : Quantities) (d : Date) : Bool :=
  q.agrees .ordinal d.ordinal && q.agrees .weekFromSunday (d.weekFrom 6) &&
    q.agrees .weekFromMonday (d.weekFrom 0)

/-- A date, or the fault of one that the calendar does not have. -/
def orOutOfRange {α : Type} : Option α → Except Fault α
  | some a => .ok a
  | none => .error .outOfRange

/-- The date of a weekday in a week counted from the first `start` day of the year. -/
def countedWeekDate (year week weekday start : Int) : Except Fault Date := do
  let first ← orOutOfRange (Date.ofOrdinal? year 1)
  let ordinal := 1 + (start - first.weekday) % 7 + (week - 1) * 7 + (weekday - start) % 7
  match Date.ofOrdinal? year ordinal with
  | some date => .ok date
  | none => .error .impossible

/-- The date that the quantities stand for. -/
def toDate (q : Quantities) : Except Fault Date := do
  let year ← resolveYear (q.get? .year) (q.get? .yearHundreds) (q.get? .yearInHundred)
  let weekYear ←
    resolveYear (q.get? .weekYear) (q.get? .weekYearHundreds) (q.get? .weekYearInHundred)
  let (date, agreed) ←
    match year, q.get? .month, q.get? .day, q.get? .ordinal with
    | some year, some month, some day, _ => do
      let d ← orOutOfRange (Date.ofParts? year month day)
      .ok (d, q.agreesWeek d && q.agreesOrdinal d)
    | some year, _, _, some ordinal => do
      let d ← orOutOfRange (Date.ofOrdinal? year ordinal)
      .ok (d, q.agreesDay d && q.agreesWeek d && q.agreesOrdinal d)
    | year, _, _, _ =>
      match year, q.get? .weekFromSunday, q.get? .weekFromMonday, q.get? .weekday with
      | some year, some week, _, some weekday => do
        let d ← countedWeekDate year week weekday 6
        .ok (d, q.agreesDay d && q.agreesWeek d && q.agreesOrdinal d)
      | some year, none, some week, some weekday => do
        let d ← countedWeekDate year week weekday 0
        .ok (d, q.agreesDay d && q.agreesWeek d && q.agreesOrdinal d)
      | _, _, _, weekday =>
        match weekYear, q.get? .week, weekday with
        | some weekYear, some week, some weekday => do
          let d ← orOutOfRange (Date.ofWeek? weekYear week weekday)
          .ok (d, q.agreesDay d && q.agreesOrdinal d)
        | _, _, _ => .error .notEnough
  if agreed && q.agrees .quarter date.quarter then .ok date else .error .impossible

/-- The time of day that the quantities stand for. Seconds may be left out, though not before a
fraction. -/
def toTime (q : Quantities) : Except Fault Time :=
  match q.get? .halfDay, q.get? .hourInHalf, q.get? .minute with
  | some half, some hour, some minute => do
    let (second, leap) ← match q.get? .second with
      | none => .ok (0, 0)
      | some s => if s = 60 then .ok (59, 1000000000) else .ok (s.toNat, 0)
    let nanoseconds ← match q.get? .nanosecond, q.get? .second with
      | some _, none => .error .notEnough
      | some n, some _ => .ok n.toNat
      | none, _ => .ok 0
    orOutOfRange (Time.ofParts? (half * 12 + hour).toNat minute.toNat second (leap + nanoseconds))
  | _, _, _ => .error .notEnough

/-- Fills in the moment that a number of seconds since 1970 stands for, and reads date and time
from all quantities together. -/
def fromTimestamp (q : Quantities) (seconds : Int) : Except Fault DateTime := do
  let moment ← orOutOfRange (DateTime.ofTimestamp? seconds)
  let (moment, q) ←
    if q.get? .second = some 60 then
      if moment.time.second = 59 then .ok (moment, q)
      else if moment.time.second = 0 then
        (orOutOfRange (DateTime.ofTimestamp? (seconds - 1))).map fun m => (m, q)
      else .error .impossible
    else (q.putComponent .second moment.time.second).map fun q => (moment, q)
  let q ← q.putComponent .year moment.date.year
  let q ← q.putComponent .ordinal moment.date.ordinal
  let q ← q.putHour moment.time.hour
  let q ← q.putComponent .minute moment.time.minute
  .ok ⟨← q.toDate, ← q.toTime⟩

/-- The date and time at an offset from universal time that the quantities stand for. -/
def toDateTime (q : Quantities) (offset : Int) : Except Fault DateTime :=
  match q.toDate, q.toTime, q.get? .timestamp with
  | .ok date, .ok time, given =>
    let moment : DateTime := ⟨date, time⟩
    let seconds := moment.timestamp - offset
    match given with
    | none => .ok moment
    | some g =>
      if g = seconds ∨ (1000000000 ≤ time.nanoseconds ∧ g = seconds + 1) then .ok moment
      else .error .impossible
  | .error .notEnough, .error .notEnough, some seconds => q.fromTimestamp (seconds + offset)
  | .error .notEnough, .ok _, some seconds => q.fromTimestamp (seconds + offset)
  | .ok _, .error .notEnough, some seconds => q.fromTimestamp (seconds + offset)
  | .error .notEnough, .error fault, some _ => .error fault
  | .error fault, _, _ => .error fault
  | _, .error fault, _ => .error fault

end Quantities

/-- The quantities of a text read by the text of a format. -/
def readByFormat (format text : String) : Except Fault Quantities := do
  let items ← orMalformed (readFormat? format.toList)
  readItems items text.toList

/-- Reads a date by a format. -/
def Date.read? (format text : String) : Option Date :=
  ((readByFormat format text).bind Quantities.toDate).toOption

/-- Reads a time of day by a format. -/
def Time.read? (format text : String) : Option Time :=
  ((readByFormat format text).bind Quantities.toTime).toOption

/-- Reads a date and time by a format; an offset that is given is passed over. -/
def DateTime.read? (format text : String) : Option DateTime :=
  ((readByFormat format text).bind fun q => q.toDateTime 0).toOption

/-- Reads a moment of universal time from a text with date, time and offset. -/
def DateTime.readUniversal? (text : String) : Option DateTime := do
  let (q, rest) ← (readMoment [] text.toList).toOption
  let offset ← q.get? .offset
  if !(rest.dropWhile Text.isBlank).isEmpty then none
  else
    let moment ← (q.toDateTime offset).toOption
    if -86400 < offset ∧ offset < 86400 then moment.addSeconds? (-offset) else none

/-- A moment of universal time with its date, the letter T, its time and the letter Z. -/
def DateTime.renderUniversal (t : DateTime) : String :=
  t.date.render ++ "T" ++ t.time.render ++ "Z"

end CatalogRecords.Calendar
