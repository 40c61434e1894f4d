/-!
# Dates and times of day

Dates of the Gregorian calendar, extended without limit of epoch to some 260 thousand years either
way, and times of day to the nanosecond. Days are numbered from the first of January of the year
1, which is day 1 and a Monday. A leap second is a fraction of a second that runs over one.
-/

namespace CatalogRecords.Calendar

/-- A day of the calendar. -/
structure Date where
  year : Int
  month : Nat
  day : Nat
  deriving DecidableEq, Repr

/-- A time of day: whole seconds since midnight and nanoseconds, a billion or more of them in a
leap second. -/
structure Time where
  seconds : Nat
  nanoseconds : Nat
  deriving DecidableEq, Repr

/-- A day and a time of that day. -/
structure DateTime where
  date : Date
  time : Time
  deriving DecidableEq, Repr

/-- Whether a year has a twenty-ninth of February. -/
def isLeap (year : Int) : Bool := year % 4 == 0 && (year % 100 != 0 || year % 400 == 0)

/-- The number of days of a month. -/
def daysInMonth (year : Int) (month : Nat) : Nat :=
  match month with
  | 2 => if isLeap year then 29 else 28
  | 4 | 6 | 9 | 11 => 30
  | _ => 31

/-- The days of the year before the first of a month. -/
def daysBeforeMonth (year : Int) : Nat → Nat
  | 0 => 0
  | 1 => 0
  | month + 1 => daysBeforeMonth year month + daysInMonth year month

/-- The number of days of a year. -/
def daysInYear (year : Int) : Nat := if isLeap year then 366 else 365

/-- The number of the last day before a year. -/
def daysBeforeYear (year : Int) : Int :=
  let past := year - 1
  365 * past + past / 4 - past / 100 + past / 400

/-- The years that the calendar reaches. -/
def isReached (year : Int) : Bool := -262143 ≤ year && year ≤ 262142

namespace Date

/-- The date of a year, a month and a day, when there is one. -/
def ofParts? (year month day : Int) : Option Date :=
  if isReached year ∧ 1 ≤ month ∧ month ≤ 12 ∧ 1 ≤ day ∧ day ≤ daysInMonth year month.toNat then
    some ⟨year, month.toNat, day.toNat⟩
  else none

/-- The number of the day within its year, from 1. -/
def ordinal (d : Date) : Nat := daysBeforeMonth d.year d.month + d.day

/-- The number of the day. -/
def number (d : Date) : Int := daysBeforeYear d.year + d.ordinal

/-- The date of a day of a year, when the year has that many days. -/
def ofOrdinal? (year ordinal : Int) : Option Date :=
  if isReached year ∧ 1 ≤ ordinal ∧ ordinal ≤ daysInYear year then
    let month := ((List.range 12).filter fun m => daysBeforeMonth year (m + 1) < ordinal).length
    some ⟨year, month, (ordinal - daysBeforeMonth year month).toNat⟩
  else none

/-- The year that a day lies in. -/
def yearOfNumber (number : Int) : Int :=
  let guess := (number - 1) * 400 / 146097 + 1
  if number ≤ daysBeforeYear guess then guess - 1
  else if daysBeforeYear (guess + 1) < number then guess + 1
  else guess

/-- The date with a number, when the calendar reaches it. -/
def ofNumber? (number : Int) : Option Date :=
  let year := yearOfNumber number
  ofOrdinal? year (number - daysBeforeYear year)

/-- The day of the week, from 0 for Monday to 6 for Sunday. -/
def weekday (d : Date) : Nat := ((d.number - 1) % 7).toNat

/-- The year of the week that the day lies in: the year of the Thursday of that week. -/
def weekYear (d : Date) : Int := yearOfNumber (d.number + 3 - d.weekday)

/-- The number of the week within the year of the week. -/
def week (d : Date) : Int := (d.number + 3 - d.weekday - daysBeforeYear d.weekYear - 1) / 7 + 1

/-- The number of the week within the year when weeks begin on `start`, the days before the first
such day being in week 0. -/
def weekFrom (start : Nat) (d : Date) : Int :=
  ((d.ordinal : Int) - ((d.weekday : Int) - start) % 7 + 6) / 7

/-- The quarter of the year. -/
def quarter (d : Date) : Nat := (d.month - 1) / 3 + 1

/-- The date of a weekday of a week of a year whose weeks are numbered from their Thursdays. -/
def ofWeek? (year week weekday : Int) : Option Date := do
  let monday := daysBeforeYear year + 4 - (daysBeforeYear year + 3) % 7
  let date ← ofNumber? (monday + 7 * (week - 1) + weekday)
  if date.weekYear = year ∧ 1 ≤ week then some date else none

/-- The order of days. -/
def cmp (a b : Date) : Ordering := compare a.number b.number

end Date

/-- Digits of a number, padded with zeros to a width. -/
def padded (width n : Nat) : String :=
  let digits := Nat.toDigits 10 n
  String.ofList (List.replicate (width - digits.length) '0' ++ digits)

/-- A year of four digits, or one with a sign and at least four digits. -/
def renderYear (year : Int) : String :=
  if 0 ≤ year ∧ year ≤ 9999 then padded 4 year.toNat
  else (if year < 0 then "-" else "+") ++ padded 4 year.natAbs

/-- A date as year, month and day. -/
def Date.render (d : Date) : String :=
  renderYear d.year ++ "-" ++ padded 2 d.month ++ "-" ++ padded 2 d.day

namespace Time

/-- A time of day in hours, minutes, seconds and nanoseconds. Only the last second of a minute runs
over. -/
def ofParts? (hour minute second nanoseconds : Nat) : Option Time :=
  if 24 ≤ hour ∨ 60 ≤ minute ∨ 60 ≤ second ∨ 2000000000 ≤ nanoseconds ∨
      (1000000000 ≤ nanoseconds ∧ second ≠ 59) then none
  else some ⟨3600 * hour + 60 * minute + second, nanoseconds⟩

/-- The full hours since midnight. -/
def hour (t : Time) : Nat := t.seconds / 3600

/-- The full minutes since the last hour. -/
def minute (t : Time) : Nat := t.seconds / 60 % 60

/-- The full seconds since the last minute. -/
def second (t : Time) : Nat := t.seconds % 60

/-- The digits after the point, as many as a multiple of three needs. -/
def renderFraction (nanoseconds : Nat) : String :=
  if nanoseconds = 0 then ""
  else if nanoseconds % 1000000 = 0 then "." ++ padded 3 (nanoseconds / 1000000)
  else if nanoseconds % 1000 = 0 then "." ++ padded 6 (nanoseconds / 1000)
  else "." ++ padded 9 nanoseconds

/-- Hours, minutes and seconds; the leap second is the sixtieth. -/
def render (t : Time) : String :=
  let extra := t.nanoseconds / 1000000000
  padded 2 t.hour ++ ":" ++ padded 2 t.minute ++ ":" ++ padded 2 (t.second + extra) ++
    renderFraction (t.nanoseconds % 1000000000)

/-- The order of times of day. -/
def cmp (a b : Time) : Ordering :=
  (compare a.seconds b.seconds).then (compare a.nanoseconds b.nanoseconds)

end Time

namespace DateTime

/-- A date and a time with a blank between. -/
def render (t : DateTime) : String := t.date.render ++ " " ++ t.time.render

/-- The order in time. -/
def cmp (a b : DateTime) : Ordering := (a.date.cmp b.date).then (a.time.cmp b.time)

/-- The seconds from the start of the year 1970. -/
def timestamp (t : DateTime) : Int := (t.date.number - 719163) * 86400 + t.time.seconds

/-- The moment so many seconds after the start of the year 1970. -/
def ofTimestamp? (seconds : Int) : Option DateTime := do
  let date ← Date.ofNumber? (seconds / 86400 + 719163)
  some ⟨date, (seconds % 86400).toNat, 0⟩

/-- The moment so many seconds later. A leap second stays one. -/
def addSeconds? (t : DateTime) (seconds : Int) : Option DateTime := do
  let later ← ofTimestamp? (t.timestamp + seconds)
  some { later with time.nanoseconds := t.time.nanoseconds }

end DateTime

end CatalogRecords.Calendar
