import CatalogRecords.Calendar.Reading
import CatalogRecords.Proofs.Calendar.Numbering
import CatalogRecords.Proofs.Number.DecimalText
import CatalogRecords.Proofs.Text.Cuts

/-!
# Moments of universal time and their texts

The text of a moment has its year, month and day, its hour, minute and second, a fraction unless
this is zero, and the letter Z. Reading it gathers these quantities and nothing else: numbers that
are padded to their width are read as far as that, a signed year and a fraction up to the next
character. The quantities stand for the date and the time of day that they were taken from, the
second that runs over among them, so each moment that the calendar has is read as it was written.
-/

namespace CatalogRecords.Calendar

open Number
open Text (takeWhile_append_of_head dropWhile_append_of_head)

/-! Digits. -/

/-- A padded number is written in digits. -/
theorem isDigit_of_mem_padded {width n : Nat} {c : Char} (hc : c ∈ (padded width n).toList) :
    c.isDigit = true := by
  rw [padded, String.toList_ofList] at hc
  rcases List.mem_append.mp hc with hc | hc
  · rw [List.eq_of_mem_replicate hc]
    rfl
  · exact Nat.isDigit_of_mem_toDigits (by decide) (by decide) hc

/-- Padding does not change the number, since zeros in front do not count. -/
theorem digitsValue_padded (width n : Nat) : digitsValue 0 (padded width n).toList = n := by
  rw [padded, String.toList_ofList, digitsValue_replicate_append]
  exact Nat.ofDigitChars_ten_toDigits

/-- A padded number has a digit at least. -/
theorem length_padded_pos (width n : Nat) : 0 < (padded width n).toList.length := by
  have := Nat.length_toDigits_pos (b := 10) (n := n)
  rw [padded, String.toList_ofList, List.length_append]
  omega

/-- A number that fits the width is padded to just that width. -/
theorem length_padded {width n : Nat} (hwidth : 0 < width) (h : n < 10 ^ width) :
    (padded width n).toList.length = width := by
  have := (Nat.length_toDigits_le_iff (b := 10) (by decide) hwidth).mpr h
  rw [padded, String.toList_ofList, List.length_append, List.length_replicate]
  omega

variable {digits rest : List Char} {n : Nat}

/-- Eighteen digits fit 64 bits. -/
theorem digitsValue_padded_lt {width places : Nat} (hplaces : places ≤ 18) (h : n < 10 ^ places) :
    digitsValue 0 (padded width n).toList < twoPow 63 := by
  rw [digitsValue_padded]
  exact Nat.lt_of_lt_of_le h
    (Nat.le_trans (Nat.pow_le_pow_right (by decide) hplaces) (by decide))

/-- Whether a text ends the digits in front of it, since it does not begin with one. -/
def EndsDigits (rest : List Char) : Prop := ∀ c ∈ rest.head?, c.isDigit = false

/-- A text that does not begin with a digit does not when it is cut short either. -/
theorem EndsDigits.take (h : EndsDigits rest) (k : Nat) : EndsDigits (rest.take k) := by
  intro c hc
  rw [List.head?_take] at hc
  split at hc
  · cases hc
  · exact h c hc

/-- Digits without a bound on their number are read up to the first other character. -/
theorem readDigits_none (hdigits : ∀ c ∈ digits, c.isDigit = true) (hpos : 0 < digits.length)
    (hvalue : digitsValue 0 digits < twoPow 63) (hrest : EndsDigits rest) :
    readDigits 1 none (digits ++ rest) = .ok (digitsValue 0 digits, rest) := by
  simp only [readDigits, takeWhile_append_of_head hdigits hrest]
  rw [if_neg (Nat.not_lt.mpr hpos), if_neg (Nat.not_le.mpr hvalue), List.drop_left]

/-- Digits are read up to the bound on their number, or up to the first other character. -/
theorem readDigits_some (hdigits : ∀ c ∈ digits, c.isDigit = true) (hpos : 0 < digits.length)
    (hvalue : digitsValue 0 digits < twoPow 63) (hlength : digits.length ≤ n)
    (hrest : digits.length = n ∨ EndsDigits rest) :
    readDigits 1 (some n) (digits ++ rest) = .ok (digitsValue 0 digits, rest) := by
  have htail : EndsDigits (rest.take (n - digits.length)) := by
    rcases hrest with rfl | hrest
    · rw [Nat.sub_self, List.take_zero]
      exact fun c hc => nomatch hc
    · exact hrest.take _
  simp only [readDigits, List.take_append, List.take_of_length_le hlength,
    takeWhile_append_of_head hdigits htail]
  rw [if_neg (Nat.not_lt.mpr hpos), if_neg (Nat.not_le.mpr hvalue), List.drop_left]

/-- A number that was padded to its width is read. -/
theorem readDigits_padded {width : Nat} (hwidth : 0 < width) (hsmall : width ≤ 18)
    (h : n < 10 ^ width) (rest : List Char) :
    readDigits 1 (some width) ((padded width n).toList ++ rest) = .ok (n, rest) := by
  have hlength := length_padded hwidth h
  rw [readDigits_some (fun c => isDigit_of_mem_padded) (length_padded_pos width n)
    (digitsValue_padded_lt hsmall h) (Nat.le_of_eq hlength) (.inl hlength), digitsValue_padded]

/-- A digit is neither a blank nor a sign. -/
theorem ne_of_isDigit {c : Char} (h : c.isDigit = true) :
    Text.isBlank c = false ∧ c ≠ '-' ∧ c ≠ '+' := by
  refine ⟨?_, ?_, ?_⟩
  · have hcode : 48 ≤ c.toNat ∧ c.toNat ≤ 57 := by
      simpa [Char.isDigit, UInt32.le_iff_toNat_le] using h
    simp only [Text.isBlank, Bool.or_eq_false_iff, Bool.and_eq_false_iff, beq_eq_false_iff_ne,
      decide_eq_false_iff_not]
    omega
  · rintro rfl
    cases h
  · rintro rfl
    cases h

/-- A number that was padded is read as its digits, since it begins with none but a digit. -/
theorem readNumeric_padded (part : NumericPart) {width : Nat}
    (hread : readDigits 1 part.width.1 ((padded width n).toList ++ rest) = .ok (n, rest)) :
    readNumeric part ((padded width n).toList ++ rest) = .ok ((n : Int), rest) := by
  obtain ⟨d, ds, hpadded⟩ := List.exists_cons_of_length_pos (length_padded_pos width n)
  have hdigit : d.isDigit = true := isDigit_of_mem_padded (hpadded ▸ List.mem_cons_self)
  obtain ⟨hblank, hminus, hplus⟩ := ne_of_isDigit hdigit
  rw [hpadded, List.cons_append] at hread ⊢
  rw [readNumeric, List.dropWhile_cons_of_neg (Bool.eq_false_iff.mp hblank)]
  dsimp only
  split
  · next hcs => exact absurd (List.cons.inj hcs).1 hminus
  · next hcs => exact absurd (List.cons.inj hcs).1 hplus
  · rw [hread]
    rfl

/-- A minus in front of a year makes it negative. -/
theorem readNumeric_minus {value : Nat} {after : List Char}
    (hread : readDigits 1 none rest = .ok (value, after)) :
    readNumeric (.component .year) ('-' :: rest) = .ok (-(value : Int), after) := by
  have hskip : ('-' :: rest).dropWhile Text.isBlank = '-' :: rest := rfl
  rw [readNumeric, hskip]
  simp only [NumericPart.width, hread]
  rfl

/-- A plus in front of a year changes nothing. -/
theorem readNumeric_plus {value : Nat} {after : List Char}
    (hread : readDigits 1 none rest = .ok (value, after)) :
    readNumeric (.component .year) ('+' :: rest) = .ok ((value : Int), after) := by
  have hskip : ('+' :: rest).dropWhile Text.isBlank = '+' :: rest := rfl
  rw [readNumeric, hskip]
  simp only [NumericPart.width, hread]
  rfl

/-- A year is read, with a sign if it was written with one. -/
theorem readNumeric_renderYear {year : Int} (h : isReached year = true) (rest : List Char) :
    readNumeric (.component .year) ((renderYear year).toList ++ '-' :: rest) =
      .ok (year, '-' :: rest) := by
  rw [isReached, Bool.and_eq_true, decide_eq_true_eq, decide_eq_true_eq] at h
  by_cases hplain : 0 ≤ year ∧ year ≤ 9999
  · have hsmall : year.toNat < 10 ^ 4 := by omega
    have hdigits := readDigits_padded (by decide) (by decide) hsmall ('-' :: rest)
    rw [renderYear, if_pos hplain, readNumeric_padded (.component .year) hdigits,
      Int.toNat_of_nonneg hplain.1]
  · have hsmall : year.natAbs < 10 ^ 6 := by omega
    have hends : EndsDigits ('-' :: rest) := by
      intro c hc
      cases hc
      rfl
    have hread := readDigits_none (fun c => isDigit_of_mem_padded) (length_padded_pos 4 year.natAbs)
      (digitsValue_padded_lt (by decide) hsmall) hends
    rw [digitsValue_padded] at hread
    rw [renderYear, if_neg hplain, String.toList_append]
    split
    · have hyear : -(year.natAbs : Int) = year := by omega
      exact (readNumeric_minus hread).trans (by rw [hyear])
    · have hyear : (year.natAbs : Int) = year := by omega
      exact (readNumeric_plus hread).trans (by rw [hyear])

/-! Items. -/

variable {q q' : Quantities} {items : List FormatItem} {cs : List Char}

/-- Items are read one after the other, each from where the one before it stopped. -/
theorem readSimpleItems_cons {item : FormatItem}
    (hitem : readSimpleItem q item cs = .ok (q', rest)) :
    readSimpleItems q (item :: items) cs = readSimpleItems q' items rest := by
  simp only [readSimpleItems, List.foldlM_cons, hitem]
  rfl

/-- A number is read and put among the quantities. -/
theorem readSimpleItem_numeric {part : NumericPart} {value : Int}
    (hread : readNumeric part cs = .ok (value, rest)) (hput : q.putNumeric part value = .ok q') :
    readSimpleItem q (.numeric part) cs = .ok (q', rest) := by
  simp only [readSimpleItem, hread]
  exact congrArg (Except.map (fun q => (q, rest))) hput

/-- A quantity that is not known yet is added whatever its value. -/
theorem Quantities.put_of_get?_eq_none {c : Component} (hnew : q.get? c = none) (value : Int) :
    q.put c value = .ok ((c, value) :: q) := by
  rw [put, hnew]

/-- A component is recorded if it is within its bounds. -/
theorem Quantities.putComponent_of_holds {c : Component} {value : Int}
    (hbounds : (bounds c).holds value = true) (hnew : q.get? c = none) :
    q.putComponent c value = .ok ((c, value) :: q) := by
  rw [putComponent, putWithin, if_pos hbounds, put_of_get?_eq_none hnew]

/-- A range holds the numbers from its least to its greatest. -/
theorem holds_iff {range : IntegerRange} {value : Int} :
    range.holds value = true ↔ range.least ≤ value ∧ value ≤ range.greatest := by
  rw [IntegerRange.holds, Bool.and_eq_true, decide_eq_true_eq, decide_eq_true_eq]

/-- A character of the format is passed over where it stands in the text. -/
theorem readSimpleItem_char (c : Char) (rest : List Char) :
    readSimpleItem q (.char c) (c :: rest) = .ok (q, rest) := by
  rw [FormatItem.char, readSimpleItem, Text.dropStart?, if_pos rfl]
  rfl

/-- No blanks need be there. -/
theorem readSimpleItem_blanks {c : Char} (h : Text.isBlank c = false) :
    readSimpleItem q .blanks (c :: rest) = .ok (q, c :: rest) := by
  rw [readSimpleItem, List.dropWhile_cons_of_neg (Bool.eq_false_iff.mp h)]

/-- A year within reach of the calendar is read as it was written, with its sign if it has one. -/
theorem readSimpleItem_year {year : Int} (h : isReached year = true) (hnew : q.get? .year = none)
    (rest : List Char) :
    readSimpleItem q (.part .year) ((renderYear year).toList ++ '-' :: rest) =
      .ok ((.year, year) :: q, '-' :: rest) := by
  have hbounds : (Quantities.bounds .year).holds year = true := by
    rw [isReached, Bool.and_eq_true, decide_eq_true_eq, decide_eq_true_eq] at h
    have hleast : (Quantities.bounds .year).least ≤ -262143 := by decide
    have hgreatest : 262142 ≤ (Quantities.bounds .year).greatest := by decide
    exact holds_iff.mpr (by omega)
  exact readSimpleItem_numeric (readNumeric_renderYear h rest)
    (Quantities.putComponent_of_holds hbounds hnew)

/-- A component of two digits. -/
theorem readSimpleItem_padded {c : Component} (hwidth : (NumericPart.component c).width.1 = some 2)
    (h : n < 100) (hbounds : (Quantities.bounds c).holds n = true) (hnew : q.get? c = none)
    (rest : List Char) :
    readSimpleItem q (.part c) ((padded 2 n).toList ++ rest) = .ok ((c, (n : Int)) :: q, rest) := by
  have hsmall : n < 10 ^ 2 := h
  have hdigits := readDigits_padded (by decide) (by decide) hsmall rest
  rw [← hwidth] at hdigits
  exact readSimpleItem_numeric (readNumeric_padded (.component c) hdigits)
    (Quantities.putComponent_of_holds hbounds hnew)

/-- The hour is kept as the half of the day and the hour in it. -/
theorem readSimpleItem_hour (h : n < 24) (hhalf : q.get? .halfDay = none)
    (hhour : q.get? .hourInHalf = none) (rest : List Char) :
    readSimpleItem q (.numeric .hour) ((padded 2 n).toList ++ rest) =
      .ok ((.hourInHalf, (n : Int) % 12) :: (.halfDay, (n : Int) / 12) :: q, rest) := by
  have hsmall : n < 10 ^ 2 := by omega
  refine readSimpleItem_numeric
    (readNumeric_padded .hour (readDigits_padded (by decide) (by decide) hsmall rest)) ?_
  rw [Quantities.putNumeric, Quantities.putHour, if_pos (by omega),
    Quantities.put_of_get?_eq_none hhalf]
  exact Quantities.put_of_get?_eq_none (c := .hourInHalf) (by exact hhour) _

/-- Digits of a fraction are read as many places as they have. -/
theorem readFraction_padded {width : Nat} (hwidth : 0 < width) (hsmall : width ≤ 9)
    (h : n < 10 ^ width) (hrest : EndsDigits rest) :
    readFraction ((padded width n).toList ++ rest) =
      .ok ((n : Int) * tenPow (9 - width), rest) := by
  have hlength := length_padded hwidth h
  have hread : readDigits 1 (some 9) ((padded width n).toList ++ rest) = .ok (n, rest) := by
    rw [readDigits_some (fun c => isDigit_of_mem_padded) (length_padded_pos width n)
      (digitsValue_padded_lt (Nat.le_trans hsmall (by decide)) h) (by rwa [hlength])
      (.inr hrest), digitsValue_padded]
  have hdone : ([] ++ rest).dropWhile Char.isDigit = rest :=
    dropWhile_append_of_head (List.forall_mem_nil _) hrest
  have hcount : ((padded width n).toList ++ rest).length - rest.length = width := by
    rw [List.length_append, Nat.add_sub_cancel, hlength]
  rw [readFraction, hread]
  simp only [bind, Except.bind, hcount, List.nil_append] at hdone ⊢
  rw [hdone]

/-! Dates. -/

/-- The quantities of a date. -/
def Date.quantities (d : Date) : Quantities := [(.day, d.day), (.month, d.month), (.year, d.year)]

/-- The text of a date, part by part, with something behind it. -/
theorem toList_renderDate (d : Date) (rest : List Char) :
    d.render.toList ++ rest = (renderYear d.year).toList ++
      '-' :: ((padded 2 d.month).toList ++ '-' :: ((padded 2 d.day).toList ++ rest)) := by
  have hdash : "-".toList = ['-'] := rfl
  simp only [Date.render, String.toList_append, List.append_assoc, hdash, List.cons_append,
    List.nil_append]

/-- No month has more than 31 days. -/
theorem daysInMonth_le (year : Int) (month : Nat) : daysInMonth year month ≤ 31 := by
  unfold daysInMonth
  split
  · split <;> decide
  all_goals decide

/-- A date is read as its year, month and day. -/
theorem Date.IsValid.readSimpleItems {d : Date} (h : d.IsValid) (rest : List Char) :
    readSimpleItems [] momentDate (d.render.toList ++ rest) = .ok (d.quantities, rest) := by
  obtain ⟨hyear, hmonth, hmonth', hday, hday'⟩ := h
  have hlast := Nat.le_trans hday' (daysInMonth_le d.year d.month)
  rw [toList_renderDate, momentDate,
    readSimpleItems_cons (readSimpleItem_year hyear rfl _),
    readSimpleItems_cons (readSimpleItem_blanks rfl),
    readSimpleItems_cons (readSimpleItem_char '-' _),
    readSimpleItems_cons (readSimpleItem_padded rfl (by omega) (holds_iff.mpr ?_) rfl _),
    readSimpleItems_cons (readSimpleItem_blanks rfl),
    readSimpleItems_cons (readSimpleItem_char '-' _),
    readSimpleItems_cons (readSimpleItem_padded rfl (by omega) (holds_iff.mpr ?_) rfl _)]
  · rfl
  · simp only [Quantities.bounds]
    omega
  · simp only [Quantities.bounds]
    omega

/-! Times of day. -/

namespace Time

/-- The times of day that there are: only the last second of a minute runs over. -/
def IsValid (t : Time) : Prop :=
  t.seconds < 86400 ∧ t.nanoseconds < 2000000000 ∧
    (1000000000 ≤ t.nanoseconds → t.seconds % 60 = 59)

/-- Whether a time of day is valid can be decided, since its parts are compared with numbers. -/
instance (t : Time) : Decidable t.IsValid := inferInstanceAs (Decidable (_ ∧ _))

/-- The second as it is written: the leap second is the sixtieth. -/
def writtenSecond (t : Time) : Nat := t.second + t.nanoseconds / 1000000000

/-- A second that runs over is the last of its minute. -/
theorem IsValid.second_eq {t : Time} (h : t.IsValid) :
    t.second < 60 ∧ t.nanoseconds < 2000000000 ∧ (1000000000 ≤ t.nanoseconds → t.second = 59) := by
  obtain ⟨-, hnanoseconds, hleap⟩ := h
  rw [second]
  omega

/-- A time of day is the one that its parts make. -/
theorem IsValid.ofParts? {t : Time} (h : t.IsValid) :
    Time.ofParts? t.hour t.minute t.second t.nanoseconds = some t := by
  obtain ⟨hseconds, hnanoseconds, hleap⟩ := h
  have hwhole : 3600 * t.hour + 60 * t.minute + t.second = t.seconds := by
    rw [hour, minute, second]
    omega
  rw [Time.ofParts?, if_neg, hwhole]
  rw [hour, minute, second]
  omega

/-- The text of a time of day, part by part, with something behind it. -/
theorem toList_render (t : Time) (rest : List Char) :
    t.render.toList ++ rest = (padded 2 t.hour).toList ++ ':' :: ((padded 2 t.minute).toList ++
      ':' :: ((padded 2 t.writtenSecond).toList ++
        ((renderFraction (t.nanoseconds % 1000000000)).toList ++ rest))) := by
  have hcolon : ":".toList = [':'] := rfl
  simp only [render, String.toList_append, List.append_assoc, hcolon, List.cons_append,
    List.nil_append, writtenSecond]

end Time

namespace Quantities

/-- The quantities with that of a fraction, unless this is zero. -/
def withFraction (q : Quantities) (nanoseconds : Nat) : Quantities :=
  if nanoseconds = 0 then q else (.nanosecond, nanoseconds) :: q

/-- A fraction of a second is none of the other quantities. -/
theorem get?_withFraction (q : Quantities) (nanoseconds : Nat) {c : Component}
    (h : c ≠ .nanosecond) : (q.withFraction nanoseconds).get? c = q.get? c := by
  rw [withFraction]
  split
  · rfl
  · rw [get?, List.lookup_cons, beq_eq_false_iff_ne.mpr h]
    rfl

/-- The quantities with those of a time of day. -/
def withTime (q : Quantities) (t : Time) : Quantities :=
  withFraction ((.second, t.writtenSecond) :: (.minute, t.minute) ::
    (.hourInHalf, (t.hour : Int) % 12) :: (.halfDay, (t.hour : Int) / 12) :: q)
    (t.nanoseconds % 1000000000)

end Quantities

/-- A fraction is read after a point. -/
theorem readSimpleItem_point {value : Int} {after : List Char}
    (hread : readFraction rest = .ok (value, after)) (hnew : q.get? .nanosecond = none) :
    readSimpleItem q .fraction ('.' :: rest) = .ok ((.nanosecond, value) :: q, after) := by
  simp only [readSimpleItem, hread, bind, Except.bind, Quantities.put_of_get?_eq_none hnew]

/-- Without a point there is no fraction, and nothing is read. -/
theorem readSimpleItem_noPoint {c : Char} (h : c ≠ '.') :
    readSimpleItem q .fraction (c :: rest) = .ok (q, c :: rest) := by
  rw [readSimpleItem]
  exact fun _ hcs => h (List.cons.inj hcs).1

/-- A fraction is read with its places, whichever of its zeros were written. -/
theorem readSimpleItem_fraction {nanoseconds : Nat} (h : nanoseconds < 1000000000)
    (hnew : q.get? .nanosecond = none) {c : Char} (hc : c.isDigit = false) (hpoint : c ≠ '.')
    (rest : List Char) :
    readSimpleItem q .fraction ((Time.renderFraction nanoseconds).toList ++ c :: rest) =
      .ok (q.withFraction nanoseconds, c :: rest) := by
  have hrest : EndsDigits (c :: rest) := by
    intro d hd
    cases hd
    exact hc
  have hread : ∀ {width k : Nat}, 0 < width → width ≤ 9 → k < 10 ^ width →
      k * tenPow (9 - width) = nanoseconds → nanoseconds ≠ 0 →
      readSimpleItem q .fraction (("." ++ padded width k).toList ++ c :: rest) =
        .ok (q.withFraction nanoseconds, c :: rest) := by
    intro width k hwidth hsmall hk hvalue hne
    have hfraction := readFraction_padded hwidth hsmall hk hrest
    rw [← Int.natCast_mul, hvalue] at hfraction
    rw [Quantities.withFraction, if_neg hne, String.toList_append]
    exact readSimpleItem_point hfraction hnew
  rw [Time.renderFraction]
  split_ifs with hzero hmilli hmicro
  · rw [Quantities.withFraction, if_pos hzero]
    exact readSimpleItem_noPoint hpoint
  · exact hread (by decide) (by decide) (by omega) (by show _ * 1000000 = _; omega) hzero
  · exact hread (by decide) (by decide) (by omega) (by show _ * 1000 = _; omega) hzero
  · exact hread (by decide) (by decide) h (by show _ * 1 = _; omega) hzero

/-- A time of day is read as its hour, minute, second and fraction. -/
theorem Time.IsValid.readSimpleItems {t : Time} (h : t.IsValid) (d : Date) (rest : List Char) :
    readSimpleItems d.quantities momentTime (t.render.toList ++ 'Z' :: rest) =
      .ok (d.quantities.withTime t, 'Z' :: rest) := by
  obtain ⟨hseconds, hnanoseconds, hleap⟩ := h
  have hhour : t.hour < 24 := by
    rw [Time.hour]
    omega
  have hminute : t.minute < 60 := by
    rw [Time.minute]
    omega
  have hsecond : t.writtenSecond ≤ 60 := by
    rw [Time.writtenSecond, Time.second]
    omega
  rw [Time.toList_render, momentTime,
    readSimpleItems_cons (readSimpleItem_hour hhour rfl rfl _),
    readSimpleItems_cons (readSimpleItem_blanks rfl),
    readSimpleItems_cons (readSimpleItem_char ':' _),
    readSimpleItems_cons (readSimpleItem_padded rfl (by omega) (holds_iff.mpr ?_) rfl _),
    readSimpleItems_cons (readSimpleItem_blanks rfl),
    readSimpleItems_cons (readSimpleItem_char ':' _),
    readSimpleItems_cons (readSimpleItem_padded rfl (by omega) (holds_iff.mpr ?_) rfl _),
    readSimpleItems_cons (readSimpleItem_fraction (by omega) rfl rfl (by decide) _),
    readSimpleItems_cons (readSimpleItem_blanks rfl)]
  · rfl
  · simp only [Quantities.bounds]
    omega
  · simp only [Quantities.bounds]
    omega

/-! Moments. -/

namespace DateTime

/-- The moments that there are. -/
def IsValid (t : DateTime) : Prop := t.date.IsValid ∧ t.time.IsValid

/-- Whether a moment is valid can be decided from its date and its time of day. -/
instance (t : DateTime) : Decidable t.IsValid := inferInstanceAs (Decidable (_ ∧ _))

/-- The quantities of a moment of universal time. -/
def quantities (t : DateTime) : Quantities := (.offset, 0) :: t.date.quantities.withTime t.time

/-- The text of a moment is that of its date and that of its time of day, with a T between them and
a Z behind. -/
theorem toList_renderUniversal (t : DateTime) :
    t.renderUniversal.toList = t.date.render.toList ++ 'T' :: (t.time.render.toList ++ ['Z']) := by
  have hletter : "T".toList = ['T'] := rfl
  have hzone : "Z".toList = ['Z'] := rfl
  rw [renderUniversal, String.toList_append, String.toList_append, String.toList_append, hletter,
    hzone, List.append_assoc, List.append_assoc, List.singleton_append]

variable {t : DateTime}

/-- A moment is read as its quantities. -/
theorem IsValid.readMoment (h : t.IsValid) :
    readMoment [] t.renderUniversal.toList = .ok (t.quantities, []) := by
  have hoffset : (t.date.quantities.withTime t.time).get? .offset = none := by
    rw [Quantities.withTime, Quantities.withFraction]
    split <;> rfl
  have hblank : ['Z'].dropWhile Text.isBlank = ['Z'] := rfl
  have hname : dropName? "utc".toList ['Z'] = none := rfl
  have hzone : readOffset true false ['Z'] = .ok (0, []) := rfl
  rw [Calendar.readMoment, toList_renderUniversal, h.1.readSimpleItems]
  simp only [bind, Except.bind, true_or, if_true, h.2.readSimpleItems, hblank, hname, hzone,
    Quantities.put_of_get?_eq_none hoffset]
  rfl

/-- The components that a moment has. -/
def momentComponents : List Component :=
  [.offset, .nanosecond, .second, .minute, .hourInHalf, .halfDay, .day, .month, .year]

/-- A moment has no other quantities. -/
theorem get?_quantities_eq_none (t : DateTime) {c : Component} (h : c ∉ momentComponents) :
    t.quantities.get? c = none := by
  refine List.lookup_eq_none_iff.mpr fun entry hentry => bne_iff_ne.mpr fun heq => h ?_
  have hkeys : t.quantities.map Prod.fst ⊆ momentComponents := by
    rw [quantities, Quantities.withTime, Quantities.withFraction, Date.quantities]
    split
    · exact List.cons_subset_cons _ (List.subset_cons_self _ _)
    · exact List.Subset.refl _
  exact heq ▸ hkeys (List.mem_map_of_mem hentry)

/-- The quantities of a moment agree with any value of a component that they do not have. -/
theorem agrees_quantities (t : DateTime) {c : Component} (h : c ∉ momentComponents) (value : Int) :
    t.quantities.agrees c value = true := by
  rw [Quantities.agrees, get?_quantities_eq_none t h]

/-- The quantities of a moment stand for its date. -/
theorem IsValid.toDate (h : t.IsValid) : t.quantities.toDate = .ok t.date := by
  have hyear : t.quantities.get? .year = some t.date.year :=
    Quantities.get?_withFraction _ _ (by decide)
  have hmonth : t.quantities.get? .month = some (t.date.month : Int) :=
    Quantities.get?_withFraction _ _ (by decide)
  have hday : t.quantities.get? .day = some (t.date.day : Int) :=
    Quantities.get?_withFraction _ _ (by decide)
  have hweek : t.quantities.agreesWeek t.date = true := by
    simp (disch := decide) [Quantities.agreesWeek, Quantities.agreesYear, agrees_quantities,
      get?_quantities_eq_none]
  have hordinal : t.quantities.agreesOrdinal t.date = true := by
    simp (disch := decide) [Quantities.agreesOrdinal, agrees_quantities]
  rw [Quantities.toDate]
  simp (disch := decide) only [hyear, hmonth, hday, get?_quantities_eq_none,
    Quantities.resolveYear, bind, Except.bind, h.1.ofParts?, Quantities.orOutOfRange, hweek,
    hordinal, agrees_quantities]
  rfl

/-- The quantities of a moment stand for its time of day. -/
theorem IsValid.toTime (h : t.IsValid) : t.quantities.toTime = .ok t.time := by
  have hhalf : t.quantities.get? .halfDay = some ((t.time.hour : Int) / 12) :=
    Quantities.get?_withFraction _ _ (by decide)
  have hhour : t.quantities.get? .hourInHalf = some ((t.time.hour : Int) % 12) :=
    Quantities.get?_withFraction _ _ (by decide)
  have hminute : t.quantities.get? .minute = some (t.time.minute : Int) :=
    Quantities.get?_withFraction _ _ (by decide)
  have hsecond : t.quantities.get? .second = some (t.time.writtenSecond : Int) :=
    Quantities.get?_withFraction _ _ (by decide)
  have hfraction : t.quantities.get? .nanosecond = if t.time.nanoseconds % 1000000000 = 0
      then none else some ((t.time.nanoseconds % 1000000000 : Nat) : Int) := by
    rw [quantities, Quantities.withTime, Quantities.withFraction]
    split <;> rfl
  have hhours : ((t.time.hour : Int) / 12 * 12 + (t.time.hour : Int) % 12).toNat = t.time.hour := by
    omega
  have hparts : ∀ {second nanoseconds : Nat}, second = t.time.second →
      nanoseconds = t.time.nanoseconds →
      Quantities.orOutOfRange (Time.ofParts? t.time.hour t.time.minute second nanoseconds) =
        .ok t.time := by
    rintro _ _ rfl rfl
    rw [h.2.ofParts?]
    rfl
  -- a second is written as the sixtieth exactly if it runs over
  have hwritten : t.time.writtenSecond = t.time.second + t.time.nanoseconds / 1000000000 := rfl
  have hover := h.2.second_eq
  rw [Quantities.toTime]
  simp only [hhalf, hhour, hminute, hsecond, hfraction, hhours, Int.toNat_natCast, bind,
    Except.bind]
  split_ifs with hsixty hzero hzero
  all_goals exact hparts (by omega) (by omega)

/-- A moment is found by its seconds since 1970. -/
theorem IsValid.addSeconds?_zero (h : t.IsValid) : t.addSeconds? 0 = some t := by
  obtain ⟨hdate, hseconds, -, -⟩ := h
  have hday : (t.timestamp + 0) / 86400 + 719163 = t.date.number := by
    rw [timestamp]
    omega
  have htime : ((t.timestamp + 0) % 86400).toNat = t.time.seconds := by
    rw [timestamp]
    omega
  rw [addSeconds?, ofTimestamp?, hday, htime, hdate.ofNumber?_number]
  rfl

/-- A moment of universal time is read as it was written. -/
theorem IsValid.readUniversal?_renderUniversal (h : t.IsValid) :
    readUniversal? t.renderUniversal = some t := by
  have hoffset : t.quantities.get? .offset = some 0 := rfl
  have htimestamp : t.quantities.get? .timestamp = none := get?_quantities_eq_none t (by decide)
  have hmoment : t.quantities.toDateTime 0 = .ok t := by
    rw [Quantities.toDateTime, h.toDate, h.toTime, htimestamp]
  simp only [readUniversal?, h.readMoment, Except.toOption, hoffset, hmoment, bind, Option.bind]
  exact h.addSeconds?_zero

end DateTime

end CatalogRecords.Calendar
