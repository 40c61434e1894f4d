import CatalogRecords.Number.Decimal
import Mathlib.Algebra.Order.Field.Rat
import Mathlib.Tactic.FieldSimp
import Mathlib.Tactic.Positivity
import Mathlib.Tactic.Ring

/-!
# Decimals and their texts

The text of a decimal is a numeral: a sign or none, digits, and a point with further digits or none.
A numeral stands for a number by the places of its digits. What is read are exactly the numerals
whose digits, taken as one integer, fit a mantissa, and what is read is the number that the numeral
stands for, with its places, as long as these can be counted in 32 bits. Writing pads with zeros
where the digits are too few, which leaves the integer as it is, so that a decimal that was written
is read again digit by digit.
-/

namespace CatalogRecords.Number

/-! Digits. -/

/-- The value of digits goes on from the value of those before. -/
theorem digitsValue_append (value : Nat) (ds es : List Char) :
    digitsValue value (ds ++ es) = digitsValue (digitsValue value ds) es :=
  List.foldl_append

/-- Zeros in front do not count. -/
theorem digitsValue_replicate_append (count : Nat) (ds : List Char) :
    digitsValue 0 (List.replicate count '0' ++ ds) = digitsValue 0 ds := by
  have hzeros : digitsValue 0 (List.replicate count '0') = 0 :=
    Nat.ofDigitChars_replicate_zero.trans (Nat.mul_zero _)
  rw [digitsValue_append, hzeros]

/-- The number that digits after a point stand for. -/
def fractionValue : List Char → ℚ
  | [] => 0
  | c :: cs => ((c.toNat - '0'.toNat : Nat) + fractionValue cs) / 10

/-- The integer that digits make up is the number with a point before the last of them, moved up by
as many places. -/
theorem digitsValue_eq_mul (value : Nat) (ds : List Char) :
    (digitsValue value ds : ℚ) = (value + fractionValue ds) * 10 ^ ds.length := by
  induction ds generalizing value with
  | nil => simp [digitsValue, fractionValue]
  | cons c cs ih =>
    have hstep : digitsValue value (c :: cs) =
        digitsValue (10 * value + (c.toNat - '0'.toNat)) cs := rfl
    rw [hstep, ih, fractionValue, List.length_cons, pow_succ]
    push_cast
    field_simp
    ring

/-! Numerals. -/

/-- The sign in front of a numeral. -/
inductive Sign where
  | plus
  | minus
  deriving DecidableEq, Repr

/-- A sign as it is written. -/
def Sign.char : Sign → Char
  | plus => '+'
  | minus => '-'

/-- A decimal numeral: a sign or none, the digits before the point, and those after it if there is a
point. Digits may be missing on one side of the point, but not on both. -/
structure DecimalNumeral where
  sign : Option Sign
  whole : List Char
  fraction : Option (List Char)
  isDigit : ∀ c ∈ whole ++ fraction.getD [], c.isDigit = true
  digits_ne_nil : whole ++ fraction.getD [] ≠ []

namespace DecimalNumeral

variable (n : DecimalNumeral)

/-- The digits after the point. -/
def places : List Char := n.fraction.getD []

/-- All digits, without the point. -/
def digits : List Char := n.whole ++ n.places

/-- The numeral without its sign. -/
def unsigned : List Char := n.whole ++ n.fraction.elim [] ('.' :: ·)

/-- The numeral as it is written. -/
def chars : List Char := n.sign.elim [] (fun sign => [sign.char]) ++ n.unsigned

/-- The number that the numeral stands for. -/
def value : ℚ :=
  let magnitude := digitsValue 0 n.whole + fractionValue n.places
  if n.sign = some .minus then -magnitude else magnitude

/-- The decimal with the digits and places of the numeral, the places counted in 32 bits. -/
def toDecimal : Decimal where
  mantissa :=
    if n.sign = some .minus then -(digitsValue 0 n.digits : Int) else digitsValue 0 n.digits
  scale := n.places.length % twoPow 32

/-- A number of places below `2 ^ 32` is the scale. -/
theorem scale_toDecimal {n : DecimalNumeral} (h : n.places.length < 2 ^ 32) :
    n.toDecimal.scale = n.places.length :=
  Nat.mod_eq_of_lt h

/-- The scale is a number of 32 bits. -/
theorem scale_toDecimal_lt : n.toDecimal.scale < 2 ^ 32 := Nat.mod_lt _ (Nat.two_pow_pos 32)

end DecimalNumeral

/-- The number that a decimal is. -/
def Decimal.value (d : Decimal) : ℚ := d.mantissa / 10 ^ d.scale

/-- The decimal of a numeral is the number that the numeral stands for. -/
theorem DecimalNumeral.value_toDecimal {n : DecimalNumeral} (h : n.places.length < 2 ^ 32) :
    n.toDecimal.value = n.value := by
  have hdigits : (digitsValue 0 n.digits : ℚ) =
      (digitsValue 0 n.whole + fractionValue n.places) * 10 ^ n.places.length := by
    rw [digits, digitsValue_append, digitsValue_eq_mul]
  have hpow : (10 : ℚ) ^ n.places.length ≠ 0 := by positivity
  rw [Decimal.value, scale_toDecimal h, toDecimal, value, div_eq_iff hpow]
  by_cases hsign : n.sign = some .minus
  · rw [if_pos hsign, if_pos hsign, Int.cast_neg, Int.cast_natCast, hdigits, neg_mul]
  · rw [if_neg hsign, if_neg hsign, Int.cast_natCast, hdigits]

/-! Taking a text apart. -/

/-- Whether a minus stands in front of a text, and the text without a sign. -/
def takeSign : List Char → Bool × List Char
  | '-' :: rest => (true, rest)
  | '+' :: rest => (false, rest)
  | rest => (false, rest)

/-- What stands before the first point of a text and what after it. -/
def splitPoint (cs : List Char) : List Char × List Char :=
  match Text.cutAt? (· == '.') cs with
  | some (whole, _, fraction) => (whole, fraction)
  | none => (cs, [])

/-- A text that begins with neither sign is not negative, and nothing is taken from it. -/
theorem takeSign_of_ne {c : Char} (hminus : c ≠ '-') (hplus : c ≠ '+') (cs : List Char) :
    takeSign (c :: cs) = (false, c :: cs) := by
  unfold takeSign
  split
  · next heq => exact absurd (List.head_eq_of_cons_eq heq) hminus
  · next heq => exact absurd (List.head_eq_of_cons_eq heq) hplus
  · rfl

/-- What was taken off is the sign of the text. -/
theorem exists_sign_of_takeSign {cs unsigned : List Char} {negative : Bool}
    (h : takeSign cs = (negative, unsigned)) :
    ∃ sign : Option Sign, cs = sign.elim [] (fun sign => [sign.char]) ++ unsigned ∧
      (negative = true ↔ sign = some .minus) := by
  unfold takeSign at h
  split at h
  · cases h
    exact ⟨some .minus, rfl, by decide⟩
  · cases h
    exact ⟨some .plus, rfl, by decide⟩
  · cases h
    exact ⟨none, rfl, by decide⟩

/-- The two parts of a text have a point between them, or there is none. -/
theorem exists_fraction_of_splitPoint {cs whole places : List Char}
    (h : splitPoint cs = (whole, places)) :
    ∃ fraction : Option (List Char), cs = whole ++ fraction.elim [] ('.' :: ·) ∧
      places = fraction.getD [] := by
  unfold splitPoint at h
  split at h
  · next found _ hcut =>
    cases h
    have hfound : found = '.' := beq_iff_eq.mp (Text.cutAt?_before hcut).2
    exact ⟨some places, hfound ▸ Text.eq_of_cutAt? hcut, rfl⟩
  · cases h
    exact ⟨none, (List.append_nil cs).symm, rfl⟩

/-- What is read depends on the sign, the digits and the point. -/
theorem Decimal.read?_of_split {cs unsigned whole places : List Char} {negative : Bool}
    (hsign : takeSign cs = (negative, unsigned)) (hpoint : splitPoint unsigned = (whole, places)) :
    read? cs =
      if (whole ++ places).isEmpty || !(whole ++ places).all Char.isDigit then none
      else if digitsValue 0 (whole ++ places) ≤ greatest then
        some ⟨if negative then -(digitsValue 0 (whole ++ places) : Int)
          else digitsValue 0 (whole ++ places), places.length % twoPow 32⟩
      else none := by
  have hread : read? cs =
      let whole := (splitPoint (takeSign cs).2).1
      let places := (splitPoint (takeSign cs).2).2
      if (whole ++ places).isEmpty || !(whole ++ places).all Char.isDigit then none
      else if digitsValue 0 (whole ++ places) ≤ greatest then
        some ⟨if (takeSign cs).1 then -(digitsValue 0 (whole ++ places) : Int)
          else digitsValue 0 (whole ++ places), places.length % twoPow 32⟩
      else none := rfl
  rw [hread, hsign]
  dsimp only
  rw [hpoint]

namespace DecimalNumeral

variable (n : DecimalNumeral)

/-- Before the point of a numeral there are digits. -/
theorem isDigit_of_mem_whole {c : Char} (hc : c ∈ n.whole) : c.isDigit = true :=
  n.isDigit c (List.mem_append_left _ hc)

/-- A numeral is taken apart at its point. -/
theorem splitPoint_unsigned : splitPoint n.unsigned = (n.whole, n.places) := by
  have hwhole : ∀ c ∈ n.whole, (c == '.') = false := by
    intro c hc
    rw [beq_eq_false_iff_ne]
    rintro rfl
    exact absurd (n.isDigit_of_mem_whole hc) (by decide)
  rw [splitPoint, unsigned, places]
  cases n.fraction with
  | none =>
    rw [Option.elim_none, List.append_nil, Text.cutAt?_eq_none hwhole]
    rfl
  | some fraction =>
    rw [Option.elim_some, Text.cutAt?_append hwhole (beq_self_eq_true '.')]
    rfl

/-- Neither a digit nor the point is a sign, so that no more than the sign is taken off. -/
theorem takeSign_chars :
    takeSign n.chars = (decide (n.sign = some .minus), n.unsigned) := by
  have hunsigned : takeSign n.unsigned = (false, n.unsigned) := by
    cases hwhole : n.whole with
    | nil =>
      cases hfraction : n.fraction with
      | none => exact absurd (by rw [hwhole, hfraction]; rfl) n.digits_ne_nil
      | some fraction =>
        rw [unsigned, hwhole, hfraction]
        rfl
    | cons c cs =>
      have hc : c.isDigit = true := n.isDigit_of_mem_whole (hwhole ▸ List.mem_cons_self)
      rw [unsigned, hwhole, List.cons_append]
      apply takeSign_of_ne
      · rintro rfl
        exact absurd hc (by decide)
      · rintro rfl
        exact absurd hc (by decide)
  rw [chars]
  cases hsign : n.sign with
  | none => exact hunsigned
  | some sign => cases sign <;> rfl

/-- A numeral is read as the decimal with its digits and places, if that has a mantissa. -/
theorem read?_chars : Decimal.read? n.chars =
    if digitsValue 0 n.digits ≤ Decimal.greatest then some n.toDecimal else none := by
  have hempty : n.digits.isEmpty = false := List.isEmpty_eq_false_iff.mpr n.digits_ne_nil
  have hall : n.digits.all Char.isDigit = true := List.all_eq_true.mpr n.isDigit
  rw [Decimal.read?_of_split n.takeSign_chars n.splitPoint_unsigned, ← digits, hempty, hall,
    toDecimal]
  simp only [decide_eq_true_eq]
  rfl

end DecimalNumeral

namespace Decimal

/-- What is read are the numerals whose digits fit a mantissa, each as the decimal with its digits
and places. -/
theorem read?_eq_some_iff {cs : List Char} {d : Decimal} :
    read? cs = some d ↔
      ∃ n : DecimalNumeral, n.chars = cs ∧ digitsValue 0 n.digits ≤ greatest ∧ n.toDecimal = d := by
  constructor
  · intro h
    rcases hsign : takeSign cs with ⟨negative, unsigned⟩
    rcases hpoint : splitPoint unsigned with ⟨whole, places⟩
    obtain ⟨sign, rfl, hnegative⟩ := exists_sign_of_takeSign hsign
    obtain ⟨fraction, rfl, rfl⟩ := exists_fraction_of_splitPoint hpoint
    rw [read?_of_split hsign hpoint, Option.ite_none_left_eq_some, Option.ite_none_right_eq_some,
      Bool.not_eq_true, Bool.or_eq_false_iff, List.isEmpty_eq_false_iff, Bool.not_eq_false',
      List.all_eq_true] at h
    obtain ⟨⟨hne, hdigit⟩, hgreatest, h⟩ := h
    cases h
    refine ⟨⟨sign, whole, fraction, hdigit, hne⟩, rfl, hgreatest, ?_⟩
    simp only [DecimalNumeral.toDecimal, DecimalNumeral.digits, DecimalNumeral.places, hnegative]
  · rintro ⟨n, rfl, hgreatest, rfl⟩
    rw [n.read?_chars, if_pos hgreatest]

/-! Writing. -/

/-- The digits of a decimal, with zeros in front if there are not more of them than places. -/
def paddedDigits (d : Decimal) : List Char :=
  let digits := Nat.toDigits 10 d.mantissa.natAbs
  List.replicate (d.scale + 1 - digits.length) '0' ++ digits

/-- A decimal is written with more digits than it has places, so that one stands before the
point. -/
theorem scale_lt_length_paddedDigits (d : Decimal) : d.scale < d.paddedDigits.length := by
  rw [paddedDigits, List.length_append, List.length_replicate]
  omega

/-- A decimal is written with digits, also where zeros are put before them. -/
theorem isDigit_of_mem_paddedDigits {d : Decimal} {c : Char} (hc : c ∈ d.paddedDigits) :
    c.isDigit = true := by
  rcases List.mem_append.mp hc with hc | hc
  · rw [List.eq_of_mem_replicate hc]
    rfl
  · exact Nat.isDigit_of_mem_toDigits (by decide) (by decide) hc

/-- The zeros put before the digits do not change their value. -/
theorem digitsValue_paddedDigits (d : Decimal) :
    digitsValue 0 d.paddedDigits = d.mantissa.natAbs := by
  rw [paddedDigits, digitsValue_replicate_append]
  exact Nat.ofDigitChars_ten_toDigits

/-- The digits of a decimal that come before the point. -/
def wholeDigits (d : Decimal) : List Char := d.paddedDigits.take (d.paddedDigits.length - d.scale)

/-- The digits of a decimal that come after the point. -/
def placeDigits (d : Decimal) : List Char := d.paddedDigits.drop (d.paddedDigits.length - d.scale)

/-- After the point stand as many digits as the decimal has places. -/
theorem length_placeDigits (d : Decimal) : d.placeDigits.length = d.scale := by
  have hlength := d.scale_lt_length_paddedDigits
  rw [placeDigits, List.length_drop]
  omega

/-- The point of a decimal, if it is written, and the digits after it. -/
def pointDigits (d : Decimal) : Option (List Char) :=
  if d.scale = 0 then none else some d.placeDigits

/-- No point is written exactly where no digit would follow it. -/
theorem getD_pointDigits (d : Decimal) : d.pointDigits.getD [] = d.placeDigits := by
  rw [pointDigits]
  split
  · next hscale =>
    rw [Option.getD_none, eq_comm, ← List.length_eq_zero_iff, length_placeDigits, hscale]
  · rfl

/-- The digits before and after the point are all the digits. -/
theorem wholeDigits_append_getD (d : Decimal) :
    d.wholeDigits ++ d.pointDigits.getD [] = d.paddedDigits := by
  rw [getD_pointDigits]
  exact List.take_append_drop _ _

/-- The numeral as which a decimal is written. -/
def numeral (d : Decimal) : DecimalNumeral where
  sign := if d.mantissa < 0 then some .minus else none
  whole := d.wholeDigits
  fraction := d.pointDigits
  isDigit c hc := by
    rw [wholeDigits_append_getD] at hc
    exact isDigit_of_mem_paddedDigits hc
  digits_ne_nil := by
    rw [wholeDigits_append_getD]
    exact List.ne_nil_of_length_pos (Nat.zero_lt_of_lt d.scale_lt_length_paddedDigits)

/-- The digits of the numeral a decimal is written as are its own. -/
theorem digits_numeral (d : Decimal) : d.numeral.digits = d.paddedDigits :=
  d.wholeDigits_append_getD

/-- A decimal is written as its numeral. -/
theorem toList_render (d : Decimal) : d.render.toList = d.numeral.chars := by
  have hsign : d.numeral.sign.elim [] (fun sign => [sign.char]) =
      if d.mantissa < 0 then ['-'] else [] := by
    rw [numeral]
    split <;> rfl
  have hwritten : d.numeral.chars = (if d.mantissa < 0 then ['-'] else []) ++
      (d.wholeDigits ++ d.pointDigits.elim [] ('.' :: ·)) := by
    rw [DecimalNumeral.chars, hsign]
    rfl
  rw [hwritten, render, pointDigits]
  by_cases hscale : d.scale = 0
  · -- There are more digits than places already, so that there is nothing to pad.
    have hpos : 0 < (Nat.toDigits 10 d.mantissa.natAbs).length := Nat.length_toDigits_pos
    have hwhole : d.wholeDigits = Nat.toDigits 10 d.mantissa.natAbs := by
      rw [wholeDigits, hscale, Nat.sub_zero, List.take_length, paddedDigits, hscale,
        Nat.sub_eq_zero_of_le hpos, List.replicate_zero, List.nil_append]
    rw [if_pos hscale, if_pos hscale, String.toList_ofList, hwhole, Option.elim_none,
      List.append_nil]
  · rw [if_neg hscale, if_neg hscale, String.toList_ofList, Option.elim_some, List.append_assoc]
    rfl

/-- The numeral of a decimal has as many places as its scale says. -/
theorem length_places_numeral (d : Decimal) : d.numeral.places.length = d.scale := by
  rw [DecimalNumeral.places, numeral, getD_pointDigits, length_placeDigits]

/-- The numeral of a decimal gives the decimal back. -/
theorem toDecimal_numeral {d : Decimal} (h : d.scale < 2 ^ 32) : d.numeral.toDecimal = d := by
  have hscale : d.numeral.places.length % twoPow 32 = d.scale := by
    rw [length_places_numeral]
    exact Nat.mod_eq_of_lt h
  have hsign : d.numeral.sign = some .minus ↔ d.mantissa < 0 := by
    rw [numeral]
    split
    · next hnegative => simp [hnegative]
    · next hnegative => simp [hnegative]
  have hmantissa : (if d.mantissa < 0 then -(d.mantissa.natAbs : Int) else d.mantissa.natAbs) =
      d.mantissa := by
    split <;> omega
  rw [DecimalNumeral.toDecimal, digits_numeral, digitsValue_paddedDigits, hscale]
  simp only [hsign, hmantissa]

/-- What is written is read again. -/
theorem read?_render {d : Decimal} (hmantissa : d.mantissa.natAbs ≤ greatest)
    (hscale : d.scale < 2 ^ 32) : read? d.render.toList = some d := by
  rw [read?_eq_some_iff]
  refine ⟨d.numeral, d.toList_render.symm, ?_, toDecimal_numeral hscale⟩
  rw [digits_numeral, digitsValue_paddedDigits]
  exact hmantissa

/-- The mantissa of a numeral's decimal is, but for its sign, the digits taken as one integer. -/
theorem natAbs_mantissa_toDecimal (n : DecimalNumeral) :
    n.toDecimal.mantissa.natAbs = digitsValue 0 n.digits := by
  rw [DecimalNumeral.toDecimal]
  dsimp only
  split <;> omega

/-- What is read from a numeral is its decimal, with a mantissa that fits. -/
theorem of_read?_chars {n : DecimalNumeral} {d : Decimal} (h : read? n.chars = some d) :
    d = n.toDecimal ∧ d.mantissa.natAbs ≤ greatest := by
  rw [n.read?_chars, Option.ite_none_right_eq_some, Option.some.injEq] at h
  obtain ⟨hgreatest, rfl⟩ := h
  refine ⟨rfl, ?_⟩
  rw [natAbs_mantissa_toDecimal]
  exact hgreatest

/-- A text is read exactly if it is a numeral whose digits, taken as one integer, are at most
`2 ^ 127 - 1`. The scale of what is read is the number of the numeral's places, counted in 32 bits;
with fewer than `2 ^ 32` places it is that number itself, and what is read is the number that the
numeral stands for. Written down, it is read as the same decimal again. -/
theorem texts_are_exact (cs : List Char) :
    ((∃ d, read? cs = some d) ↔
      ∃ n : DecimalNumeral, n.chars = cs ∧ digitsValue 0 n.digits ≤ 2 ^ 127 - 1) ∧
    ∀ d, read? cs = some d →
      (∀ n : DecimalNumeral, n.chars = cs →
        d.scale = n.places.length % 2 ^ 32 ∧
        (n.places.length < 2 ^ 32 → d.value = n.value ∧ d.scale = n.places.length)) ∧
      read? d.render.toList = some d := by
  refine ⟨⟨?_, ?_⟩, fun d hd => ⟨?_, ?_⟩⟩
  · rintro ⟨d, hd⟩
    obtain ⟨n, hchars, hgreatest, -⟩ := read?_eq_some_iff.mp hd
    exact ⟨n, hchars, hgreatest⟩
  · rintro ⟨n, hchars, hgreatest⟩
    exact ⟨n.toDecimal, read?_eq_some_iff.mpr ⟨n, hchars, hgreatest, rfl⟩⟩
  · rintro n rfl
    obtain ⟨rfl, -⟩ := of_read?_chars hd
    exact ⟨rfl, fun hplaces =>
      ⟨DecimalNumeral.value_toDecimal hplaces, DecimalNumeral.scale_toDecimal hplaces⟩⟩
  · obtain ⟨n, rfl, -⟩ := read?_eq_some_iff.mp hd
    obtain ⟨rfl, hgreatest⟩ := of_read?_chars hd
    exact read?_render hgreatest n.scale_toDecimal_lt

/-- A small negative number without a digit before the point keeps its sign and its last zero. -/
theorem texts_are_exact_smallNegative :
    read? "-.050".toList = some ⟨-50, 3⟩ ∧ (⟨-50, 3⟩ : Decimal).render = "-0.050" ∧
      read? "-0.050".toList = some ⟨-50, 3⟩ := by
  have hread : read? "-.050".toList = some ⟨-50, 3⟩ := rfl
  have hrender : (⟨-50, 3⟩ : Decimal).render = "-0.050" := by decide
  refine ⟨hread, hrender, ?_⟩
  rw [← hrender]
  exact ((texts_are_exact "-.050".toList).2 ⟨-50, 3⟩ hread).2

/-- The greatest mantissa is read, and one more is not. -/
example : read? "17014118346046923173168730371588410572.7".toList = some ⟨2 ^ 127 - 1, 1⟩ ∧
    read? "17014118346046923173168730371588410572.8".toList = none :=
  ⟨rfl, rfl⟩

end Decimal

end CatalogRecords.Number
