import CatalogRecords.Proofs.Number.DecimalText
import CatalogRecords.Proofs.Number.Roundoff

/-!
# The order of decimals

Two decimals that can both be written with the places of the longer one are compared as the numbers
they are. Where one of them runs out of its 128 bits there, both are compared as binary numbers.
That keeps what no rounding can change, the signs and the equality of equal numbers, and the order
of numbers that are further apart than the roundings of the conversion. Closer numbers may come out
equal or in the wrong order, and as of three numbers two may have places in common and the third
with neither, the order is then not transitive.

A decimal has the value of its text if its scale holds the number of places, so with fewer than
`2 ^ 32`. With `2 ^ 31` or more the exponent of the conversion is negative, and a zero is divided by
zero; what is said of signs and of equal numbers is of decimals with fewer.
-/

namespace CatalogRecords.Number

namespace BinaryFormat

/-! Numbers of 64 bits. -/

/-- One rounding to 64 bits is an error of at most a part in `2 ^ 53`. -/
theorem unitRoundoff_double : double.unitRoundoff = 1 / 2 ^ 53 := by
  have hhalf : double.half = 2 ^ 52 := rfl
  rw [unitRoundoff, hhalf]
  norm_num

/-- Twice a power of ten with at most 307 zeros is below the numbers that overflow. -/
theorem two_mul_ten_pow_le {n : Nat} (hn : n ≤ 307) : (2 * 10 ^ n : ℚ) ≤ 2 ^ 1022 := by
  obtain ⟨greatest, hgreatest⟩ : ∃ greatest, greatest = 307 := ⟨_, rfl⟩
  have htop : 2 * 10 ^ greatest ≤ 2 ^ 1022 := by
    rw [hgreatest]
    decide +kernel
  have hpow : 10 ^ n ≤ 10 ^ greatest := Nat.pow_le_pow_right (by decide) (hgreatest ▸ hn)
  have hle : 2 * 10 ^ n ≤ 2 ^ 1022 := (Nat.mul_le_mul_left 2 hpow).trans htop
  exact_mod_cast hle

/-- Half the smallest and twice the greatest of the powers of ten from `-307` to `307` are normal,
and so is what lies between them. -/
theorem isNormal_double {x : ℚ} {n k : Nat} (hn : n ≤ 307) (hk : k ≤ 307)
    (hleast : 1 ≤ x * (2 * 10 ^ n)) (hgreatest : x ≤ 2 * 10 ^ k) : double.IsNormal x := by
  have hleastExponent : double.leastExponent + (double.precision - 1 : Int) = -(1022 : Nat) := rfl
  have hgreatestExponent : double.leastExponent + (double.precision - 1 : Int) +
      (twoPow double.exponentBits - 3 : Int) = (1022 : Nat) + 1 := rfl
  have hten : (0 : ℚ) < 2 * 10 ^ n := by positivity
  have hpow : (0 : ℚ) < 2 ^ 1022 := by positivity
  refine ⟨?_, ?_⟩
  · rw [hleastExponent, zpow_neg, zpow_natCast, inv_le_iff_one_le_mul₀ hpow]
    calc (1 : ℚ) ≤ x * (2 * 10 ^ n) := hleast
      _ ≤ x * 2 ^ 1022 := mul_le_mul_of_nonneg_left (two_mul_ten_pow_le hn)
          (pos_of_mul_pos_left (one_pos.trans_le hleast) hten.le).le
  · rw [hgreatestExponent, zpow_add_one₀ two_ne_zero, zpow_natCast]
    calc x ≤ 2 * 10 ^ k := hgreatest
      _ ≤ 2 ^ 1022 := two_mul_ten_pow_le hk
      _ < 2 ^ 1022 * 2 := lt_mul_of_one_lt_right hpow one_lt_two

/-- One is a binary number. -/
theorem approximates_one : double.Approximates (double.round 1 1) 0 1 := by
  have hfinite : double.round 1 1 < double.infinity := by decide +kernel
  have hunpack : double.unpack (double.round 1 1) = (2 ^ 52, -52) := by decide +kernel
  exact approximates_exactly hfinite hunpack (by norm_num)

/-- Ten is a binary number. -/
theorem approximates_ten : double.Approximates (double.round 10 1) 0 10 := by
  have hfinite : double.round 10 1 < double.infinity := by decide +kernel
  have hunpack : double.unpack (double.round 10 1) = (10 * 2 ^ 49, -49) := by decide +kernel
  exact approximates_exactly hfinite hunpack (by norm_num)

/-- A thousand roundings are too few to double a number. -/
theorem le_half_double {count : Nat} (h : count ≤ 1000) : count ≤ double.half :=
  h.trans (by decide)

/-- The powers of ten with at most 307 zeros are normal, however they are rounded. -/
theorem powersNormal_ten {greatest : Nat} (h : greatest ≤ 307) :
    double.PowersNormal 10 greatest := by
  intro n hn y hy
  have hpos : (0 : ℚ) < 10 ^ n := by positivity
  have hone : (1 : ℚ) ≤ 10 ^ n := one_le_pow₀ (by norm_num)
  have hcount : n ≤ double.half := le_half_double (by omega)
  have hbelow : 10 ^ n ≤ 2 * y := hy.le_two_mul (hy.pos hpos).le hcount
  have habove : y ≤ 2 * 10 ^ n := hy.symm.le_two_mul hpos.le hcount
  refine isNormal_double (hn.trans h) (hn.trans h) ?_ habove
  calc (1 : ℚ) ≤ 10 ^ n * 10 ^ n := one_le_mul_of_one_le_of_one_le hone hone
    _ ≤ 2 * y * 10 ^ n := mul_le_mul_of_nonneg_right hbelow hpos.le
    _ = y * (2 * 10 ^ n) := by ring

end BinaryFormat

namespace Decimal

open BinaryFormat (double)

/-! Conversion to binary numbers. -/

/-- A scale below `2 ^ 31` is its own exponent. -/
theorem exponent_eq {d : Decimal} (h : d.scale < 2 ^ 31) : d.exponent = d.scale := by
  have hbits : ((twoPow 32 : Nat) : Int) = 4294967296 := rfl
  apply Int.bmod_eq_of_le
  · omega
  · omega

/-- No power of ten is zero, to whatever exponent it is raised and however it is rounded. -/
theorem pow_ten_ne_zero (exponent : Nat) : double.pow (double.round 10 1) exponent ≠ 0 := by
  have hinfinity : 0 < double.infinity := by decide
  have hprecision : 0 < double.precision := by decide
  have hone : double.leastExponent + (double.precision - 1 : Int) ≤ 0 := by decide
  have hten : double.IsAtLeastOne (double.round 10 1) :=
    BinaryFormat.isAtLeastOne_round hprecision hone (by decide) Nat.one_pos (by norm_num)
  exact (hten.pow hprecision hone exponent).ne_zero hinfinity

/-- With a scale below `2 ^ 31` the binary number has the sign of the mantissa, and the mantissa is
divided by the power of ten for the scale. -/
theorem toBinary_eq {d : Decimal} (h : d.scale < 2 ^ 31) :
    d.toBinary = ⟨decide (d.mantissa < 0), double.div (double.round d.mantissa.natAbs 1)
      (double.pow (double.round 10 1) d.scale)⟩ := by
  have hpower : double.zpow (double.round 10 1) d.exponent =
      double.pow (double.round 10 1) d.scale := by
    rw [exponent_eq h, BinaryFormat.zpow, if_neg (Int.natCast_nonneg d.scale).not_gt,
      Int.natAbs_natCast]
  have hnumber : ¬double.infinity < double.div (double.round d.mantissa.natAbs 1)
      (double.pow (double.round 10 1) d.scale) :=
    (BinaryFormat.div_le_infinity _ (pow_ten_ne_zero d.scale)).not_gt
  rw [toBinary, hpower, decide_eq_false hnumber, Bool.or_false]

/-- The magnitude of a decimal is that of its mantissa, moved down by its places. -/
theorem abs_value (d : Decimal) : |d.value| = d.mantissa.natAbs / 10 ^ d.scale := by
  have hpow : (0 : ℚ) < 10 ^ d.scale := by positivity
  rw [value, abs_div, abs_of_pos hpow, Nat.cast_natAbs, Int.cast_abs]

/-- A mantissa has no more than 39 digits. -/
theorem cast_le_ten_pow {m : Nat} (h : m ≤ 2 ^ 128) : (m : ℚ) ≤ 10 ^ 39 := by
  calc (m : ℚ) ≤ 2 ^ 128 := by exact_mod_cast h
    _ ≤ 10 ^ 39 := by norm_num

/-- A mantissa that is not zero is normal. -/
theorem isNormal_mantissa {m : Nat} (hpos : 0 < m) (h : m ≤ 2 ^ 128) :
    double.IsNormal (m / (1 : Nat)) := by
  have hone : (1 : ℚ) ≤ m := Nat.one_le_cast.mpr hpos
  have hten := cast_le_ten_pow h
  rw [Nat.cast_one, div_one]
  apply BinaryFormat.isNormal_double (n := 0) (k := 39) (by decide) (by decide)
  · linarith
  · linarith

/-- The quotient of a mantissa by a power of ten is normal, however its parts were rounded. -/
theorem isNormal_quotient {m scale : Nat} (hpos : 0 < m) (hm : m ≤ 2 ^ 128) (hscale : scale ≤ 307)
    {z : ℚ} (h : double.Within (1 + scale) (m / 10 ^ scale) z) : double.IsNormal z := by
  have hten : (0 : ℚ) < 10 ^ scale := by positivity
  have hone : (1 : ℚ) ≤ 10 ^ scale := one_le_pow₀ (by norm_num)
  have hmpos : (0 : ℚ) < m := Nat.cast_pos.mpr hpos
  have hexact : (0 : ℚ) < m / 10 ^ scale := div_pos hmpos hten
  have hcount : 1 + scale ≤ double.half := BinaryFormat.le_half_double (by omega)
  have hbelow := h.le_two_mul (h.pos hexact).le hcount
  have habove := h.symm.le_two_mul hexact.le hcount
  rw [div_le_iff₀ hten] at hbelow
  apply BinaryFormat.isNormal_double (k := 39) hscale (by decide)
  · calc (1 : ℚ) ≤ m := Nat.one_le_cast.mpr hpos
      _ ≤ 2 * z * 10 ^ scale := hbelow
      _ = z * (2 * 10 ^ scale) := by ring
  · calc z ≤ 2 * (m / 10 ^ scale) := habove
      _ ≤ 2 * m := mul_le_mul_of_nonneg_left (div_le_self hmpos.le hone) zero_le_two
      _ ≤ 2 * 10 ^ 39 := mul_le_mul_of_nonneg_left (cast_le_ten_pow hm) zero_le_two

/-- A mantissa divided by a power of ten is as many roundings from the exact quotient as are made on
the way: one for the mantissa, one for each factor of the power, and one for the division. -/
theorem within_div_pow {m scale : Nat} (hpos : 0 < m) (hm : m ≤ 2 ^ 128) (hscale : scale ≤ 307) :
    double.Within (scale + 2) (m / 10 ^ scale)
      (double.valueOf (double.div (double.round m 1) (double.pow (double.round 10 1) scale))) := by
  have hprecision : 0 < double.precision := by decide
  have hten : (0 : ℚ) < 10 ^ scale := by positivity
  have hmpos : (0 : ℚ) < m := Nat.cast_pos.mpr hpos
  obtain ⟨-, hround⟩ := BinaryFormat.round_spec hprecision hpos Nat.one_pos
    (isNormal_mantissa hpos hm)
  rw [Nat.cast_one, div_one] at hround
  have hpow := BinaryFormat.pow_spec hprecision (by norm_num)
    (BinaryFormat.powersNormal_ten hscale) BinaryFormat.approximates_ten
    BinaryFormat.approximates_one
  have hden := hpow.pos hten
  have hquotient := hround.mul (hpow.within.inv hten hden) hmpos.le (inv_pos.mpr hden).le
  rw [← div_eq_mul_inv, ← div_eq_mul_inv] at hquotient
  obtain ⟨-, hdiv⟩ := BinaryFormat.div_spec hprecision hpow.finite (hround.pos hmpos) hden
    (isNormal_quotient hpos hm hscale hquotient)
  have htotal := hquotient.trans hdiv
  have hroundings : 1 + scale + 1 = scale + 2 := by
    omega
  rwa [hroundings] at htotal

/-- The binary number of a decimal is two roundings and one for each place away from it. -/
theorem within_toBinary {d : Decimal} (hmantissa : d.mantissa.natAbs ≤ 2 ^ 128)
    (hscale : d.scale ≤ 307) :
    double.Within (d.scale + 2) |d.value| (double.valueOf d.toBinary.magnitude) := by
  rw [toBinary_eq (by omega), abs_value]
  rcases Nat.eq_zero_or_pos d.mantissa.natAbs with hzero | hpos
  · rw [hzero, BinaryFormat.round_zero, BinaryFormat.zero_div_eq (pow_ten_ne_zero d.scale),
      BinaryFormat.valueOf_zero, Nat.cast_zero, zero_div, BinaryFormat.Within, zero_mul]
    exact ⟨le_rfl, le_rfl⟩
  · exact within_div_pow hpos hmantissa hscale

/-- A decimal is negative if its mantissa is. -/
theorem value_neg_iff (d : Decimal) : d.value < 0 ↔ d.mantissa < 0 := by
  have hpow : (0 : ℚ) < 10 ^ d.scale := by positivity
  rw [value, div_lt_iff₀ hpow, zero_mul, Int.cast_lt_zero]

/-- The key of a negative number is below minus its magnitude. -/
theorem totalKey_of_value_neg {d : Decimal} (hscale : d.scale < 2 ^ 31) (h : d.value < 0) :
    d.toBinary.totalKey = -(d.toBinary.magnitude : Int) - 1 := by
  have hnegative : d.toBinary.negative = true := by
    rw [toBinary_eq hscale]
    exact decide_eq_true (d.value_neg_iff.mp h)
  exact if_pos hnegative

/-- The key of a number that is not negative is its magnitude. -/
theorem totalKey_of_value_nonneg {d : Decimal} (hscale : d.scale < 2 ^ 31) (h : 0 ≤ d.value) :
    d.toBinary.totalKey = d.toBinary.magnitude := by
  have hmantissa : ¬d.mantissa < 0 := fun hneg => absurd (d.value_neg_iff.mpr hneg) (not_lt.mpr h)
  have hnegative : d.toBinary.negative = false := by
    rw [toBinary_eq hscale]
    exact decide_eq_false hmantissa
  exact if_neg (Bool.eq_false_iff.mp hnegative)

/-! The places of the longer one. -/

/-- A decimal can be written with so many places. -/
structure FitsAt (d : Decimal) (scale : Nat) : Prop where
  places : scale - d.scale ≤ 38
  least : -2 ^ 127 ≤ d.mantissa * 10 ^ (scale - d.scale)
  greatest : d.mantissa * 10 ^ (scale - d.scale) < 2 ^ 127

/-- Two decimals can both be written with the places of the longer one. -/
def SharesScale (a b : Decimal) : Prop :=
  a.FitsAt (max a.scale b.scale) ∧ b.FitsAt (max a.scale b.scale)

/-- Having places in common goes both ways. -/
theorem SharesScale.symm {a b : Decimal} (h : a.SharesScale b) : b.SharesScale a := by
  rw [SharesScale, max_comm]
  exact And.symm h

/-- A decimal is rescaled if it can be written with so many places, and then to the mantissa moved
up by those added. -/
theorem rescaled?_eq_some_iff {d : Decimal} {scale : Nat} {m : Int} :
    d.rescaled? scale = some m ↔ d.FitsAt scale ∧ d.mantissa * 10 ^ (scale - d.scale) = m := by
  have hpow : (tenPow (scale - d.scale) : Int) = 10 ^ (scale - d.scale) := Nat.cast_pow 10 _
  have hleast : (IntegerRange.signed 128).least = -2 ^ 127 := rfl
  have hgreatest : (IntegerRange.signed 128).greatest = 2 ^ 127 - 1 := rfl
  rw [rescaled?, Option.ite_none_right_eq_some, fits?, Option.ite_none_right_eq_some, hpow,
    IntegerRange.holds, Bool.and_eq_true, decide_eq_true_iff, decide_eq_true_iff, hleast, hgreatest,
    Int.le_sub_one_iff, Option.some.injEq]
  constructor
  · rintro ⟨hplaces, ⟨hbelow, habove⟩, heq⟩
    exact ⟨⟨hplaces, hbelow, habove⟩, heq⟩
  · rintro ⟨⟨hplaces, hbelow, habove⟩, heq⟩
    exact ⟨hplaces, ⟨hbelow, habove⟩, heq⟩

/-- A decimal that cannot be written with so many places is not rescaled. -/
theorem rescaled?_eq_none {d : Decimal} {scale : Nat} (h : ¬d.FitsAt scale) :
    d.rescaled? scale = none := by
  cases heq : d.rescaled? scale with
  | none => rfl
  | some m => exact absurd (rescaled?_eq_some_iff.mp heq).1 h

/-- Written with more places, the mantissa is the number moved up by these. -/
theorem mantissa_mul_eq (d : Decimal) {scale : Nat} (h : d.scale ≤ scale) :
    ((d.mantissa * 10 ^ (scale - d.scale) : Int) : ℚ) = d.value * 10 ^ scale := by
  have hpow : (10 : ℚ) ^ d.scale ≠ 0 := by positivity
  have hsplit : (10 : ℚ) ^ scale = 10 ^ (scale - d.scale) * 10 ^ d.scale := by
    rw [← pow_add, Nat.sub_add_cancel h]
  rw [hsplit, value]
  push_cast
  field_simp

/-- With places in common, decimals are compared as the numbers they are. -/
theorem cmp_of_sharesScale {a b : Decimal} (h : a.SharesScale b) :
    a.cmp b = compare a.value b.value := by
  have ha := rescaled?_eq_some_iff.mpr ⟨h.1, rfl⟩
  have hb := rescaled?_eq_some_iff.mpr ⟨h.2, rfl⟩
  have hscale : (0 : ℚ) < 10 ^ max a.scale b.scale := by positivity
  have hmono : StrictMono fun m : Int => (m : ℚ) / 10 ^ max a.scale b.scale :=
    fun m n hmn => div_lt_div_of_pos_right (Int.cast_lt.mpr hmn) hscale
  have hvalue {d : Decimal} (hd : d.scale ≤ max a.scale b.scale) :
      d.value = ((d.mantissa * 10 ^ (max a.scale b.scale - d.scale) : Int) : ℚ) /
        10 ^ max a.scale b.scale := by
    rw [mantissa_mul_eq d hd, mul_div_cancel_right₀ _ hscale.ne']
  rw [cmp, ha, hb, hvalue (le_max_left _ _), hvalue (le_max_right _ _)]
  dsimp only
  rw [← cmp_eq_compare, ← cmp_eq_compare]
  exact (hmono.cmp_map_eq _ _).symm

/-- Without places in common, decimals are compared as their binary numbers. -/
theorem cmp_of_not_sharesScale {a b : Decimal} (h : ¬a.SharesScale b) :
    a.cmp b = compare a.toBinary.totalKey b.toBinary.totalKey := by
  rw [cmp]
  by_cases ha : a.FitsAt (max a.scale b.scale)
  · rw [rescaled?_eq_none fun hb => h ⟨ha, hb⟩]
    cases a.rescaled? (max a.scale b.scale) <;> rfl
  · rw [rescaled?_eq_none ha]

/-! What the comparison keeps. -/

/-- From the other side the comparison is the other way round. -/
theorem cmp_swap (a b : Decimal) : b.cmp a = (a.cmp b).swap := by
  by_cases h : a.SharesScale b
  · rw [cmp_of_sharesScale h, cmp_of_sharesScale h.symm]
    exact Std.OrientedCmp.eq_swap
  · rw [cmp_of_not_sharesScale h, cmp_of_not_sharesScale (mt SharesScale.symm h)]
    exact Std.OrientedCmp.eq_swap

/-- A mantissa that is not zero and stays within bounds when it is moved up is moved by at most 38
places, so that the power of ten fits as well. -/
theorem fitsAt_of_natAbs_le {d : Decimal} {scale : Nat} (hmantissa : d.mantissa ≠ 0)
    (h : (d.mantissa * 10 ^ (scale - d.scale)).natAbs ≤ greatest) : d.FitsAt scale := by
  have hgreatest : (greatest : Int) < 2 ^ 127 := by decide
  refine ⟨?_, by omega, by omega⟩
  by_contra hplaces
  have hpow : 10 ^ 39 ≤ 10 ^ (scale - d.scale) := Nat.pow_le_pow_right (by decide) (by omega)
  have hless : greatest < 10 ^ 39 := by decide
  have hpos : 0 < d.mantissa.natAbs := Int.natAbs_pos.mpr hmantissa
  have hle : 10 ^ (scale - d.scale) ≤ (d.mantissa * 10 ^ (scale - d.scale)).natAbs := by
    rw [Int.natAbs_mul, Int.natAbs_pow]
    exact Nat.le_mul_of_pos_left _ hpos
  omega

/-- Equal numbers other than zero have places in common: the shorter one has no further digits
there than the longer one has already. -/
theorem sharesScale_of_value_eq {a b : Decimal} (ha : a.mantissa.natAbs ≤ greatest)
    (hb : b.mantissa.natAbs ≤ greatest) (hvalue : a.value = b.value) (hne : a.mantissa ≠ 0) :
    a.SharesScale b := by
  have hequal : a.mantissa * 10 ^ (max a.scale b.scale - a.scale) =
      b.mantissa * 10 ^ (max a.scale b.scale - b.scale) := by
    rw [← Int.cast_inj (α := ℚ), mantissa_mul_eq a (le_max_left _ _),
      mantissa_mul_eq b (le_max_right _ _), hvalue]
  have hpow : (10 : Int) ^ (max a.scale b.scale - a.scale) ≠ 0 := by positivity
  have hbne : b.mantissa ≠ 0 := by
    rintro hzero
    rw [hzero, zero_mul] at hequal
    exact (mul_ne_zero hne hpow) hequal
  have hbound : (a.mantissa * 10 ^ (max a.scale b.scale - a.scale)).natAbs ≤ greatest := by
    rcases le_total a.scale b.scale with hle | hle
    · rwa [hequal, max_eq_right hle, Nat.sub_self, pow_zero, mul_one]
    · rwa [max_eq_left hle, Nat.sub_self, pow_zero, mul_one]
  exact ⟨fitsAt_of_natAbs_le hne hbound, fitsAt_of_natAbs_le hbne (hequal ▸ hbound)⟩

/-- A zero with a scale below `2 ^ 31` is converted to zero. -/
theorem toBinary_of_mantissa_eq_zero {d : Decimal} (hscale : d.scale < 2 ^ 31)
    (h : d.mantissa = 0) : d.toBinary = ⟨false, 0⟩ := by
  rw [toBinary_eq hscale, h, Int.natAbs_zero, BinaryFormat.round_zero,
    BinaryFormat.zero_div_eq (pow_ten_ne_zero d.scale)]
  rfl

/-- A decimal is zero if its mantissa is. -/
theorem value_eq_zero_iff (d : Decimal) : d.value = 0 ↔ d.mantissa = 0 := by
  have hpow : (10 : ℚ) ^ d.scale ≠ 0 := by positivity
  rw [value, div_eq_zero_iff, or_iff_left hpow, Int.cast_eq_zero]

/-- Equal numbers compare as equal. -/
theorem cmp_of_value_eq {a b : Decimal} (ha : a.mantissa.natAbs ≤ greatest)
    (hb : b.mantissa.natAbs ≤ greatest) (hascale : a.scale < 2 ^ 31) (hbscale : b.scale < 2 ^ 31)
    (hvalue : a.value = b.value) : a.cmp b = .eq := by
  by_cases h : a.SharesScale b
  · rw [cmp_of_sharesScale h, compare_eq_iff_eq]
    exact hvalue
  · have hazero : a.mantissa = 0 :=
      by_contra fun hne => h (sharesScale_of_value_eq ha hb hvalue hne)
    have hbzero : b.mantissa = 0 := by
      rw [← value_eq_zero_iff, ← hvalue, value_eq_zero_iff]
      exact hazero
    rw [cmp_of_not_sharesScale h, toBinary_of_mantissa_eq_zero hascale hazero,
      toBinary_of_mantissa_eq_zero hbscale hbzero, compare_eq_iff_eq]

/-- A negative number comes before all that are not. -/
theorem cmp_of_neg_of_nonneg {a b : Decimal} (hascale : a.scale < 2 ^ 31)
    (hbscale : b.scale < 2 ^ 31) (ha : a.value < 0) (hb : 0 ≤ b.value) : a.cmp b = .lt := by
  by_cases h : a.SharesScale b
  · rw [cmp_of_sharesScale h, compare_lt_iff_lt]
    exact ha.trans_le hb
  · rw [cmp_of_not_sharesScale h, compare_lt_iff_lt, totalKey_of_value_neg hascale ha,
      totalKey_of_value_nonneg hbscale hb]
    omega

/-- Two numbers are further apart than the roundings of their conversion can bring together: two
for each of them and one for each place. -/
def FarApart (a b : Decimal) : Prop :=
  ((a.scale + b.scale + 4 : Nat) : ℚ) * max |a.value| |b.value| < 2 ^ 53 * |a.value - b.value|

/-- Being far apart goes both ways. -/
theorem FarApart.symm {a b : Decimal} (h : a.FarApart b) : b.FarApart a := by
  rw [FarApart, max_comm, abs_sub_comm, Nat.add_comm b.scale]
  exact h

/-- The magnitudes of numbers that are far apart are in the order of the numbers. -/
theorem magnitude_lt {a b : Decimal} (ha : a.mantissa.natAbs ≤ greatest)
    (hb : b.mantissa.natAbs ≤ greatest) (hascale : a.scale ≤ 307) (hbscale : b.scale ≤ 307)
    (hfar : ((a.scale + b.scale + 4 : Nat) : ℚ) * |b.value| < 2 ^ 53 * (|b.value| - |a.value|)) :
    a.toBinary.magnitude < b.toBinary.magnitude := by
  have hgreatest : greatest ≤ 2 ^ 128 := by decide
  have hroundings : a.scale + 2 + (b.scale + 2) = a.scale + b.scale + 4 := by
    omega
  rw [← double.valueOf_strictMono.lt_iff_lt]
  refine BinaryFormat.lt_of_within (within_toBinary (ha.trans hgreatest) hascale)
    (within_toBinary (hb.trans hgreatest) hbscale) (abs_nonneg _) ?_
  rw [hroundings, BinaryFormat.unitRoundoff_double]
  linarith

/-- The keys of numbers that are far apart are in the order of the numbers. -/
theorem totalKey_lt_of_farApart {a b : Decimal} (ha : a.mantissa.natAbs ≤ greatest)
    (hb : b.mantissa.natAbs ≤ greatest) (hascale : a.scale ≤ 307) (hbscale : b.scale ≤ 307)
    (hlt : a.value < b.value) (hfar : a.FarApart b) :
    a.toBinary.totalKey < b.toBinary.totalKey := by
  have ha31 : a.scale < 2 ^ 31 := by omega
  have hb31 : b.scale < 2 ^ 31 := by omega
  rw [FarApart, abs_of_neg (sub_neg.mpr hlt), neg_sub] at hfar
  rcases lt_or_ge b.value 0 with hbneg | hbnonneg
  · -- among negative numbers the greater magnitude comes first
    have haneg := hlt.trans hbneg
    rw [abs_of_neg haneg, abs_of_neg hbneg, max_eq_left (neg_le_neg hlt.le)] at hfar
    have hmagnitude : b.toBinary.magnitude < a.toBinary.magnitude := by
      apply magnitude_lt hb ha hbscale hascale
      rwa [Nat.add_comm b.scale, abs_of_neg haneg, abs_of_neg hbneg, neg_sub_neg]
    rw [totalKey_of_value_neg ha31 haneg, totalKey_of_value_neg hb31 hbneg]
    omega
  rcases lt_or_ge a.value 0 with haneg | hanonneg
  · rw [totalKey_of_value_neg ha31 haneg, totalKey_of_value_nonneg hb31 hbnonneg]
    omega
  · rw [abs_of_nonneg hanonneg, abs_of_nonneg hbnonneg, max_eq_right hlt.le] at hfar
    have hmagnitude : a.toBinary.magnitude < b.toBinary.magnitude := by
      apply magnitude_lt ha hb hascale hbscale
      rwa [abs_of_nonneg hanonneg, abs_of_nonneg hbnonneg]
    rw [totalKey_of_value_nonneg ha31 hanonneg, totalKey_of_value_nonneg hb31 hbnonneg]
    omega

/-- Numbers that are far apart are compared as the numbers they are. -/
theorem cmp_of_farApart {a b : Decimal} (ha : a.mantissa.natAbs ≤ greatest)
    (hb : b.mantissa.natAbs ≤ greatest) (hascale : a.scale ≤ 307) (hbscale : b.scale ≤ 307)
    (hfar : a.FarApart b) : a.cmp b = compare a.value b.value := by
  by_cases h : a.SharesScale b
  · exact cmp_of_sharesScale h
  rw [cmp_of_not_sharesScale h]
  rcases lt_trichotomy a.value b.value with hlt | heq | hgt
  · rw [compare_lt_iff_lt.mpr hlt, compare_lt_iff_lt]
    exact totalKey_lt_of_farApart ha hb hascale hbscale hlt hfar
  · rw [FarApart, heq, sub_self, abs_zero, mul_zero] at hfar
    exact absurd hfar (not_lt.mpr (by positivity))
  · rw [compare_gt_iff_gt.mpr hgt, compare_gt_iff_gt]
    exact totalKey_lt_of_farApart hb ha hbscale hascale hgt hfar.symm

/-- Decimals that were read are compared in the same way from both sides, and without places in
common as their binary numbers. If the scales hold the numbers of places, those with places in
common are compared as the numbers that their texts stand for, and so are those of a few hundred
places that are far apart. If the scales are no negative exponents either, texts that stand for the
same number are equal, and a negative number comes before all others. -/
theorem order_of_numerals {m n : DecimalNumeral} {a b : Decimal} (ha : read? m.chars = some a)
    (hb : read? n.chars = some b) :
    b.cmp a = (a.cmp b).swap ∧
      (¬a.SharesScale b → a.cmp b = compare a.toBinary.totalKey b.toBinary.totalKey) ∧
      (m.places.length < 2 ^ 32 → n.places.length < 2 ^ 32 →
        (a.SharesScale b → a.cmp b = compare m.value n.value) ∧
        (a.scale ≤ 307 → b.scale ≤ 307 → a.FarApart b → a.cmp b = compare m.value n.value)) ∧
      (m.places.length < 2 ^ 31 → n.places.length < 2 ^ 31 →
        (m.value = n.value → a.cmp b = .eq) ∧ (m.value < 0 → 0 ≤ n.value → a.cmp b = .lt)) := by
  obtain ⟨rfl, hagreatest⟩ := of_read?_chars ha
  obtain ⟨rfl, hbgreatest⟩ := of_read?_chars hb
  refine ⟨cmp_swap _ _, cmp_of_not_sharesScale, fun hm hn => ?_, fun hm hn => ?_⟩
  · rw [← DecimalNumeral.value_toDecimal hm, ← DecimalNumeral.value_toDecimal hn]
    exact ⟨cmp_of_sharesScale, cmp_of_farApart hagreatest hbgreatest⟩
  · have hm32 : m.places.length < 2 ^ 32 := by omega
    have hn32 : n.places.length < 2 ^ 32 := by omega
    have hascale : m.toDecimal.scale < 2 ^ 31 := by rwa [DecimalNumeral.scale_toDecimal hm32]
    have hbscale : n.toDecimal.scale < 2 ^ 31 := by rwa [DecimalNumeral.scale_toDecimal hn32]
    rw [← DecimalNumeral.value_toDecimal hm32, ← DecimalNumeral.value_toDecimal hn32]
    exact ⟨cmp_of_value_eq hagreatest hbgreatest hascale hbscale,
      cmp_of_neg_of_nonneg hascale hbscale⟩

/-- One is greater than a number with too many places for one to share. -/
theorem order_of_numerals_one_tiny :
    read? "1".toList = some ⟨1, 0⟩ ∧
      read? "0.00000000000000000000000000000000000000001".toList = some ⟨1, 41⟩ ∧
      (⟨1, 0⟩ : Decimal).cmp ⟨1, 41⟩ = .gt := by
  have hone : (⟨1, 0⟩ : Decimal).numeral.chars = "1".toList := by decide
  have htiny : (⟨1, 41⟩ : Decimal).numeral.chars =
      "0.00000000000000000000000000000000000000001".toList := by decide
  rw [← hone, ← htiny, ← toList_render, ← toList_render]
  have hreadOne := read?_render (d := ⟨1, 0⟩) (by decide) (by decide)
  have hreadTiny := read?_render (d := ⟨1, 41⟩) (by decide) (by decide)
  refine ⟨hreadOne, hreadTiny, ?_⟩
  rw [toList_render] at hreadOne hreadTiny
  have hplacesOne : (⟨1, 0⟩ : Decimal).numeral.places.length = 0 := length_places_numeral _
  have hplacesTiny : (⟨1, 41⟩ : Decimal).numeral.places.length = 41 := length_places_numeral _
  have hfar : FarApart ⟨1, 0⟩ ⟨1, 41⟩ := by
    norm_num [FarApart, value]
  obtain ⟨-, -, hvalues, -⟩ := order_of_numerals hreadOne hreadTiny
  rw [(hvalues (by omega) (by omega)).2 (by decide) (by decide) hfar, compare_gt_iff_gt,
    ← DecimalNumeral.value_toDecimal (by omega), ← DecimalNumeral.value_toDecimal (by omega),
    toDecimal_numeral (by decide), toDecimal_numeral (by decide)]
  norm_num [value]

/-! Zeros with many places. -/

/-- The numeral of zero with so many zeros after its point. -/
def zeroNumeral (count : Nat) : DecimalNumeral where
  sign := none
  whole := ['0']
  fraction := some (List.replicate count '0')
  isDigit c hc := by
    rcases List.mem_append.mp hc with hc | hc
    · rw [List.mem_singleton.mp hc]
      rfl
    · rw [List.eq_of_mem_replicate hc]
      rfl
  digits_ne_nil := List.cons_ne_nil _ _

/-- All digits of zero are zeros, so that it is read, however many there are. -/
theorem read?_zeros (count : Nat) :
    read? ("0.".toList ++ List.replicate count '0') = some ⟨0, count % 2 ^ 32⟩ := by
  have hdigits : digitsValue 0 (zeroNumeral count).digits = 0 :=
    Nat.ofDigitChars_replicate_zero (n := count + 1) |>.trans (Nat.mul_zero _)
  have hplaces : (zeroNumeral count).places.length = count := List.length_replicate
  have hdecimal : (zeroNumeral count).toDecimal = ⟨0, count % 2 ^ 32⟩ := by
    rw [DecimalNumeral.toDecimal, hdigits, hplaces]
    rfl
  rw [← hdecimal]
  exact read?_eq_some_iff.mpr ⟨zeroNumeral count, rfl, hdigits.le.trans (Nat.zero_le _), rfl⟩

/-- Of three numbers each can come before the next and the last before the first, where the first
and the last have places in common and the other one with neither; a number can be equal to a
smaller one; and zero with `2 ^ 31` places is no number once it is converted, and so is not equal to
zero. -/
theorem order_is_not_of_numbers :
    (∃ a b c : Decimal, read? "0.0017014118346046923173201".toList = some a ∧
      read? "0.00170141183460469231731687303715884105727".toList = some b ∧
      read? "0.00170141183460469231732".toList = some c ∧
      a.cmp b = .lt ∧ b.cmp c = .lt ∧ c.cmp a = .lt) ∧
    (∃ a b : Decimal, read? "17014118346046923173168730371588410573".toList = some a ∧
      read? "17014118346046923173168730371588410572.7".toList = some b ∧
      a.cmp b = .eq ∧ b.value < a.value) ∧
    ∃ a b : Decimal, read? "0".toList = some a ∧
      read? ("0.".toList ++ List.replicate (2 ^ 31) '0') = some b ∧
      a.value = b.value ∧ a.cmp b ≠ .eq := by
  refine ⟨⟨⟨17014118346046923173201, 25⟩, ⟨2 ^ 127 - 1, 41⟩, ⟨170141183460469231732, 23⟩,
    rfl, rfl, rfl, ?_, ?_, ?_⟩,
    ⟨⟨17014118346046923173168730371588410573, 0⟩, ⟨2 ^ 127 - 1, 1⟩, rfl, rfl, ?_, ?_⟩,
    ⟨⟨0, 0⟩, ⟨0, 2 ^ 31⟩, rfl, read?_zeros (2 ^ 31), ?_, ?_⟩⟩
  · decide +kernel
  · decide +kernel
  · decide +kernel
  · decide +kernel
  · norm_num [value]
  · rw [value, value, Int.cast_zero, zero_div, zero_div]
  · decide +kernel

end Decimal

end CatalogRecords.Number
