import CatalogRecords.Number.Binary
import Mathlib.Algebra.Order.Field.Power
import Mathlib.Algebra.Order.Field.Rat
import Mathlib.Order.Monotone.Basic
import Mathlib.Tactic.FieldSimp
import Mathlib.Tactic.GCongr
import Mathlib.Tactic.Linarith
import Mathlib.Tactic.NormNum
import Mathlib.Tactic.Positivity
import Mathlib.Tactic.Ring

/-!
# How far rounding goes

A pattern stands for a number, and greater patterns for greater numbers. Within the range of normal
numbers rounding moves a number by at most half a unit in its last place, which is measured here as
one rounding: a factor of `1 + 2 ^ (-precision)` up or down. Nothing is said of subnormal numbers,
which may lose more than that, nor that no other number of the format is closer.
-/

namespace CatalogRecords.Number

/-- The powers of two that the formats count with are those of the rationals. -/
theorem cast_twoPow (n : Nat) : (twoPow n : ℚ) = 2 ^ n := Nat.cast_pow 2 n

/-- A power of two that is not below one is a whole number. -/
theorem zpow_eq_twoPow {e : Int} (he : 0 ≤ e) : (2 : ℚ) ^ e = twoPow e.toNat := by
  rw [cast_twoPow, ← zpow_natCast, Int.toNat_of_nonneg he]

/-- A power of two below one is the inverse of a whole number. -/
theorem zpow_eq_inv_twoPow {e : Int} (he : ¬0 ≤ e) : (2 : ℚ) ^ e = (twoPow (-e).toNat : ℚ)⁻¹ := by
  rw [← zpow_eq_twoPow (by omega), zpow_neg, inv_inv]

namespace BinaryFormat

variable (f : BinaryFormat)

/-! What patterns stand for. -/

/-- The number of patterns that share an exponent. -/
def half : Nat := twoPow (f.precision - 1)

/-- The least significand of a normal number is not zero. -/
theorem half_pos : 0 < f.half := Nat.two_pow_pos _

/-- The number that a finite pattern stands for. -/
def valueOf (pattern : Nat) : ℚ := (f.unpack pattern).1 * 2 ^ (f.unpack pattern).2

/-- A pattern taken apart at its exponent field: with exponent field zero the number has no leading
bit, else the leading bit is added and the exponent goes up from the least one. -/
theorem unpack_mul_add (e : Nat) {r : Nat} (hr : r < f.half) :
    f.unpack (e * f.half + r) =
      if e = 0 then (r, f.leastExponent) else (r + f.half, f.leastExponent + e - 1) := by
  have hdiv : (e * f.half + r) / f.half = e := by
    rw [Nat.mul_comm, Nat.mul_add_div f.half_pos, Nat.div_eq_of_lt hr, Nat.add_zero]
  have hmod : (e * f.half + r) % f.half = r := by
    rw [Nat.mul_comm, Nat.mul_add_mod, Nat.mod_eq_of_lt hr]
  rw [unpack, ← half, hdiv, hmod]
  split
  · next he => rw [he, Nat.zero_mul, Nat.zero_add]
  · rfl

/-- A pattern that is put together from an exponent and a significand stands for their number, also
where the significand has run over into the next exponent. -/
theorem valueOf_mul_add {k s : Nat} (hs : s ≤ 2 * f.half) (hk : k = 0 ∨ f.half ≤ s) :
    f.valueOf (k * f.half + s) = s * 2 ^ (f.leastExponent + k) := by
  rcases Nat.lt_or_ge s f.half with hsmall | hlarge
  · have hk : k = 0 := hk.resolve_right (Nat.not_le.mpr hsmall)
    rw [valueOf, unpack_mul_add f k hsmall, if_pos hk, hk]
    simp
  · rcases Nat.lt_or_eq_of_le hs with hlt | heq
    · have hsplit : k * f.half + s = (k + 1) * f.half + (s - f.half) := by
        rw [Nat.add_mul]
        omega
      have hexponent : f.leastExponent + ((k + 1 : Nat) : Int) - 1 = f.leastExponent + k := by
        omega
      rw [hsplit, valueOf, unpack_mul_add f (k + 1) (by omega), if_neg (Nat.succ_ne_zero k)]
      dsimp only
      rw [hexponent, Nat.sub_add_cancel hlarge]
    · have hsplit : k * f.half + s = (k + 2) * f.half + 0 := by
        rw [Nat.add_mul, heq, Nat.add_zero]
      have hexponent : f.leastExponent + ((k + 2 : Nat) : Int) - 1 =
          f.leastExponent + k + 1 := by
        omega
      rw [hsplit, valueOf, unpack_mul_add f (k + 2) f.half_pos, if_neg (Nat.succ_ne_zero _)]
      dsimp only
      rw [hexponent, heq, zpow_add_one₀ (by norm_num)]
      push_cast
      ring

/-- Every pattern is put together from an exponent and a significand. -/
theorem exists_eq_mul_add (pattern : Nat) :
    ∃ k s, pattern = k * f.half + s ∧ s < 2 * f.half ∧ (k = 0 ∨ f.half ≤ s) := by
  have hmod := Nat.mod_lt pattern f.half_pos
  rcases Nat.lt_or_ge pattern f.half with hsmall | hlarge
  · exact ⟨0, pattern, by omega, by omega, Or.inl rfl⟩
  · have hdiv : 0 < pattern / f.half := Nat.div_pos hlarge f.half_pos
    refine ⟨pattern / f.half - 1, pattern % f.half + f.half, ?_, by omega, Or.inr (by omega)⟩
    have hsplit := Nat.div_add_mod pattern f.half
    obtain ⟨k, hk⟩ := Nat.exists_eq_add_of_le' hdiv
    rw [hk, Nat.add_sub_cancel]
    rw [hk, Nat.mul_add, Nat.mul_one, Nat.mul_comm] at hsplit
    omega

/-- Greater patterns stand for greater numbers. -/
theorem valueOf_strictMono : StrictMono f.valueOf := by
  apply strictMono_nat_of_lt_succ
  intro pattern
  obtain ⟨k, s, rfl, hs, hk⟩ := f.exists_eq_mul_add pattern
  have hnext : k * f.half + s + 1 = k * f.half + (s + 1) := Nat.add_assoc _ _ _
  rw [hnext, valueOf_mul_add f hs.le hk, valueOf_mul_add f hs (hk.imp_right Nat.le_succ_of_le)]
  have hpow : (0 : ℚ) < 2 ^ (f.leastExponent + k) := by positivity
  push_cast
  nlinarith

/-- The pattern of zeros stands for zero. -/
theorem valueOf_zero : f.valueOf 0 = 0 := by
  have hzero := f.valueOf_mul_add (k := 0) (s := 0) (Nat.zero_le _) (Or.inl rfl)
  rwa [Nat.zero_mul, Nat.cast_zero, zero_mul] at hzero

/-! Rounding. -/

/-- A power of two is not above a fraction if the denominator, moved up, is not above the numerator,
or the numerator, moved up, not below the denominator. -/
theorem zpow_le_div_iff (num : Nat) {den : Nat} (hden : 0 < den) (e : Int) :
    (2 : ℚ) ^ e ≤ num / den ↔
      if 0 ≤ e then den * twoPow e.toNat ≤ num else den ≤ num * twoPow (-e).toNat := by
  have hden' : (0 : ℚ) < den := Nat.cast_pos.mpr hden
  rw [le_div_iff₀ hden']
  split
  · next he => rw [zpow_eq_twoPow he, mul_comm, ← Nat.cast_mul, Nat.cast_le]
  · next he =>
    have hpos : (0 : ℚ) < twoPow (-e).toNat := Nat.cast_pos.mpr (Nat.two_pow_pos _)
    rw [zpow_eq_inv_twoPow he, inv_mul_le_iff₀ hpos, mul_comm, ← Nat.cast_mul, Nat.cast_le]

/-- Two to the logarithm, rounded down, is not above the number. -/
theorem zpow_log2_le {n : Nat} (hn : 0 < n) : (2 : ℚ) ^ (Nat.log2 n : Int) ≤ n := by
  rw [zpow_natCast]
  exact_mod_cast Nat.log2_self_le hn.ne'

/-- Two to one more than the logarithm, rounded down, is above the number. -/
theorem lt_zpow_log2 (n : Nat) : (n : ℚ) < 2 ^ ((Nat.log2 n : Int) + 1) := by
  have hlt : n < 2 ^ (Nat.log2 n + 1) := Nat.lt_log2_self
  rw [← Nat.cast_succ, zpow_natCast]
  exact_mod_cast hlt

/-- The exponent of a fraction is that of the greatest power of two that is not above it. -/
theorem binaryExponent_spec {num den : Nat} (hnum : 0 < num) (hden : 0 < den) :
    (2 : ℚ) ^ binaryExponent num den ≤ num / den ∧
      (num / den : ℚ) < 2 ^ (binaryExponent num den + 1) := by
  have hden' : (0 : ℚ) < den := Nat.cast_pos.mpr hden
  have hbelow : (2 : ℚ) ^ ((Nat.log2 num : Int) - Nat.log2 den - 1) ≤ num / den := by
    rw [le_div_iff₀ hden']
    calc (2 : ℚ) ^ ((Nat.log2 num : Int) - Nat.log2 den - 1) * den
        ≤ 2 ^ ((Nat.log2 num : Int) - Nat.log2 den - 1) * 2 ^ ((Nat.log2 den : Int) + 1) := by
          gcongr
          exact (lt_zpow_log2 den).le
      _ = 2 ^ (Nat.log2 num : Int) := by
          rw [← zpow_add₀ (by norm_num)]
          congr 1
          ring
      _ ≤ num := zpow_log2_le hnum
  have habove : (num / den : ℚ) < 2 ^ ((Nat.log2 num : Int) - Nat.log2 den + 1) := by
    rw [div_lt_iff₀ hden']
    calc (num : ℚ) < 2 ^ ((Nat.log2 num : Int) + 1) := lt_zpow_log2 num
      _ = 2 ^ ((Nat.log2 num : Int) - Nat.log2 den + 1) * 2 ^ (Nat.log2 den : Int) := by
          rw [← zpow_add₀ (by norm_num)]
          congr 1
          ring
      _ ≤ 2 ^ ((Nat.log2 num : Int) - Nat.log2 den + 1) * den := by
          gcongr
          exact zpow_log2_le hden
  have hguess := zpow_le_div_iff num hden ((Nat.log2 num : Int) - Nat.log2 den)
  by_cases hle : (2 : ℚ) ^ ((Nat.log2 num : Int) - Nat.log2 den) ≤ num / den
  · have hexponent : binaryExponent num den = (Nat.log2 num : Int) - Nat.log2 den :=
      if_pos (hguess.mp hle)
    rw [hexponent]
    exact ⟨hle, habove⟩
  · have hexponent : binaryExponent num den = (Nat.log2 num : Int) - Nat.log2 den - 1 :=
      if_neg fun hatLeast => hle (hguess.mpr hatLeast)
    rw [hexponent, sub_add_cancel]
    exact ⟨hbelow, lt_of_not_ge hle⟩

/-- A quotient is rounded by at most a half. -/
theorem roundDiv_spec (num : Nat) {den : Nat} (hden : 0 < den) :
    |(roundDiv num den : ℚ) - num / den| ≤ 1 / 2 := by
  have hden' : (0 : ℚ) < den := Nat.cast_pos.mpr hden
  have hsplit : den * (num / den) + num % den = num := Nat.div_add_mod num den
  have hless : num % den < den := Nat.mod_lt num hden
  -- both bounds in integers, with the denominator multiplied out
  have hbounds : 2 * (roundDiv num den * den) ≤ 2 * num + den ∧
      2 * num ≤ 2 * (roundDiv num den * den) + den := by
    have hfloor : num / den * den = den * (num / den) := Nat.mul_comm _ _
    have hceil : (num / den + 1) * den = den * (num / den) + den := by
      rw [Nat.add_mul, Nat.one_mul, hfloor]
    unfold roundDiv
    dsimp only
    split
    · omega
    · split
      · omega
      · rcases Nat.mod_two_eq_zero_or_one (num / den) with heven | hodd
        · rw [heven, Nat.add_zero]
          omega
        · rw [hodd]
          omega
  have hnum : (num : ℚ) = num / den * den := (div_mul_cancel₀ _ hden'.ne').symm
  have hdown : (2 * roundDiv num den : ℚ) * den ≤ (2 * (num / den) + 1) * den := by
    rw [add_mul, mul_assoc, mul_assoc, ← hnum, one_mul]
    exact_mod_cast hbounds.1
  have hup : (2 * (num / den) : ℚ) * den ≤ (2 * roundDiv num den + 1) * den := by
    rw [add_mul, mul_assoc, mul_assoc, ← hnum, one_mul]
    exact_mod_cast hbounds.2
  have hdown := le_of_mul_le_mul_right hdown hden'
  have hup := le_of_mul_le_mul_right hup hden'
  rw [abs_le]
  constructor
  · linarith
  · linarith

/-- The greatest relative error of one rounding. -/
def unitRoundoff : ℚ := 1 / (2 * f.half)

/-- In every format a rounding may have an error. -/
theorem unitRoundoff_pos : 0 < f.unitRoundoff := by
  have hhalf : (0 : ℚ) < f.half := Nat.cast_pos.mpr f.half_pos
  rw [unitRoundoff]
  positivity

/-- Two numbers are at most so many roundings apart. -/
def Within (count : Nat) (x y : ℚ) : Prop :=
  x ≤ y * (1 + f.unitRoundoff) ^ count ∧ y ≤ x * (1 + f.unitRoundoff) ^ count

/-- The numbers that are rounded to normal ones, short of the greatest of these. -/
structure IsNormal (x : ℚ) : Prop where
  least : 2 ^ (f.leastExponent + (f.precision - 1 : Int)) ≤ x
  greatest : x < 2 ^ (f.leastExponent + (f.precision - 1 : Int) + (twoPow f.exponentBits - 3 : Int))

variable {f}

/-- Two numbers that are within some roundings stay so if both are multiplied by the same number. -/
theorem Within.mul_const {count : Nat} {x y c : ℚ} (h : f.Within count x y) (hc : 0 ≤ c) :
    f.Within count (x * c) (y * c) := by
  refine ⟨?_, ?_⟩
  · rw [mul_right_comm]
    exact mul_le_mul_of_nonneg_right h.1 hc
  · rw [mul_right_comm]
    exact mul_le_mul_of_nonneg_right h.2 hc

/-- A significand that is a half away from the exact one is one rounding away. -/
theorem within_one_of_abs_sub_le {x y : ℚ} (hx : f.half ≤ x) (hy : f.half ≤ y)
    (h : |y - x| ≤ 1 / 2) : f.Within 1 x y := by
  have hhalf : (0 : ℚ) < f.half := Nat.cast_pos.mpr f.half_pos
  have hunit : f.half * f.unitRoundoff = 1 / 2 := by
    rw [unitRoundoff]
    field_simp
  have hpos := f.unitRoundoff_pos.le
  have hx : 1 / 2 ≤ x * f.unitRoundoff := hunit ▸ mul_le_mul_of_nonneg_right hx hpos
  have hy : 1 / 2 ≤ y * f.unitRoundoff := hunit ▸ mul_le_mul_of_nonneg_right hy hpos
  rw [abs_le] at h
  refine ⟨?_, ?_⟩
  · rw [pow_one, mul_add, mul_one]
    linarith
  · rw [pow_one, mul_add, mul_one]
    linarith

/-- The least significand of a normal number is a power of two. -/
theorem cast_half (hf : 0 < f.precision) : (f.half : ℚ) = 2 ^ (f.precision - 1 : Int) := by
  rw [half, cast_twoPow, ← zpow_natCast, Nat.cast_sub hf, Nat.cast_one]

/-- The exponent of a normal number is in the range of exponents. -/
theorem IsNormal.exists_exponent {num den : Nat} (hnum : 0 < num) (hden : 0 < den)
    (h : f.IsNormal (num / den)) :
    ∃ k : Nat, binaryExponent num den = f.leastExponent + k + (f.precision - 1 : Int) ∧
      k + 2 < twoPow f.exponentBits - 1 := by
  obtain ⟨hbelow, habove⟩ := binaryExponent_spec hnum hden
  have hone : (1 : ℚ) < 2 := by norm_num
  have hleast := (zpow_lt_zpow_iff_right₀ hone).mp (h.least.trans_lt habove)
  have hgreatest := (zpow_lt_zpow_iff_right₀ hone).mp (hbelow.trans_lt h.greatest)
  obtain ⟨k, hk⟩ := Int.eq_ofNat_of_zero_le (Int.sub_nonneg_of_le (Int.le_of_lt_add_one hleast))
  exact ⟨k, by omega, by omega⟩

/-- The rounded number of multiples of a power of two in a fraction. -/
def significand (num den : Nat) (unit : Int) : Nat :=
  if 0 ≤ unit then roundDiv num (den * twoPow unit.toNat)
  else roundDiv (num * twoPow (-unit).toNat) den

/-- The significand is the quotient, in the unit, rounded to the nearest integer: it is off by half
a unit at most. -/
theorem significand_spec (num : Nat) {den : Nat} (hden : 0 < den) (unit : Int) :
    |(significand num den unit : ℚ) - num / den / 2 ^ unit| ≤ 1 / 2 := by
  rw [significand]
  split
  · next hunit =>
    rw [zpow_eq_twoPow hunit, div_div, ← Nat.cast_mul]
    exact roundDiv_spec num (Nat.mul_pos hden (Nat.two_pow_pos _))
  · next hunit =>
    rw [zpow_eq_inv_twoPow hunit, div_inv_eq_mul, div_mul_eq_mul_div, ← Nat.cast_mul]
    exact roundDiv_spec (num * twoPow (-unit).toNat) hden

/-- Counted in units of its last place, a normal number has a significand of full length. -/
theorem full_of_bounds (hf : 0 < f.precision) {x : ℚ} {unit : Int}
    (hbelow : 2 ^ (unit + (f.precision - 1 : Int)) ≤ x)
    (habove : x < 2 ^ (unit + (f.precision - 1 : Int) + 1)) :
    f.half ≤ x / 2 ^ unit ∧ x / 2 ^ unit < 2 * f.half := by
  have hpow : (0 : ℚ) < 2 ^ unit := by positivity
  have hexponent : unit + (f.precision - 1 : Int) + 1 = 1 + (f.precision - 1 + unit) := by
    ring
  refine ⟨?_, ?_⟩
  · rwa [le_div_iff₀ hpow, cast_half hf, ← zpow_add₀ (by norm_num), add_comm]
  · rwa [div_lt_iff₀ hpow, cast_half hf, mul_assoc, ← zpow_add₀ (by norm_num),
      ← zpow_one_add₀ (by norm_num), ← hexponent]

/-- A significand next to one of full length is of full length. -/
theorem significand_bounds {s : Nat} {y : ℚ} (hbelow : f.half ≤ y) (habove : y < 2 * f.half)
    (h : |(s : ℚ) - y| ≤ 1 / 2) : f.half ≤ s ∧ s ≤ 2 * f.half := by
  rw [abs_le] at h
  have hless : ((2 * f.half : Nat) : ℚ) < ((2 * s + 2 : Nat) : ℚ) := by
    push_cast
    linarith
  have hmore : ((2 * s : Nat) : ℚ) < ((2 * (2 * f.half) + 2 : Nat) : ℚ) := by
    push_cast
    linarith
  rw [Nat.cast_lt] at hless hmore
  omega

/-- A number in the range of exponents is put together from its exponent and its significand. -/
theorem round_eq {num den k : Nat} (hnum : 0 < num)
    (hk : binaryExponent num den = f.leastExponent + k + (f.precision - 1 : Int)) :
    f.round num den =
      min (k * f.half + significand num den (f.leastExponent + k)) f.infinity := by
  have hunit : max (binaryExponent num den - (f.precision - 1 : Int)) f.leastExponent =
      f.leastExponent + k := by
    omega
  have htoNat : (f.leastExponent + k - f.leastExponent).toNat = k := by
    omega
  rw [round, if_neg hnum.ne']
  dsimp only
  rw [hunit, htoNat]
  rfl

/-- Rounding a normal number is one rounding, and does not give infinity. -/
theorem round_spec (hf : 0 < f.precision) {num den : Nat} (hnum : 0 < num) (hden : 0 < den)
    (h : f.IsNormal (num / den)) :
    f.round num den < f.infinity ∧ f.Within 1 (num / den) (f.valueOf (f.round num den)) := by
  obtain ⟨hbelow, habove⟩ := binaryExponent_spec hnum hden
  obtain ⟨k, hk, htop⟩ := h.exists_exponent hnum hden
  rw [hk] at hbelow habove
  obtain ⟨hfull, hshort⟩ := full_of_bounds hf hbelow habove
  have hspec := significand_spec num hden (f.leastExponent + k)
  obtain ⟨hle, hge⟩ := significand_bounds hfull hshort hspec
  have hfinite : k * f.half + significand num den (f.leastExponent + k) < f.infinity := by
    calc k * f.half + significand num den (f.leastExponent + k) ≤ (k + 2) * f.half := by
          rw [Nat.add_mul]
          omega
      _ < f.infinity := Nat.mul_lt_mul_of_pos_right htop f.half_pos
  rw [round_eq hnum hk, Nat.min_eq_left hfinite.le, valueOf_mul_add f hge (Or.inr hle)]
  refine ⟨hfinite, ?_⟩
  have hpow : (0 : ℚ) < 2 ^ (f.leastExponent + (k : Int)) := by positivity
  have hwithin := (within_one_of_abs_sub_le hfull (Nat.cast_le.mpr hle) hspec).mul_const hpow.le
  rwa [div_mul_cancel₀ _ hpow.ne'] at hwithin

end BinaryFormat

end CatalogRecords.Number
