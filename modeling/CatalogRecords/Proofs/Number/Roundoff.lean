import CatalogRecords.Proofs.Number.Rounding
import Mathlib.Algebra.Order.Ring.Pow

/-!
# Roundings one after the other

Each rounding is a factor of at most `1 + 2 ^ (-precision)` up or down, so that a computation is as
many roundings from the exact result as it makes on the way. Products and quotients make one, and a
power by repeated squaring makes no more than it has factors, as long as all intermediate results
are normal. Numbers that are further apart than their roundings keep their order.

Beyond the normal numbers less is kept: a power of a number that is at least one is at least one, or
infinity, for every exponent. So it can be divided by, and the quotient is a number.
-/

namespace CatalogRecords.Number.BinaryFormat

variable {f : BinaryFormat}

/-- The factor of a number of roundings is not below one. -/
theorem one_le_pow_roundoff (count : Nat) : 1 ≤ (1 + f.unitRoundoff) ^ count :=
  one_le_pow₀ (by linarith [f.unitRoundoff_pos])

/-- A number is within no rounding of itself. -/
theorem Within.refl (x : ℚ) : f.Within 0 x x := by
  rw [Within, pow_zero, mul_one]
  exact ⟨le_rfl, le_rfl⟩

/-- Being within some roundings goes both ways. -/
theorem Within.symm {count : Nat} {x y : ℚ} (h : f.Within count x y) : f.Within count y x :=
  And.symm h

/-- Numbers within some roundings are within any more. -/
theorem Within.mono {m n : Nat} {x y : ℚ} (h : f.Within m x y) (hx : 0 ≤ x) (hy : 0 ≤ y)
    (hmn : m ≤ n) : f.Within n x y := by
  have hpow : (1 + f.unitRoundoff) ^ m ≤ (1 + f.unitRoundoff) ^ n :=
    pow_le_pow_right₀ (by linarith [f.unitRoundoff_pos]) hmn
  exact ⟨h.1.trans (mul_le_mul_of_nonneg_left hpow hy),
    h.2.trans (mul_le_mul_of_nonneg_left hpow hx)⟩

/-- Upper bounds in roundings add up along two steps. -/
theorem le_mul_pow_roundoff {m n : Nat} {x y z : ℚ} (hxy : x ≤ y * (1 + f.unitRoundoff) ^ m)
    (hyz : y ≤ z * (1 + f.unitRoundoff) ^ n) : x ≤ z * (1 + f.unitRoundoff) ^ (m + n) := by
  have hm := one_le_pow_roundoff (f := f) m
  calc x ≤ y * (1 + f.unitRoundoff) ^ m := hxy
    _ ≤ z * (1 + f.unitRoundoff) ^ n * (1 + f.unitRoundoff) ^ m := by gcongr
    _ = z * (1 + f.unitRoundoff) ^ (m + n) := by ring

/-- Roundings add up along two steps. -/
theorem Within.trans {m n : Nat} {x y z : ℚ} (hxy : f.Within m x y) (hyz : f.Within n y z) :
    f.Within (m + n) x z := by
  have hback := le_mul_pow_roundoff hyz.2 hxy.2
  rw [Nat.add_comm] at hback
  exact ⟨le_mul_pow_roundoff hxy.1 hyz.1, hback⟩

/-- Roundings add up in a product. -/
theorem Within.mul {m n : Nat} {x y z w : ℚ} (hxy : f.Within m x y) (hzw : f.Within n z w)
    (hx : 0 ≤ x) (hw : 0 ≤ w) : f.Within (m + n) (x * z) (y * w) := by
  have hleft : f.Within n (x * z) (x * w) := by
    have h := hzw.mul_const hx
    rwa [mul_comm z, mul_comm w] at h
  rw [Nat.add_comm]
  exact hleft.trans (hxy.mul_const hw)

/-- Numbers within some roundings have inverses within as many. -/
theorem Within.inv {count : Nat} {x y : ℚ} (h : f.Within count x y) (hx : 0 < x) (hy : 0 < y) :
    f.Within count x⁻¹ y⁻¹ := by
  refine ⟨?_, ?_⟩
  · rw [← div_eq_inv_mul, le_div_iff₀ hy, inv_mul_le_iff₀ hx]
    exact h.2
  · rw [← div_eq_inv_mul, le_div_iff₀ hx, inv_mul_le_iff₀ hy]
    exact h.1

/-- What is within some roundings of a number above zero is above zero. -/
theorem Within.pos {count : Nat} {x y : ℚ} (h : f.Within count x y) (hx : 0 < x) : 0 < y := by
  have hpow := one_le_pow_roundoff (f := f) count
  exact pos_of_mul_pos_left (hx.trans_le h.1) (by linarith)

/-- So many roundings are at most so many times the error of one, by Bernoulli's inequality. -/
theorem one_sub_mul_pow_roundoff_le (count : Nat) :
    (1 - count * f.unitRoundoff) * (1 + f.unitRoundoff) ^ count ≤ 1 := by
  have hhalf : (1 : ℚ) ≤ f.half := Nat.one_le_cast.mpr f.half_pos
  have hpos := f.unitRoundoff_pos
  have hle : f.unitRoundoff ≤ 1 := by
    rw [unitRoundoff, div_le_one (by linarith)]
    linarith
  have hbernoulli := one_add_mul_le_pow (a := -f.unitRoundoff) (by linarith) count
  calc (1 - count * f.unitRoundoff) * (1 + f.unitRoundoff) ^ count
      ≤ (1 + -f.unitRoundoff) ^ count * (1 + f.unitRoundoff) ^ count := by
        gcongr
        linarith
    _ = (1 - f.unitRoundoff ^ 2) ^ count := by
        rw [← mul_pow]
        congr 1
        ring
    _ ≤ 1 := pow_le_one₀ (by nlinarith) (by nlinarith)

/-- Few enough roundings do not double a number. -/
theorem Within.le_two_mul {count : Nat} {x y : ℚ} (h : f.Within count x y) (hy : 0 ≤ y)
    (hcount : count ≤ f.half) : x ≤ 2 * y := by
  have hhalf : (0 : ℚ) < f.half := Nat.cast_pos.mpr f.half_pos
  have hsmall : count * f.unitRoundoff ≤ 1 / 2 := by
    rw [unitRoundoff, mul_one_div, div_le_iff₀ (by linarith)]
    have hcount : (count : ℚ) ≤ f.half := Nat.cast_le.mpr hcount
    linarith
  have htwo : (1 + f.unitRoundoff) ^ count ≤ 2 := by
    have hbound := one_sub_mul_pow_roundoff_le (f := f) count
    have hpow := one_le_pow_roundoff (f := f) count
    nlinarith
  calc x ≤ y * (1 + f.unitRoundoff) ^ count := h.1
    _ ≤ y * 2 := mul_le_mul_of_nonneg_left htwo hy
    _ = 2 * y := mul_comm y 2

/-- Numbers that are further apart than their roundings keep their order. -/
theorem lt_of_within {m n : Nat} {x y v w : ℚ} (hxv : f.Within m x v) (hyw : f.Within n y w)
    (hy : 0 ≤ y) (hfar : x < y * (1 - (m + n : Nat) * f.unitRoundoff)) : v < w := by
  by_contra hge
  have hpow := one_le_pow_roundoff (f := f) (m + n)
  have hback : w ≤ x * (1 + f.unitRoundoff) ^ m := (not_lt.mp hge).trans hxv.2
  have hless : y < y := by
    calc y ≤ x * (1 + f.unitRoundoff) ^ (m + n) := by
          rw [Nat.add_comm]
          exact le_mul_pow_roundoff hyw.1 hback
      _ < y * (1 - (m + n : Nat) * f.unitRoundoff) * (1 + f.unitRoundoff) ^ (m + n) :=
          mul_lt_mul_of_pos_right hfar (by linarith)
      _ = y * ((1 - (m + n : Nat) * f.unitRoundoff) * (1 + f.unitRoundoff) ^ (m + n)) :=
          mul_assoc _ _ _
      _ ≤ y * 1 := mul_le_mul_of_nonneg_left (one_sub_mul_pow_roundoff_le (m + n)) hy
      _ = y := mul_one y
  exact lt_irrefl y hless

/-! Products, quotients and powers. -/

/-- A significand with an exponent, over a denominator, is rounded as a fraction. -/
theorem exists_roundScaled_eq {m den : Nat} (hm : 0 < m) (hden : 0 < den) (e : Int) :
    ∃ num den' : Nat, 0 < num ∧ 0 < den' ∧ (m * 2 ^ e / den : ℚ) = num / den' ∧
      f.roundScaled m e den = f.round num den' := by
  by_cases he : 0 ≤ e
  · refine ⟨m * twoPow e.toNat, den, Nat.mul_pos hm (Nat.two_pow_pos _), hden, ?_, if_pos he⟩
    rw [zpow_eq_twoPow he, ← Nat.cast_mul]
  · refine ⟨m, den * twoPow (-e).toNat, hm, Nat.mul_pos hden (Nat.two_pow_pos _), ?_, if_neg he⟩
    rw [zpow_eq_inv_twoPow he, ← div_eq_mul_inv, div_div, mul_comm, Nat.cast_mul]

/-- A normal number goes one rounding, whatever its exponent. -/
theorem roundScaled_spec (hf : 0 < f.precision) {m den : Nat} (hm : 0 < m) (hden : 0 < den)
    (e : Int) (h : f.IsNormal (m * 2 ^ e / den)) :
    f.roundScaled m e den < f.infinity ∧
      f.Within 1 (m * 2 ^ e / den) (f.valueOf (f.roundScaled m e den)) := by
  obtain ⟨num, den', hnum, hden', hfraction, hround⟩ := exists_roundScaled_eq (f := f) hm hden e
  rw [hfraction] at h ⊢
  rw [hround]
  exact round_spec hf hnum hden' h

/-- A pattern for a number that is not zero has a significand. -/
theorem significand_pos {pattern : Nat} (h : 0 < f.valueOf pattern) : 0 < (f.unpack pattern).1 := by
  rw [valueOf] at h
  exact Nat.cast_pos.mp (pos_of_mul_pos_left h (by positivity))

/-- The product of two numbers has the product of their significands and the sum of their
exponents. -/
theorem valueOf_mul_valueOf (a b : Nat) : f.valueOf a * f.valueOf b =
    ((f.unpack a).1 * (f.unpack b).1 : Nat) * 2 ^ ((f.unpack a).2 + (f.unpack b).2) /
      ((1 : Nat) : ℚ) := by
  rw [valueOf, valueOf, zpow_add₀ (by norm_num)]
  push_cast
  ring

/-- A product goes one rounding from the exact one. -/
theorem mul_spec (hf : 0 < f.precision) {a b : Nat} (ha : a < f.infinity) (hb : b < f.infinity)
    (hapos : 0 < f.valueOf a) (hbpos : 0 < f.valueOf b)
    (h : f.IsNormal (f.valueOf a * f.valueOf b)) :
    f.mul a b < f.infinity ∧ f.Within 1 (f.valueOf a * f.valueOf b) (f.valueOf (f.mul a b)) := by
  have hproduct : f.mul a b = f.roundScaled ((f.unpack a).1 * (f.unpack b).1)
      ((f.unpack a).2 + (f.unpack b).2) 1 := by
    rw [BinaryFormat.mul, if_neg (not_or.mpr ⟨ha.ne, hb.ne⟩)]
  rw [valueOf_mul_valueOf] at h ⊢
  rw [hproduct]
  exact roundScaled_spec hf (Nat.mul_pos (significand_pos hapos) (significand_pos hbpos))
    Nat.one_pos _ h

/-- By a finite number that is not zero, division rounds the exact quotient. -/
theorem div_eq_roundScaled {a b : Nat} (hb : b ≠ f.infinity) (hne : b ≠ 0) :
    f.div a b = f.roundScaled (f.unpack a).1 ((f.unpack a).2 - (f.unpack b).2) (f.unpack b).1 := by
  rw [BinaryFormat.div, if_neg hb, if_neg hne]

/-- A quotient goes one rounding from the exact one. -/
theorem div_spec (hf : 0 < f.precision) {a b : Nat} (hb : b < f.infinity)
    (hapos : 0 < f.valueOf a) (hbpos : 0 < f.valueOf b)
    (h : f.IsNormal (f.valueOf a / f.valueOf b)) :
    f.div a b < f.infinity ∧ f.Within 1 (f.valueOf a / f.valueOf b) (f.valueOf (f.div a b)) := by
  have hexact : f.valueOf a / f.valueOf b = (f.unpack a).1 *
      2 ^ ((f.unpack a).2 - (f.unpack b).2) / ((f.unpack b).1 : ℚ) := by
    rw [valueOf, valueOf, zpow_sub₀ (by norm_num)]
    field_simp
  have hne : b ≠ 0 := by
    rintro rfl
    exact hbpos.ne' f.valueOf_zero
  have hquotient := div_eq_roundScaled (a := a) hb.ne hne
  rw [hquotient, hexact]
  exact roundScaled_spec hf (significand_pos hapos) (significand_pos hbpos) _ (hexact ▸ h)

/-- Zero is rounded to zero. -/
theorem round_zero (den : Nat) : f.round 0 den = 0 := if_pos rfl

/-- Zero is divided exactly by all but zero. -/
theorem zero_div_eq {b : Nat} (hb : b ≠ 0) : f.div 0 b = 0 := by
  have hunpack : f.unpack 0 = (0, f.leastExponent) := by
    rw [unpack, Nat.zero_div, if_pos rfl]
  by_cases hinfinity : b = f.infinity
  · exact if_pos hinfinity
  · rw [div_eq_roundScaled hinfinity hb, hunpack, roundScaled, Nat.zero_mul, round_zero, round_zero,
      ite_self]

/-- Rounding gives nothing beyond infinity. -/
theorem round_le_infinity (num den : Nat) : f.round num den ≤ f.infinity := by
  rw [round]
  split
  · exact Nat.zero_le _
  · exact Nat.min_le_right _ _

/-- Only the quotient by zero can be no number. -/
theorem div_le_infinity (a : Nat) {b : Nat} (hb : b ≠ 0) : f.div a b ≤ f.infinity := by
  by_cases hinfinity : b = f.infinity
  · rw [BinaryFormat.div, if_pos hinfinity]
    exact Nat.zero_le _
  · rw [div_eq_roundScaled hinfinity hb, roundScaled]
    split <;> exact round_le_infinity _ _

/-- All that so many roundings can make of the powers of a number, up to the greatest, is
normal. -/
def PowersNormal (f : BinaryFormat) (x : ℚ) (greatest : Nat) : Prop :=
  ∀ n ≤ greatest, ∀ y, f.Within n (x ^ n) y → f.IsNormal y

/-- A finite pattern stands for a power of a number, up to so many roundings. -/
structure Approximates (f : BinaryFormat) (pattern count : Nat) (exact : ℚ) : Prop where
  finite : pattern < f.infinity
  within : f.Within count exact (f.valueOf pattern)

/-- A pattern that stands for a number exactly. -/
theorem approximates_exactly {pattern m : Nat} {e : Int} {x : ℚ} (hfinite : pattern < f.infinity)
    (hunpack : f.unpack pattern = (m, e)) (hx : m * 2 ^ e = x) : f.Approximates pattern 0 x := by
  have hvalue : f.valueOf pattern = x := by
    rw [valueOf, hunpack]
    exact hx
  refine ⟨hfinite, ?_⟩
  rw [hvalue]
  exact Within.refl x

/-- A pattern that approximates a number above zero has a value above zero. -/
theorem Approximates.pos {pattern count : Nat} {x : ℚ} (h : f.Approximates pattern count x)
    (hx : 0 < x) : 0 < f.valueOf pattern :=
  h.within.pos hx

/-- One multiplication of powers of a number. -/
theorem Approximates.mul_pow (hf : 0 < f.precision) {x : ℚ} (hx : 0 < x) {greatest : Nat}
    (hnormal : f.PowersNormal x greatest) {a b i j m n : Nat} (ha : f.Approximates a i (x ^ m))
    (hb : f.Approximates b j (x ^ n)) (hcount : i + j + 1 ≤ m + n) (hle : m + n ≤ greatest) :
    f.Approximates (f.mul a b) (i + j + 1) (x ^ (m + n)) := by
  have hapos := ha.pos (pow_pos hx m)
  have hbpos := hb.pos (pow_pos hx n)
  have hproduct : f.Within (i + j) (x ^ (m + n)) (f.valueOf a * f.valueOf b) := by
    rw [pow_add]
    exact ha.within.mul hb.within (pow_pos hx m).le hbpos.le
  have hin := hnormal (m + n) hle _
    (hproduct.mono (pow_pos hx _).le (mul_pos hapos hbpos).le (by omega))
  obtain ⟨hfinite, hwithin⟩ := mul_spec hf ha.finite hb.finite hapos hbpos hin
  exact ⟨hfinite, hproduct.trans hwithin⟩

/-- What repeated squaring keeps: the base stands for a power of the number, and the accumulator
for the factors taken so far. -/
theorem pow_go_spec (hf : 0 < f.precision) {x : ℚ} (hx : 0 < x) {greatest : Nat}
    (hnormal : f.PowersNormal x greatest) (exponent : Nat) :
    ∀ base acc weight taken, f.Approximates base weight (x ^ (weight + 1)) →
      f.Approximates acc taken (x ^ taken) → taken + (weight + 1) * exponent ≤ greatest →
      f.Approximates (pow.go f base exponent acc) (taken + (weight + 1) * exponent)
        (x ^ (taken + (weight + 1) * exponent)) := by
  induction exponent using Nat.strong_induction_on with
  | _ exponent ih =>
  intro base acc weight taken hbase hacc hle
  obtain ⟨acc', hacc'⟩ : ∃ acc', acc' = if exponent % 2 = 1 then f.mul acc base else acc :=
    ⟨_, rfl⟩
  have hmul : (weight + 1) * exponent =
      (weight + 1) * (exponent % 2) + (weight + 1) * 2 * (exponent / 2) := by
    rw [Nat.mul_assoc, ← Nat.mul_add, Nat.mod_add_div]
  have hnext : f.Approximates acc' (taken + (weight + 1) * (exponent % 2))
      (x ^ (taken + (weight + 1) * (exponent % 2))) := by
    rcases Nat.mod_two_eq_zero_or_one exponent with heven | hodd
    · rw [hacc', heven, if_neg Nat.zero_ne_one, Nat.mul_zero, Nat.add_zero]
      exact hacc
    · rw [hodd, Nat.mul_one] at hmul
      rw [hacc', hodd, if_pos rfl, Nat.mul_one]
      exact hacc.mul_pow hf hx hnormal hbase (Nat.add_assoc _ _ _).le (by omega)
  rw [pow.go, ← hacc']
  split
  · next hlast =>
    rw [hmul, hlast, Nat.mul_zero, Nat.add_zero]
    exact hnext
  · next hmore =>
    have hless : exponent / 2 < exponent := by
      omega
    have hfits : (weight + 1) * 2 ≤ (weight + 1) * 2 * (exponent / 2) :=
      Nat.le_mul_of_pos_right _ (Nat.pos_of_ne_zero hmore)
    have hsquare : f.Approximates (f.mul base base) (weight + weight + 1)
        (x ^ (weight + weight + 1 + 1)) := by
      have hdouble : weight + 1 + (weight + 1) = weight + weight + 1 + 1 := by
        omega
      rw [← hdouble]
      exact hbase.mul_pow hf hx hnormal hbase (by omega) (by omega)
    have hweight : weight + weight + 1 + 1 = (weight + 1) * 2 := by
      omega
    have hrest := ih (exponent / 2) hless _ _ _ _ hsquare hnext (by rw [hweight]; omega)
    rw [hweight, Nat.add_assoc, ← hmul] at hrest
    exact hrest

/-- A power goes no more roundings from the exact one than it has factors. -/
theorem pow_spec (hf : 0 < f.precision) {x : ℚ} (hx : 0 < x) {base exponent : Nat}
    (hnormal : f.PowersNormal x exponent) (hbase : f.Approximates base 0 x)
    (hone : f.Approximates (f.round 1 1) 0 1) :
    f.Approximates (f.pow base exponent) exponent (x ^ exponent) := by
  have hgo := pow_go_spec hf hx hnormal exponent base (f.round 1 1) 0 0
    (by rwa [Nat.zero_add, pow_one]) (by rwa [pow_zero]) (by omega)
  rwa [Nat.zero_add, Nat.one_mul] at hgo

/-! Magnitudes of at least one. -/

/-- A pattern stands for a number that is at least one, or for infinity. -/
def IsAtLeastOne (f : BinaryFormat) (pattern : Nat) : Prop :=
  pattern = f.infinity ∨ 1 ≤ f.valueOf pattern

/-- What is at least one is not zero. -/
theorem IsAtLeastOne.ne_zero (hf : 0 < f.infinity) {pattern : Nat} (h : f.IsAtLeastOne pattern) :
    pattern ≠ 0 := by
  rintro rfl
  rcases h with h | h
  · exact hf.ne h
  · rw [valueOf_zero] at h
    exact absurd h (by norm_num)

/-- Rounding does not bring a fraction that is at least one below it, if one is a normal number. -/
theorem isAtLeastOne_round (hf : 0 < f.precision)
    (hone : f.leastExponent + (f.precision - 1 : Int) ≤ 0) {num den : Nat} (hnum : 0 < num)
    (hden : 0 < den) (h : (1 : ℚ) ≤ num / den) : f.IsAtLeastOne (f.round num den) := by
  obtain ⟨hbelow, habove⟩ := binaryExponent_spec hnum hden
  -- the exponent is that of a normal number, so the significand keeps its leading bit
  have hexponent : 0 < binaryExponent num den + 1 := by
    rw [← zpow_lt_zpow_iff_right₀ one_lt_two (a := (2 : ℚ)), zpow_zero]
    exact h.trans_lt habove
  obtain ⟨k, hk⟩ := Int.eq_ofNat_of_zero_le
    (a := binaryExponent num den - (f.leastExponent + (f.precision - 1 : Int))) (by omega)
  have hk : binaryExponent num den = f.leastExponent + k + (f.precision - 1 : Int) := by
    omega
  obtain ⟨hfull, hshort⟩ := full_of_bounds hf (hk ▸ hbelow) (hk ▸ habove)
  obtain ⟨hle, hge⟩ := significand_bounds hfull hshort
    (significand_spec num hden (f.leastExponent + k))
  rw [round_eq hnum hk]
  rcases Nat.le_total f.infinity
      (k * f.half + significand num den (f.leastExponent + k)) with htop | hfinite
  · exact Or.inl (Nat.min_eq_right htop)
  · refine Or.inr ?_
    rw [Nat.min_eq_left hfinite, valueOf_mul_add f hge (Or.inr hle)]
    have hpow : (0 : ℚ) < 2 ^ (f.leastExponent + (k : Int)) := by positivity
    calc (1 : ℚ) ≤ 2 ^ binaryExponent num den := one_le_zpow₀ one_le_two (by omega)
      _ = f.half * 2 ^ (f.leastExponent + (k : Int)) := by
          rw [hk, cast_half hf, ← zpow_add₀ (by norm_num), add_comm]
      _ ≤ _ := mul_le_mul_of_nonneg_right (Nat.cast_le.mpr hle) hpow.le

/-- The product of magnitudes that are at least one is at least one. -/
theorem IsAtLeastOne.mul (hf : 0 < f.precision)
    (hone : f.leastExponent + (f.precision - 1 : Int) ≤ 0) {a b : Nat} (ha : f.IsAtLeastOne a)
    (hb : f.IsAtLeastOne b) : f.IsAtLeastOne (f.mul a b) := by
  by_cases hinfinity : a = f.infinity ∨ b = f.infinity
  · rw [BinaryFormat.mul, if_pos hinfinity]
    exact Or.inl rfl
  · have ha := ha.resolve_left fun h => hinfinity (Or.inl h)
    have hb := hb.resolve_left fun h => hinfinity (Or.inr h)
    have hpos := Nat.mul_pos (significand_pos (one_pos.trans_le ha))
      (significand_pos (one_pos.trans_le hb))
    obtain ⟨num, den, hnum, hden, hfraction, hround⟩ :=
      exists_roundScaled_eq (f := f) hpos Nat.one_pos ((f.unpack a).2 + (f.unpack b).2)
    rw [BinaryFormat.mul, if_neg hinfinity]
    dsimp only
    rw [hround]
    apply isAtLeastOne_round hf hone hnum hden
    rw [← hfraction, ← valueOf_mul_valueOf]
    exact one_le_mul_of_one_le_of_one_le ha hb

/-- Repeated squaring keeps base and accumulator at one or above. -/
theorem isAtLeastOne_pow_go (hf : 0 < f.precision)
    (hone : f.leastExponent + (f.precision - 1 : Int) ≤ 0) (exponent : Nat) :
    ∀ base acc, f.IsAtLeastOne base → f.IsAtLeastOne acc →
      f.IsAtLeastOne (pow.go f base exponent acc) := by
  induction exponent using Nat.strong_induction_on with
  | _ exponent ih =>
  intro base acc hbase hacc
  have hnext : f.IsAtLeastOne (if exponent % 2 = 1 then f.mul acc base else acc) := by
    split
    · exact hacc.mul hf hone hbase
    · exact hacc
  rw [pow.go]
  split
  · exact hnext
  · -- the next bit of the exponent, with the base squared
    next hmore => exact ih (exponent / 2) (by omega) _ _ (hbase.mul hf hone hbase) hnext

/-- A power of a magnitude that is at least one is at least one, whatever the exponent. -/
theorem IsAtLeastOne.pow (hf : 0 < f.precision)
    (hone : f.leastExponent + (f.precision - 1 : Int) ≤ 0) {base : Nat} (h : f.IsAtLeastOne base)
    (exponent : Nat) : f.IsAtLeastOne (f.pow base exponent) :=
  isAtLeastOne_pow_go hf hone exponent base _ h
    (isAtLeastOne_round hf hone Nat.one_pos Nat.one_pos (by norm_num))

end CatalogRecords.Number.BinaryFormat
