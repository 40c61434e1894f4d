import CatalogRecords.Number.Integer

/-!
# Binary floating-point numbers

A binary format keeps a sign and a magnitude, and the magnitude is the bit pattern of the number
without its sign: patterns grow with the numbers they stand for, from zero over the subnormal and
normal numbers to infinity. `round` gives the pattern of the number nearest to a fraction, ties to
the even pattern, in exact integer arithmetic. Reading decimals, products and quotients are
roundings of exact fractions.
-/

namespace CatalogRecords.Number

/-- A binary format: the bits of its significand, and the exponent of its smallest number. -/
structure BinaryFormat where
  precision : Nat
  leastExponent : Int
  exponentBits : Nat

namespace BinaryFormat

/-- Numbers of 32 bits. -/
def single : BinaryFormat := ⟨24, -149, 8⟩

/-- Numbers of 64 bits. -/
def double : BinaryFormat := ⟨53, -1074, 11⟩

/-- The pattern of infinity, above those of all finite numbers. -/
def infinity (f : BinaryFormat) : Nat := (twoPow f.exponentBits - 1) * twoPow (f.precision - 1)

/-- The width in hexadecimal digits of a number with its sign. -/
def hexDigits (f : BinaryFormat) : Nat := (f.precision + f.exponentBits) / 4

/-- The greatest `e` with `2 ^ e ≤ num / den`, for positive numbers. -/
def binaryExponent (num den : Nat) : Int :=
  let guess : Int := (Nat.log2 num : Int) - (Nat.log2 den : Int)
  let atLeast :=
    if 0 ≤ guess then den * twoPow guess.toNat ≤ num else den ≤ num * twoPow (-guess).toNat
  if atLeast then guess else guess - 1

/-- The quotient rounded to the nearest integer, a half to the even neighbour. -/
def roundDiv (num den : Nat) : Nat :=
  let q := num / den
  let r := num % den
  if 2 * r < den then q else if den < 2 * r then q + 1 else q + q % 2

/-- The pattern of the number nearest to `num / den`, a tie going to the even pattern. -/
def round (f : BinaryFormat) (num den : Nat) : Nat :=
  if num = 0 then 0
  else
    let unit := max (binaryExponent num den - (f.precision - 1)) f.leastExponent
    let significand :=
      if 0 ≤ unit then roundDiv num (den * twoPow unit.toNat)
      else roundDiv (num * twoPow (-unit).toNat) den
    min ((unit - f.leastExponent).toNat * twoPow (f.precision - 1) + significand) f.infinity

/-- The significand and exponent of a finite pattern: it stands for `m * 2 ^ e`. -/
def unpack (f : BinaryFormat) (pattern : Nat) : Nat × Int :=
  let half := twoPow (f.precision - 1)
  let exponent := pattern / half
  if exponent = 0 then (pattern, f.leastExponent)
  else (pattern % half + half, f.leastExponent + exponent - 1)

/-- The pattern nearest to `m * 2 ^ e / den`. -/
def roundScaled (f : BinaryFormat) (m : Nat) (e : Int) (den : Nat) : Nat :=
  if 0 ≤ e then f.round (m * twoPow e.toNat) den else f.round m (den * twoPow (-e).toNat)

/-- The product of two magnitudes, neither of them zero times infinity. -/
def mul (f : BinaryFormat) (a b : Nat) : Nat :=
  if a = f.infinity ∨ b = f.infinity then f.infinity
  else
    let (m, e) := f.unpack a
    let (n, k) := f.unpack b
    f.roundScaled (m * n) (e + k) 1

/-- The pattern of what is no number, above infinity. -/
def notNumber (f : BinaryFormat) : Nat := f.infinity + twoPow (f.precision - 2)

/-- The quotient of a finite magnitude by another magnitude. By zero it is infinity, except that
zero divided by zero is no number. -/
def div (f : BinaryFormat) (a b : Nat) : Nat :=
  if b = f.infinity then 0
  else if b = 0 then if a = 0 then f.notNumber else f.infinity
  else
    let (m, e) := f.unpack a
    let (n, k) := f.unpack b
    f.roundScaled m (e - k) n

/-- The power of a magnitude by repeated squaring, from the lowest bit of the exponent up. -/
def pow (f : BinaryFormat) (base exponent : Nat) : Nat := go base exponent (f.round 1 1)
where
  go (base exponent acc : Nat) : Nat :=
    let acc := if exponent % 2 = 1 then f.mul acc base else acc
    if _h : exponent / 2 = 0 then acc else go (f.mul base base) (exponent / 2) acc
  termination_by exponent
  decreasing_by omega

/-- The power of a magnitude for an exponent that may be negative: one divided by the power for the
opposite exponent. -/
def zpow (f : BinaryFormat) (base : Nat) (exponent : Int) : Nat :=
  let power := f.pow base exponent.natAbs
  if exponent < 0 then f.div (f.round 1 1) power else power

/-- The pattern nearest to the decimal `digits * 10 ^ exponent`. Beyond four hundred places either
way nothing depends on the exponent. -/
def ofDecimal (f : BinaryFormat) (digits : Nat) (exponent : Int) : Nat :=
  let places : Int := (Nat.log2 digits : Int) / 3 + 1 + exponent
  if digits = 0 ∨ places < -400 then 0
  else if 400 < exponent then f.infinity
  else if 0 ≤ exponent then f.round (digits * tenPow exponent.toNat) 1
  else f.round digits (tenPow (-exponent).toNat)

end BinaryFormat

/-- A signed number of some binary format: the sign and the pattern of the magnitude. -/
structure Binary where
  negative : Bool
  magnitude : Nat
  deriving DecidableEq, Repr

namespace Binary

/-- The key by which numbers compare as numbers: the two zeros are equal. -/
def key (x : Binary) : Int := if x.negative then -(x.magnitude : Int) else x.magnitude

/-- The key of the total order, in which minus zero comes just before zero. -/
def totalKey (x : Binary) : Int := if x.negative then -(x.magnitude : Int) - 1 else x.magnitude

/-- The bits of the number in hexadecimal. -/
def hex (f : BinaryFormat) (x : Binary) : String :=
  let bits := x.magnitude + if x.negative then twoPow (4 * f.hexDigits - 1) else 0
  let digits := Nat.toDigits 16 bits
  String.ofList (List.replicate (f.hexDigits - digits.length) '0' ++ digits)

end Binary

/-- The exponent part of a decimal numeral: nothing, or `e`, a sign and digits. -/
def readExponent? : List Char → Option Int
  | [] => some 0
  | e :: rest =>
    if e = 'e' ∨ e = 'E' then
      let (negative, digits) := match rest with
        | '-' :: ds => (true, ds)
        | '+' :: ds => (false, ds)
        | ds => (false, ds)
      if digits.isEmpty || !digits.all Char.isDigit then none
      else
        let value : Int := digitsValue 0 digits
        some (if negative then -value else value)
    else none

/-- Reads a decimal numeral with an optional sign, point and exponent as the nearest number of the
format. The digits may be missing on one side of the point; a number that rounds to infinity is
none of the format. -/
def readBinary? (f : BinaryFormat) (cs : List Char) : Option Binary :=
  let (negative, cs) := match cs with
    | '-' :: rest => (true, rest)
    | '+' :: rest => (false, rest)
    | rest => (false, rest)
  let whole := cs.takeWhile Char.isDigit
  let afterWhole := cs.dropWhile Char.isDigit
  let (fraction, tail) := match afterWhole with
    | '.' :: rest => (rest.takeWhile Char.isDigit, rest.dropWhile Char.isDigit)
    | rest => ([], rest)
  if whole.isEmpty && fraction.isEmpty then none
  else do
    let exponent ← readExponent? tail
    let magnitude := f.ofDecimal (digitsValue (digitsValue 0 whole) fraction)
      (exponent - fraction.length)
    if magnitude = f.infinity then none else some ⟨negative, magnitude⟩

end CatalogRecords.Number
