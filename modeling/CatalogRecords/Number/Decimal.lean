import CatalogRecords.Number.Binary
import CatalogRecords.Text.Segments

/-!
# Decimal numbers

A decimal is an integer of 128 bits and a scale: the number of digits after the point. Reading
keeps every digit that is written, and writing gives the digits back, trailing zeros included.
Decimals of different scales are compared at the larger of the two scales; when a number no longer
fits there, both are compared as binary numbers of 64 bits.

A scale is a number of 32 bits, so that a text with `2 ^ 32` digits after its point or more is read
with a smaller scale than it has digits. For the conversion to a binary number the same 32 bits are
an exponent with a sign, and a scale of `2 ^ 31` or more becomes a negative one.
-/

namespace CatalogRecords.Number

/-- The decimal `mantissa / 10 ^ scale`. -/
structure Decimal where
  mantissa : Int
  scale : Nat
  deriving Repr

namespace Decimal

/-- The greatest mantissa. -/
def greatest : Nat := twoPow 127 - 1

/-- The value as an integer of 128 bits, when it is one. -/
def fits? (value : Int) : Option Int :=
  if (IntegerRange.signed 128).holds value then some value else none

/-- Reads an optional sign and digits, with at most one point among them. The digits after the point
are counted in 32 bits. -/
def read? (cs : List Char) : Option Decimal :=
  let (negative, unsigned) := match cs with
    | '-' :: rest => (true, rest)
    | '+' :: rest => (false, rest)
    | rest => (false, rest)
  let (whole, fraction) := match Text.cutAt? (· == '.') unsigned with
    | some (whole, _, fraction) => (whole, fraction)
    | none => (unsigned, [])
  let digits := whole ++ fraction
  if digits.isEmpty || !digits.all Char.isDigit then none
  else
    let value := digitsValue 0 digits
    if value ≤ greatest then
      some ⟨if negative then -(value : Int) else value, fraction.length % twoPow 32⟩
    else none

/-- Writes the digits with a point before the last `scale` of them. -/
def render (d : Decimal) : String :=
  let digits := Nat.toDigits 10 d.mantissa.natAbs
  let sign := if d.mantissa < 0 then ['-'] else []
  if d.scale = 0 then String.ofList (sign ++ digits)
  else
    let padded := List.replicate (d.scale + 1 - digits.length) '0' ++ digits
    let whole := padded.take (padded.length - d.scale)
    let fraction := padded.drop (padded.length - d.scale)
    String.ofList (sign ++ whole ++ '.' :: fraction)

/-- The scale as an exponent: the signed number with the same 32 bits. -/
def exponent (d : Decimal) : Int := (d.scale : Int).bmod (twoPow 32)

/-- The nearest binary number of the mantissa, divided by a power of ten that is itself rounded.
What is no number has the sign set. -/
def toBinary (d : Decimal) : Binary :=
  let f := BinaryFormat.double
  let magnitude := f.div (f.round d.mantissa.natAbs 1) (f.zpow (f.round 10 1) d.exponent)
  ⟨d.mantissa < 0 || f.infinity < magnitude, magnitude⟩

/-- The mantissa at a larger scale, when the power of ten and the product both fit. -/
def rescaled? (d : Decimal) (scale : Nat) : Option Int :=
  if scale - d.scale ≤ 38 then fits? (d.mantissa * tenPow (scale - d.scale)) else none

/-- The order of two decimals. -/
def cmp (a b : Decimal) : Ordering :=
  let scale := max a.scale b.scale
  match a.rescaled? scale, b.rescaled? scale with
  | some m, some n => compare m n
  | _, _ => compare a.toBinary.totalKey b.toBinary.totalKey

end Decimal

end CatalogRecords.Number
