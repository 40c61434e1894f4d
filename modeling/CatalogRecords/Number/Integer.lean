/-!
# Integers

Powers of the two bases in which numbers are kept and written, the value of decimal digits, and the
ranges of integers of some number of bits.
-/

namespace CatalogRecords.Number

/-- A power of two. -/
def twoPow (n : Nat) : Nat := Nat.pow 2 n

/-- A power of ten. -/
def tenPow (n : Nat) : Nat := Nat.pow 10 n

/-- The value of a list of decimal digits read after `value`. -/
def digitsValue (value : Nat) (digits : List Char) : Nat :=
  digits.foldl (fun n c => 10 * n + (c.toNat - '0'.toNat)) value

/-- The least and greatest values of a kind of integer. -/
structure IntegerRange where
  least : Int
  greatest : Int

/-- The range of signed integers of so many bits. -/
def IntegerRange.signed (bits : Nat) : IntegerRange :=
  ⟨-(twoPow (bits - 1) : Int), (twoPow (bits - 1) : Int) - 1⟩

/-- The range of unsigned integers of so many bits. -/
def IntegerRange.unsigned (bits : Nat) : IntegerRange := ⟨0, (twoPow bits : Int) - 1⟩

/-- Whether a number is in the range. -/
def IntegerRange.holds (r : IntegerRange) (n : Int) : Bool := r.least ≤ n && n ≤ r.greatest

/-- Whether an integer fits so many bits, with a sign or without. -/
def fitsBits (bits : Nat) (n : Int) : Bool :=
  (IntegerRange.signed bits).holds n || (IntegerRange.unsigned bits).holds n

/-- Whether the range has negative numbers, and so a minus sign. -/
def IntegerRange.isSigned (r : IntegerRange) : Bool := r.least < 0

/-- Reads an integer of the range: an optional sign and digits. Without negative numbers in the
range a minus sign is no sign. -/
def readInteger? (range : IntegerRange) (cs : List Char) : Option Int :=
  let (negative, digits) := match cs with
    | '+' :: rest => (false, rest)
    | '-' :: rest => if range.isSigned then (true, rest) else (false, cs)
    | rest => (false, rest)
  if digits.isEmpty || !digits.all Char.isDigit then none
  else
    let value : Int := digitsValue 0 digits
    let value := if negative then -value else value
    if range.holds value then some value else none

end CatalogRecords.Number
