/-!
# Binary floating-point formats

What the bits of a binary interchange format denote, and the interval of reals that round to each
finite number.
-/

namespace ConstProp.Decimal

/-- A binary interchange format: the widths of its stored significand and of its exponent. -/
structure BinaryFormat where
  fractionBits : Nat
  exponentBits : Nat
  deriving DecidableEq, Repr

/-- The 32-bit format. -/
def BinaryFormat.single : BinaryFormat := ⟨23, 8⟩

/-- The 64-bit format. -/
def BinaryFormat.double : BinaryFormat := ⟨52, 11⟩

/-- What a pattern of bits denotes. -/
inductive Datum where
  | nan
  | infinite (negative : Bool)
  /-- The number `significand * 2 ^ exponent`, with its sign. -/
  | finite (negative : Bool) (significand : Nat) (exponent : Int)
  deriving DecidableEq, Repr

namespace BinaryFormat

/-- The number of fractions, which is also the least significand with a leading one. -/
def fractionCount (format : BinaryFormat) : Nat :=
  Nat.pow 2 format.fractionBits

/-- The number of exponent fields. -/
def fieldCount (format : BinaryFormat) : Nat :=
  Nat.pow 2 format.exponentBits

/-- The exponent of the smallest positive number. -/
def minExponent (format : BinaryFormat) : Int :=
  2 - (format.fieldCount / 2 : Nat) - format.fractionBits

/-- The meaning of a pattern of bits: below the sign the exponent, below the exponent the fraction. -/
def decode (format : BinaryFormat) (bits : Nat) : Datum :=
  let fraction := bits % format.fractionCount
  let field := bits / format.fractionCount % format.fieldCount
  let negative := bits / (format.fractionCount * format.fieldCount) % 2 == 1
  if field = format.fieldCount - 1 then
    if fraction = 0 then .infinite negative else .nan
  else if field = 0 then .finite negative fraction format.minExponent
  else .finite negative (format.fractionCount + fraction) (format.minExponent + (field - 1))

end BinaryFormat

/-- A positive number and the bounds of the reals that round to it, all three counted in units of
`2 ^ exponent`; the bounds themselves round to the number when the interval is closed. -/
structure Interval where
  low : Nat
  value : Nat
  high : Nat
  isClosed : Bool
  exponent : Int
  deriving DecidableEq, Repr

/-- The reals that round to a positive number, with ties to an even significand. The gap below a
power of two is half the gap above it, except at the bottom of the format. -/
def BinaryFormat.interval (format : BinaryFormat) (significand : Nat) (exponent : Int) : Interval where
  low :=
    if significand = format.fractionCount ∧ format.minExponent < exponent then
      4 * significand - 1
    else 4 * significand - 2
  value := 4 * significand
  high := 4 * significand + 2
  isClosed := significand % 2 == 0
  exponent := exponent - 2

end ConstProp.Decimal
