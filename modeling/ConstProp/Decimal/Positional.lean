import ConstProp.Decimal.Shortest

/-!
# Positional notation

Floating-point numbers as the shortest digits that read back, always in positional notation: no
exponent however large or small the number, and no fraction when it is whole.
-/

namespace ConstProp.Decimal

namespace Scaled

/-- Positional notation of a positive number: digits, and a point where the fraction starts. -/
def positional (number : Scaled) : List Char :=
  let digits := Nat.toDigits 10 number.digits
  let places := (-number.exponent).toNat
  if places = 0 then digits ++ List.replicate number.exponent.toNat '0'
  else if places < digits.length then
    digits.take (digits.length - places) ++ '.' :: digits.drop (digits.length - places)
  else '0' :: '.' :: (List.replicate (places - digits.length) '0' ++ digits)

end Scaled

/-- The mark of a negative number. -/
def signMark (negative : Bool) : List Char :=
  if negative then ['-'] else []

/-- The text of a floating-point number. All patterns that are not a number share one text. -/
def BinaryFormat.write (format : BinaryFormat) (bits : Nat) : List Char :=
  match format.decode bits with
  | .nan => ['N', 'a', 'N']
  | .infinite negative => signMark negative ++ ['i', 'n', 'f']
  | .finite negative 0 _ => signMark negative ++ ['0']
  | .finite negative significand exponent =>
    signMark negative ++ (format.interval significand exponent).shortest.positional

end ConstProp.Decimal
