/-!
# Sixteen-bit code units

Text as a sequence of UTF-16 code units: a character of the first plane is one unit, any other
character is a pair of surrogates. The length and the polynomial hash of a text are taken over its
units.
-/

namespace ConstProp.Text

/-- The code units of one character. -/
def charUnits (char : Char) : List UInt16 :=
  if char.toNat < 0x10000 then [char.toNat.toUInt16]
  else
    let offset := char.toNat - 0x10000
    [(0xd800 + offset / 0x400).toUInt16, (0xdc00 + offset % 0x400).toUInt16]

/-- The code units of a text. -/
def units (text : List Char) : List UInt16 :=
  text.flatMap charUnits

@[simp] theorem units_nil : units [] = [] := rfl

@[simp] theorem units_cons (char : Char) (text : List Char) :
    units (char :: text) = charUnits char ++ units text := by
  simp [units]

@[simp] theorem units_append (first second : List Char) :
    units (first ++ second) = units first ++ units second := by
  simp [units]

/-- One step of the polynomial hash with base 31, in wrapping 32-bit arithmetic. -/
def hashStep (hash : Int32) (unit : UInt16) : Int32 :=
  31 * hash + Int32.ofNat unit.toNat

/-- The polynomial hash of a sequence of code units, its first unit in the highest power. -/
def unitsHash (units : List UInt16) : Int32 :=
  units.foldl hashStep 0

/-- The number of code units of a text. -/
def unitCount (text : List Char) : Nat :=
  (units text).length

@[simp] theorem unitCount_append (first second : List Char) :
    unitCount (first ++ second) = unitCount first + unitCount second := by
  simp [unitCount]

end ConstProp.Text
