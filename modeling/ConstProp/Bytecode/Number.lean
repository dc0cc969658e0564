/-!
# Number constants

The eight kinds of number a constant can be. The operand stack knows four of them; the other four are
held there as `int`. Two forms reflect this. The *computational* form is the value on the stack, where
all `int`-sized kinds are `int`. The *loadable* form is the constant to load for it, which keeps `byte`
and `short` and turns only `char` and `boolean` into `int`.

Floating-point numbers are their bits, so equality tells the zeros apart and every pattern that is not
a number equals itself.

Main statements: both forms are idempotent, and the computational form absorbs the loadable one.
-/

namespace ConstProp

/-- A number with its declared kind. -/
inductive Number where
  | byte (value : Int8)
  | short (value : Int16)
  | int (value : Int32)
  | long (value : Int64)
  /-- A 32-bit floating-point number by its bits. -/
  | float (bits : UInt32)
  /-- A 64-bit floating-point number by its bits. -/
  | double (bits : UInt64)
  /-- A character by its code unit. -/
  | char (unit : UInt16)
  | boolean (value : Bool)
  deriving DecidableEq, Repr, Inhabited

namespace Number

/-- The value of a number that is held as `int` on the operand stack. -/
def toInt32? : Number → Option Int32
  | .byte value => some value.toInt32
  | .short value => some value.toInt32
  | .int value => some value
  | .char unit => some (Int32.ofNat unit.toNat)
  | .boolean value => some (if value then 1 else 0)
  | .long _ | .float _ | .double _ => none

/-- The value of a number that is held as `int` or `long` on the operand stack. -/
def toInt64? : Number → Option Int64
  | .long value => some value
  | number => number.toInt32?.map Int32.toInt64

/-- The form of a number on the operand stack. -/
def computational (number : Number) : Number :=
  match number.toInt32? with
  | some value => .int value
  | none => number

/-- The form of a number in an instruction that loads it. -/
def loadable : Number → Number
  | .char unit => .int (Int32.ofNat unit.toNat)
  | .boolean value => .int (if value then 1 else 0)
  | number => number

@[simp] theorem computational_computational (number : Number) :
    number.computational.computational = number.computational := by
  cases number <;> rfl

@[simp] theorem loadable_loadable (number : Number) : number.loadable.loadable = number.loadable := by
  cases number <;> rfl

@[simp] theorem computational_loadable (number : Number) :
    number.loadable.computational = number.computational := by
  cases number <;> rfl

@[simp] theorem loadable_computational (number : Number) :
    number.computational.loadable = number.computational := by
  cases number <;> rfl

end Number

end ConstProp
