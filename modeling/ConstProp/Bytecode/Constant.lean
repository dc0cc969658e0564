import ConstProp.Bytecode.Number
import ConstProp.Decimal.Integer
import ConstProp.Decimal.Positional
import ConstProp.Text.Escape

/-!
# Constants

What an instruction can load and a table can register: a number, a text, or a class literal. Each
constant has a text that shows its kind: a suffix letter for the numbers that need one, single quotes
for a character, double quotes for a text.
-/

namespace ConstProp

/-- A constant of a class file. -/
inductive Constant where
  | number (value : Number)
  | text (value : String)
  /-- The class object of a named class. -/
  | classLiteral (name : String)
  deriving DecidableEq, Repr, Inhabited

namespace Constant

/-- The ten kinds of constant. -/
inductive Kind where
  | byte | short | int | long | float | double | char | boolean | string | type
  deriving DecidableEq, Repr, Inhabited

namespace Kind

/-- Every kind of number. -/
def isNumeric : Kind → Bool
  | .string | .type => false
  | _ => true

/-- The kinds whose values take two slots. -/
def isWide : Kind → Bool
  | .long | .double => true
  | _ => false

/-- The name of a kind in messages. -/
def display : Kind → String
  | .byte => "byte"
  | .short => "short"
  | .int => "int"
  | .long => "long"
  | .float => "float"
  | .double => "double"
  | .char => "char"
  | .boolean => "boolean"
  | .string => "string"
  | .type => "type"

instance : ToString Kind := ⟨display⟩

end Kind

end Constant

/-- The kind of a number. -/
def Number.kind : Number → Constant.Kind
  | .byte _ => .byte
  | .short _ => .short
  | .int _ => .int
  | .long _ => .long
  | .float _ => .float
  | .double _ => .double
  | .char _ => .char
  | .boolean _ => .boolean

/-- The text of a character constant between its quotes: the escaped character, or the four
hexadecimal digits of a lone surrogate, without braces. -/
def Number.unitText (unit : UInt16) : List Char :=
  match Text.ofCode? unit.toNat with
  | some scalar => Text.Escape.encodeChar scalar
  | none => '\x5c' :: 'u' :: Nat.toDigits 16 unit.toNat

/-- The text of a number. -/
def Number.write : Number → List Char
  | .byte value => Decimal.write value.toInt ++ ['B']
  | .short value => Decimal.write value.toInt ++ ['S']
  | .int value => Decimal.write value.toInt
  | .long value => Decimal.write value.toInt ++ ['L']
  | .float bits => Decimal.BinaryFormat.single.write bits.toNat ++ ['F']
  | .double bits => Decimal.BinaryFormat.double.write bits.toNat ++ ['D']
  | .char unit => '\x27' :: (unitText unit ++ ['\x27'])
  | .boolean value => if value then ['t', 'r', 'u', 'e'] else ['f', 'a', 'l', 's', 'e']

namespace Constant

/-- The kind of a constant. -/
def kind : Constant → Kind
  | .number value => value.kind
  | .text _ => .string
  | .classLiteral _ => .type

/-- Whether a constant is a number. -/
def isNumeric (constant : Constant) : Bool :=
  constant.kind.isNumeric

/-- The form of a constant on the operand stack. -/
def computational : Constant → Constant
  | .number value => .number value.computational
  | constant => constant

/-- The form of a constant in an instruction that loads it. -/
def loadable : Constant → Constant
  | .number value => .number value.loadable
  | constant => constant

/-- The value of a constant that is held as `int` on the operand stack. -/
def toInt32? : Constant → Option Int32
  | .number value => value.toInt32?
  | _ => none

/-- The value of a constant that is held as `int` or `long` on the operand stack. -/
def toInt64? : Constant → Option Int64
  | .number value => value.toInt64?
  | _ => none

/-- The content of a text constant. -/
def toText? : Constant → Option String
  | .text value => some value
  | _ => none

/-- The characters of a constant's text. -/
def write : Constant → List Char
  | .number value => value.write
  | .text value => '\x22' :: (Text.Escape.encode value.toList ++ ['\x22'])
  | .classLiteral name => name.toList ++ ['.', 'c', 'l', 'a', 's', 's']

/-- The text of a constant in listings and messages. -/
def display (constant : Constant) : String :=
  String.ofList constant.write

instance : ToString Constant := ⟨display⟩

@[simp] theorem computational_computational (constant : Constant) :
    constant.computational.computational = constant.computational := by
  cases constant <;> simp [computational]

@[simp] theorem loadable_loadable (constant : Constant) :
    constant.loadable.loadable = constant.loadable := by
  cases constant <;> simp [loadable]

@[simp] theorem computational_loadable (constant : Constant) :
    constant.loadable.computational = constant.computational := by
  cases constant <;> simp [loadable, computational]

@[simp] theorem loadable_computational (constant : Constant) :
    constant.computational.loadable = constant.computational := by
  cases constant <;> simp [loadable, computational]

end Constant

end ConstProp
