import ConstProp.Bytecode.Constant
import ConstProp.Bytecode.Descriptor

/-!
# Slot types

The static type of a slot of the operand stack or the local variables. All `int`-sized kinds are one
type here. Descriptors give the types of fields and of method results, and a type says which constants
it can hold.

Main statements: every field descriptor is read as the type of its slot (`ofDescriptor?_write`), and a
type does not tell a constant from its form on the stack or in a load (`ofConstant_computational`,
`ofConstant_loadable`).
-/

namespace ConstProp

/-- The type of a slot. -/
inductive SlotType where
  | uninitialized
  | int
  | float
  | long
  | double
  /-- A reference, with the descriptor of its class or array where that is known. -/
  | reference (descriptor : Option String)
  | returnAddress
  deriving DecidableEq, Repr, Inhabited

namespace SlotType

/-- The descriptor of the class of texts. -/
def stringDescriptor : String := "Ljava/lang/String;"

/-- The descriptor of the class of classes. -/
def classDescriptor : String := "Ljava/lang/Class;"

/-- The descriptor of the class above all others. -/
def objectDescriptor : String := "Ljava/lang/Object;"

/-- The type of texts. -/
def string : SlotType := .reference (some stringDescriptor)

/-- How many slots a value of a type takes. -/
def width : SlotType → Nat
  | .long | .double => 2
  | _ => 1

/-- Whether a type is a reference. -/
def isReference : SlotType → Bool
  | .reference _ => true
  | _ => false

/-- The text of a type. -/
def display : SlotType → String
  | .uninitialized => "."
  | .int => "I"
  | .float => "F"
  | .long => "J"
  | .double => "D"
  | .reference (some descriptor) => descriptor
  | .reference none => "R"
  | .returnAddress => "A"

instance : ToString SlotType := ⟨display⟩

/-- The type that a field descriptor gives. Base types are one letter; of a class only the first and
the last character and the presence of something between them count, of an array only that something
follows the bracket. -/
def ofDescriptor? (descriptor : String) : Option SlotType :=
  match descriptor.toList with
  | ['Z'] | ['B'] | ['C'] | ['S'] | ['I'] => some .int
  | ['F'] => some .float
  | ['J'] => some .long
  | ['D'] => some .double
  | 'L' :: rest =>
    if 2 ≤ rest.length ∧ rest.getLast? = some ';' then some (.reference (some descriptor)) else none
  | '[' :: _ :: _ => some (.reference (some descriptor))
  | _ => none

/-- The type of the slot that a value of a base type takes. -/
def ofBase : BaseType → SlotType
  | .byte | .char | .int | .short | .boolean => .int
  | .float => .float
  | .long => .long
  | .double => .double

/-- The type of the slot that a value takes whose type has a field descriptor. -/
def ofField : FieldDescriptor → SlotType
  | .base type => ofBase type
  | descriptor => .reference (some (String.ofList descriptor.write))

/-- The part of a text after the last occurrence of a character. -/
def afterLast? (mark : Char) : List Char → Option (List Char)
  | [] => none
  | char :: rest =>
    match afterLast? mark rest with
    | some tail => some tail
    | none => if char = mark then some rest else none

/-- The type of the result that a method descriptor gives, read after its last closing
parenthesis. -/
def ofReturn? (descriptor : String) : Option SlotType :=
  match afterLast? ')' descriptor.toList with
  | some result => ofDescriptor? (String.ofList result)
  | none => none

/-- The type of the slot that a number takes. -/
def ofNumber : Number → SlotType
  | .byte _ | .short _ | .int _ | .char _ | .boolean _ => .int
  | .long _ => .long
  | .float _ => .float
  | .double _ => .double

/-- The type of the slot that a constant takes. -/
def ofConstant : Constant → SlotType
  | .number value => ofNumber value
  | .text _ => .string
  | .classLiteral _ => .reference (some classDescriptor)

/-- Whether a slot of a type can hold a constant. An unspecified reference and the class above all
others can hold every constant that is a reference; any other type holds only its own. -/
def accepts (type : SlotType) (constant : Constant) : Bool :=
  match type with
  | .reference none => (ofConstant constant).isReference
  | .reference (some descriptor) =>
    if descriptor = objectDescriptor then (ofConstant constant).isReference
    else ofConstant constant == type
  | _ => ofConstant constant == type

/-- A field descriptor is read as the type of its slot. -/
@[simp] theorem ofDescriptor?_write (descriptor : FieldDescriptor) :
    ofDescriptor? (String.ofList descriptor.write) = some (ofField descriptor) := by
  cases descriptor with
  | base type =>
    cases type <;> simp [ofDescriptor?, ofField, ofBase, FieldDescriptor.write, BaseType.letter]
  | object name => simp [ofDescriptor?, ofField, FieldDescriptor.write, name.write_ne_nil]
  | array element =>
    obtain ⟨first, rest, shape⟩ := List.exists_cons_of_ne_nil element.write_ne_nil
    simp [ofDescriptor?, ofField, FieldDescriptor.write, shape]

@[simp] theorem ofConstant_computational (constant : Constant) :
    ofConstant constant.computational = ofConstant constant := by
  rcases constant with number | _ | _
  · cases number <;> rfl
  · rfl
  · rfl

@[simp] theorem ofConstant_loadable (constant : Constant) :
    ofConstant constant.loadable = ofConstant constant := by
  rcases constant with number | _ | _
  · cases number <;> rfl
  · rfl
  · rfl

/-- A slot that can hold a constant can hold every constant of the same type. -/
theorem accepts_congr (type : SlotType) {left right : Constant}
    (same : ofConstant left = ofConstant right) : type.accepts left = type.accepts right := by
  simp only [accepts, same]

end SlotType

end ConstProp
