import ConstProp.Bytecode.Body
import ConstProp.Slot.Type

/-!
# Slot values

What is known about the value in a slot: its type, the instruction that produced it, and either its
content or that it cannot be told. A value that cannot be told is the result of its producer, or the
meeting of several values at a merge site. A pinned value keeps its producer in the code even if its
content is known.

Two values agree if they are the same number on the stack, the same text, or the same unknown. Their
types, their pins and the producers of known values do not matter.

Main statements: agreement is an equivalence (`agrees_refl`, `agrees_symm`, `agrees_trans`), and values
that agree are the same on the stack (`stackValue?_eq_of_agrees`).
-/

namespace ConstProp

/-- The content of a slot value. -/
inductive Payload where
  | number (value : Number)
  | text (value : String)
  /-- Whatever the producer yields. -/
  | produced
  /-- Whatever arrives at the merge site of this slot at the producer. -/
  | merged (slot : UInt32)
  deriving DecidableEq, Repr

/-- The value of a slot. -/
structure SlotValue where
  type : SlotType
  producer : Handle
  payload : Payload
  isPinned : Bool
  deriving DecidableEq, Repr

/-- The number that a constant is, or the error that it is not one. -/
def Constant.asNumber : Constant → Except Error Number
  | .number value => .ok value
  | constant => .error (.notANumber constant.kind)

namespace SlotValue

/-- A known number. -/
def ofNumber (type : SlotType) (producer : Handle) (value : Number) : SlotValue :=
  ⟨type, producer, .number value, false⟩

/-- A known text. -/
def ofText (type : SlotType) (producer : Handle) (value : String) : SlotValue :=
  ⟨type, producer, .text value, false⟩

/-- A known number or text; a class literal is neither. -/
def ofConstant (type : SlotType) (producer : Handle) (constant : Constant) :
    Except Error SlotValue :=
  match constant with
  | .text value => .ok (ofText type producer value)
  | other => other.asNumber.map (ofNumber type producer)

/-- The unknown result of an instruction. -/
def unknown (type : SlotType) (producer : Handle) (body : Body) : Except Error SlotValue :=
  match body.fetch producer with
  | .ok instruction =>
    if instruction.mayProduceValue then .ok ⟨type, producer, .produced, false⟩
    else .error (.notAStackValue instruction.shape)
  | .error error => .error error

/-- The value with its producer kept in the code. -/
def pin (value : SlotValue) : SlotValue :=
  { value with isPinned := true }

/-- The value in a slot of another type. -/
def withType (value : SlotValue) (type : SlotType) : SlotValue :=
  { value with type }

/-- How many slots the value takes. -/
def width (value : SlotValue) : Nat :=
  value.type.width

/-- Where the value was merged, if it was. -/
def mergeSite? (value : SlotValue) : Option MergeSite :=
  match value.payload with
  | .merged slot => some ⟨value.producer, slot⟩
  | _ => none

/-- Whether the content is known. -/
def isKnown (value : SlotValue) : Bool :=
  match value.payload with
  | .number _ | .text _ => true
  | .produced | .merged _ => false

/-- Whether the producer must stay in the code. -/
def isRequired (value : SlotValue) : Bool :=
  value.isPinned || !value.isKnown

/-- The instructions the value stands for. -/
def instructions (value : SlotValue) : List Handle :=
  [value.producer]

/-- The constant that loads the value onto the stack. -/
def stackValue? (value : SlotValue) : Option Constant :=
  match value.payload with
  | .number number => some (.number number.loadable)
  | .text text => some (.text text)
  | .produced | .merged _ => none

/-- Whether two values are the same for the analysis. -/
def agrees (left right : SlotValue) : Bool :=
  match left.payload, right.payload with
  | .number first, .number second => first.computational == second.computational
  | .text first, .text second => first == second
  | .produced, .produced => left.producer == right.producer
  | .merged first, .merged second => left.producer == right.producer && first == second
  | _, _ => false

/-- The text of a value. -/
def display (value : SlotValue) : String :=
  if value.type = .uninitialized then "uninitialized"
  else
    match value.payload with
    | .number number => s!"number {Constant.number number} ({value.type})"
    | .text text => s!"string {Constant.text text} ({value.type})"
    | .produced => s!"unknown {value.producer} ({value.type})"
    | .merged slot => s!"unknown merge {MergeSite.mk value.producer slot} ({value.type})"

instance : ToString SlotValue := ⟨display⟩

@[simp] theorem agrees_refl (value : SlotValue) : value.agrees value = true := by
  rcases value with ⟨type, producer, payload, isPinned⟩
  cases payload <;> simp [agrees]

theorem agrees_symm {left right : SlotValue} (same : left.agrees right = true) :
    right.agrees left = true := by
  rcases left with ⟨_, _, first, _⟩
  rcases right with ⟨_, _, second, _⟩
  cases first <;> cases second <;> simp_all [agrees]

theorem agrees_trans {first second third : SlotValue} (left : first.agrees second = true)
    (right : second.agrees third = true) : first.agrees third = true := by
  rcases first with ⟨_, _, one, _⟩
  rcases second with ⟨_, _, two, _⟩
  rcases third with ⟨_, _, three, _⟩
  cases one <;> cases two <;> cases three <;> simp_all [agrees]

/-- Values that agree have the same form on the stack. -/
theorem stackValue?_eq_of_agrees {left right : SlotValue} (same : left.agrees right = true) :
    left.stackValue?.map Constant.computational = right.stackValue?.map Constant.computational := by
  rcases left with ⟨_, _, first, _⟩
  rcases right with ⟨_, _, second, _⟩
  cases first <;> cases second <;> simp_all [agrees, stackValue?, Constant.computational]

/-- The known values are those with a stack form. -/
theorem isSome_stackValue? (value : SlotValue) : value.stackValue?.isSome = value.isKnown := by
  rcases value with ⟨_, _, payload, _⟩
  cases payload <;> rfl

end SlotValue

end ConstProp
