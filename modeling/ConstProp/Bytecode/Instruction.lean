import ConstProp.Bytecode.Constant
import ConstProp.Bytecode.Label
import ConstProp.Bytecode.Member
import ConstProp.Bytecode.Opcode

/-!
# Instructions

The nodes of a method body. Most are an opcode with operands; labels, frames and line records only mark
positions. Where a node holds an opcode, any opcode is allowed, so questions about an instruction say
whether they go by its shape, by its opcode, or by both.

Main statements: mapping the labels of an instruction maps the list of labels it mentions
(`labels_mapLabels`), respects composition (`mapLabels_mapLabels`), and depends on those labels alone
(`mapLabels_congr`).
-/

namespace ConstProp

/-- The sixteen shapes of an instruction. -/
inductive Shape where
  | plain | immediate | localVariable | typed | field | method | invokeDynamic | jump | mark | load
  | increment | tableSwitch | lookupSwitch | multiArray | frame | line
  deriving DecidableEq, Repr, Inhabited

namespace Shape

/-- The name of a shape in messages. -/
def display : Shape → String
  | .plain => "insn"
  | .immediate => "int"
  | .localVariable => "var"
  | .typed => "type"
  | .field => "field"
  | .method => "method"
  | .invokeDynamic => "invoke_dynamic"
  | .jump => "jump"
  | .mark => "label"
  | .load => "ldc"
  | .increment => "iinc"
  | .tableSwitch => "table_switch"
  | .lookupSwitch => "lookup_switch"
  | .multiArray => "multi_new_array"
  | .frame => "frame"
  | .line => "line"

instance : ToString Shape := ⟨display⟩

end Shape

/-- A node of a method body. -/
inductive Instruction where
  /-- An opcode without operands. -/
  | plain (opcode : Opcode)
  /-- An opcode with an integer operand. -/
  | immediate (opcode : Opcode) (operand : Int32)
  /-- An opcode on a local variable. -/
  | localVariable (opcode : Opcode) (index : UInt16)
  /-- An opcode on a type. -/
  | typed (opcode : Opcode) (descriptor : String)
  /-- An opcode on a field. -/
  | field (opcode : Opcode) (field : Member)
  /-- A call of a method. -/
  | method (opcode : Opcode) (method : Member) (ofInterface : Bool)
  /-- A call through a dynamic call site. -/
  | invokeDynamic (name descriptor : String) (bootstrap : Member) (arguments : List Constant)
  /-- A branch to one target. -/
  | jump (opcode : Opcode) (target : Label)
  /-- The position that a label names. -/
  | mark (label : Label)
  /-- A load of a constant. -/
  | load (constant : Constant)
  /-- An addition of a fixed amount to a local variable. -/
  | increment (index : UInt16) (amount : Int32)
  /-- A branch by an index in a range. -/
  | tableSwitch (low high : Int32) (otherwise : Label) (targets : List Label)
  /-- A branch by a key. -/
  | lookupSwitch (otherwise : Label) (keys : List Int32) (targets : List Label)
  /-- An allocation of an array of arrays. -/
  | multiArray (descriptor : String) (dimensions : UInt8)
  /-- The position of a stack map frame. -/
  | frame
  /-- The source line that starts at a label. -/
  | line (number : UInt32) (start : Label)
  deriving DecidableEq, Repr, Inhabited

/-- The constant that an opcode pushes on its own. -/
def Opcode.pushed? : Opcode → Option Number
  | .iconstM1 => some (.int (-1))
  | .iconst0 => some (.int 0)
  | .iconst1 => some (.int 1)
  | .iconst2 => some (.int 2)
  | .iconst3 => some (.int 3)
  | .iconst4 => some (.int 4)
  | .iconst5 => some (.int 5)
  | .lconst0 => some (.long 0)
  | .lconst1 => some (.long 1)
  | .fconst0 => some (.float 0)
  | .fconst1 => some (.float 0x3f800000)
  | .fconst2 => some (.float 0x40000000)
  | .dconst0 => some (.double 0)
  | .dconst1 => some (.double 0x3ff0000000000000)
  | _ => none

namespace Instruction

/-- The shape of an instruction. -/
def shape : Instruction → Shape
  | .plain _ => .plain
  | .immediate .. => .immediate
  | .localVariable .. => .localVariable
  | .typed .. => .typed
  | .field .. => .field
  | .method .. => .method
  | .invokeDynamic .. => .invokeDynamic
  | .jump .. => .jump
  | .mark _ => .mark
  | .load _ => .load
  | .increment .. => .increment
  | .tableSwitch .. => .tableSwitch
  | .lookupSwitch .. => .lookupSwitch
  | .multiArray .. => .multiArray
  | .frame => .frame
  | .line .. => .line

/-- The opcode of an instruction: the one it holds, or the one its shape stands for. -/
def opcode? : Instruction → Option Opcode
  | .plain opcode | .immediate opcode _ | .localVariable opcode _ | .typed opcode _
  | .field opcode _ | .method opcode _ _ | .jump opcode _ => some opcode
  | .invokeDynamic .. => some .invokedynamic
  | .load _ => some .ldc
  | .increment .. => some .iinc
  | .tableSwitch .. => some .tableswitch
  | .lookupSwitch .. => some .lookupswitch
  | .multiArray .. => some .multianewarray
  | .mark _ | .frame | .line .. => none

/-- Whether an instruction can stand for a value on the stack, which labels and jumps cannot. -/
def mayProduceValue : Instruction → Bool
  | .mark _ | .jump .. => false
  | _ => true

/-- The field or method that an instruction is about. -/
def member? : Instruction → Option Member
  | .field _ member | .method _ member _ => some member
  | _ => none

/-- The constant that an instruction is known to push by its shape and opcode together. -/
def pushed? : Instruction → Option Constant
  | .load constant => some constant
  | .immediate opcode operand => if opcode.isImmediatePush then some (.number (.int operand)) else none
  | .plain opcode => opcode.pushed?.map .number
  | _ => none

/-- The labels that an instruction mentions, in the order of its operands. -/
def labels : Instruction → List Label
  | .jump _ target => [target]
  | .mark label => [label]
  | .tableSwitch _ _ otherwise targets => otherwise :: targets
  | .lookupSwitch otherwise _ targets => otherwise :: targets
  | .line _ start => [start]
  | _ => []

/-- Replaces every label that an instruction mentions. -/
def mapLabels (change : Label → Label) : Instruction → Instruction
  | .jump opcode target => .jump opcode (change target)
  | .mark label => .mark (change label)
  | .tableSwitch low high otherwise targets =>
    .tableSwitch low high (change otherwise) (targets.map change)
  | .lookupSwitch otherwise keys targets =>
    .lookupSwitch (change otherwise) keys (targets.map change)
  | .line number start => .line number (change start)
  | instruction => instruction

/-- The instruction for use in a method body with other labels. -/
def relabel (instruction : Instruction) (relabeling : Relabeling) : Instruction :=
  instruction.mapLabels relabeling.image

@[simp] theorem labels_mapLabels (change : Label → Label) (instruction : Instruction) :
    (instruction.mapLabels change).labels = instruction.labels.map change := by
  cases instruction <;> rfl

@[simp] theorem mapLabels_mapLabels (first second : Label → Label) (instruction : Instruction) :
    (instruction.mapLabels first).mapLabels second = instruction.mapLabels (second ∘ first) := by
  cases instruction <;> simp [mapLabels]

@[simp] theorem mapLabels_id (instruction : Instruction) : instruction.mapLabels id = instruction := by
  cases instruction <;> simp [mapLabels]

/-- Two changes that agree on the labels of an instruction have the same effect on it. -/
theorem mapLabels_congr {first second : Label → Label} {instruction : Instruction}
    (agree : ∀ label ∈ instruction.labels, first label = second label) :
    instruction.mapLabels first = instruction.mapLabels second := by
  cases instruction with
  | jump opcode target => simp [mapLabels, agree target (by simp [labels])]
  | mark label => simp [mapLabels, agree label (by simp [labels])]
  | line number start => simp [mapLabels, agree start (by simp [labels])]
  | tableSwitch low high otherwise targets =>
    simp only [mapLabels, agree otherwise (by simp [labels])]
    rw [List.map_congr_left fun label member => agree label (by simp [labels, member])]
  | lookupSwitch otherwise keys targets =>
    simp only [mapLabels, agree otherwise (by simp [labels])]
    rw [List.map_congr_left fun label member => agree label (by simp [labels, member])]
  | _ => rfl

/-- The empty relabeling changes no instruction. -/
@[simp] theorem relabel_empty (instruction : Instruction) : instruction.relabel .empty = instruction :=
  instruction.mapLabels_id

end Instruction

end ConstProp
