import ConstProp.Bytecode.Instruction

/-!
# Listings

The text of an instruction, and of a sequence of instructions with one line for each.
-/

namespace ConstProp

namespace Instruction

/-- The text of an instruction. -/
def display : Instruction → String
  | .plain opcode => opcode.mnemonic
  | .immediate opcode operand => s!"{opcode} {operand}"
  | .localVariable opcode index => s!"{opcode} {index}"
  | .typed opcode descriptor => s!"{opcode} {descriptor}"
  | .field opcode member => s!"{opcode} {member}"
  | .method opcode member _ => s!"{opcode} {member}"
  | .invokeDynamic name descriptor _ _ => s!"invokedynamic {name}{descriptor}"
  | .jump opcode target => s!"{opcode} {target}"
  | .mark label => s!"{label}:"
  | .load constant => s!"ldc {constant}"
  | .increment index amount => s!"iinc {index} {amount}"
  | .tableSwitch low high _ _ => s!"tableswitch [{low}..{high}]"
  | .lookupSwitch _ keys _ => s!"lookupswitch ({keys.length})"
  | .multiArray descriptor dimensions => s!"multianewarray {descriptor} {dimensions}"
  | .frame => "frame"
  | .line number start => s!"line {number} {start}"

instance : ToString Instruction := ⟨display⟩

/-- The text of a sequence of instructions: one line each, and no line end after the last. -/
def listing (instructions : List Instruction) : String :=
  "\n".intercalate (instructions.map display)

end Instruction

end ConstProp
