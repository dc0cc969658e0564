import ConstProp.Bytecode.Handle
import ConstProp.Bytecode.Instruction

/-!
# Errors

Why a value cannot be built, evaluated or rebuilt, and the message for each cause.
-/

namespace ConstProp

/-- What an evaluation expects to find at a handle. -/
inductive Expectation where
  | constantLoad | fieldRead | methodInvocation
  deriving DecidableEq, Repr

/-- The name of an expectation in messages. -/
def Expectation.display : Expectation → String
  | .constantLoad => "constant load"
  | .fieldRead => "field read"
  | .methodInvocation => "method invocation"

instance : ToString Expectation := ⟨Expectation.display⟩

/-- The causes of failure. -/
inductive Error where
  /-- A constant of this kind is used as a number. -/
  | notANumber (kind : Constant.Kind)
  /-- An instruction of this shape is used as a value. -/
  | notAStackValue (shape : Shape)
  /-- No instruction has this handle. -/
  | instructionNotFound (handle : Handle)
  /-- A value that was merged at this site has no instruction that could rebuild it. -/
  | notMaterializable (site : MergeSite)
  /-- An instruction of another shape or opcode stands where one was expected. -/
  | unexpectedInstruction (expected : Expectation) (found : Shape)
  deriving DecidableEq, Repr

/-- The message for a failure. -/
def Error.message : Error → String
  | .notANumber kind => s!"Not a number - {kind}"
  | .notAStackValue shape => s!"A {shape} instruction does not produce a stack value"
  | .instructionNotFound handle => s!"Instruction {handle} not found"
  | .notMaterializable site => s!"Value merged at {site} has no producing instruction to clone"
  | .unexpectedInstruction expected found =>
    s!"Unexpected instruction - expected {expected}, found {found}"

end ConstProp
