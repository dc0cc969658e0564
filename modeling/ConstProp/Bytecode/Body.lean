import ConstProp.Error

/-!
# Method bodies

The instructions of a method in the order in which they were added, each addressed by its handle, and
a supply of labels. Instructions are only ever added, so a handle keeps its meaning.

Main statements: what is found after an addition (`get?_push_of_some`, `get?_push_self`).
-/

namespace ConstProp

/-- A method body: its instructions and the number of its next new label. The numbers of new labels go up
without wrapping around, which is meant for bodies whose labels are all below `2 ^ 32 - 1`. -/
structure Body where
  instructions : Array Instruction
  nextLabel : Nat
  deriving DecidableEq, Repr

/-- The least label number above the label that an instruction places; references do not count. -/
def Instruction.labelBound : Instruction → Nat
  | .mark label => label.index + 1
  | _ => 0

namespace Body

/-- The body without instructions. -/
def empty : Body := ⟨#[], 0⟩

instance : Inhabited Body := ⟨empty⟩

/-- The number of instructions. -/
def size (body : Body) : Nat :=
  body.instructions.size

/-- Whether there are no instructions. -/
def isEmpty (body : Body) : Bool :=
  body.instructions.isEmpty

/-- The handle that the next instruction gets. -/
def nextHandle (body : Body) : Handle :=
  .ofPosition body.size

/-- Adds an instruction at the end. -/
def push (body : Body) (instruction : Instruction) : Body :=
  { body with instructions := body.instructions.push instruction }

/-- Takes a label from the supply. -/
def newLabel (body : Body) : Label × Body :=
  (⟨body.nextLabel⟩, { body with nextLabel := body.nextLabel + 1 })

/-- A body with given instructions, whose new labels come after every label that they place. -/
def ofList (instructions : List Instruction) : Body where
  instructions := instructions.toArray
  nextLabel := instructions.foldl (fun bound instruction => max bound instruction.labelBound) 0

/-- The instruction at a handle. -/
def get? (body : Body) (handle : Handle) : Option Instruction :=
  body.instructions[handle.position]?

/-- The instruction at a handle, or the error that there is none. -/
def fetch (body : Body) (handle : Handle) : Except Error Instruction :=
  match body.get? handle with
  | some instruction => .ok instruction
  | none => .error (.instructionNotFound handle)

/-- Whether a handle addresses an instruction. -/
def contains (body : Body) (handle : Handle) : Bool :=
  handle.position < body.size

/-- The instructions in order, each with its handle. -/
def entries (body : Body) : List (Handle × Instruction) :=
  body.instructions.toList.zipIdx.map fun (instruction, position) =>
    (.ofPosition position, instruction)

theorem isSome_get?_eq_contains (body : Body) (handle : Handle) :
    (body.get? handle).isSome = body.contains handle := by
  by_cases inside : handle.position < body.instructions.size <;>
    simp [get?, contains, size, inside]

theorem fetch_eq_ok_iff {body : Body} {handle : Handle} {instruction : Instruction} :
    body.fetch handle = .ok instruction ↔ body.get? handle = some instruction := by
  unfold fetch
  split <;> simp_all

/-- An instruction that is present stays where it is. -/
theorem get?_push_of_some {body : Body} {handle : Handle} {present : Instruction}
    (found : body.get? handle = some present) (added : Instruction) :
    (body.push added).get? handle = some present := by
  have inside : handle.position < body.instructions.size := by
    simpa [get?] using (Array.getElem?_eq_some_iff.mp found).1
  simp only [get?, push, Array.getElem?_push_lt inside] at found ⊢
  rw [← found, Array.getElem?_eq_getElem inside]

/-- An added instruction is found at its handle. -/
theorem get?_push_self {body : Body} (small : body.size < UInt32.size) (added : Instruction) :
    (body.push added).get? body.nextHandle = some added := by
  have position : body.nextHandle.position = body.size := Handle.position_ofPosition small
  simp [get?, push, position, size]

end Body

end ConstProp
