import ConstProp.Bytecode.Body

/-!
# Expected instructions

An evaluation asks for an instruction of a sort at a handle. It fails where there is none, and the error
says whether nothing is there at all or what is there instead. That is all that can go wrong with an
expectation, whatever is made of the instruction afterwards (`Body.failsExactly_map_expect`).
-/

namespace ConstProp

namespace Instruction

/-- An instruction that reads a field. -/
def IsFieldRead (instruction : Instruction) : Prop :=
  ∃ opcode member, instruction = .field opcode member ∧
    (opcode = .getstatic ∨ opcode = .getfield)

/-- An instruction that invokes a method or goes through a dynamic call site. -/
def IsInvocation (instruction : Instruction) : Prop :=
  (∃ opcode member ofInterface, instruction = .method opcode member ofInterface) ∨
    ∃ name descriptor bootstrap arguments,
      instruction = .invokeDynamic name descriptor bootstrap arguments

/-- The field that an instruction reads. -/
def readField? : Instruction → Option Member
  | .field opcode member => if opcode.isFieldRead then some member else none
  | _ => none

/-- What an instruction invokes: a method, or a dynamic call site, which names none. -/
def invoked? : Instruction → Option (Option Member)
  | .method _ member _ => some (some member)
  | .invokeDynamic .. => some none
  | _ => none

theorem isSome_readField?_iff (instruction : Instruction) :
    instruction.readField?.isSome = true ↔ instruction.IsFieldRead := by
  cases instruction with
  | field opcode member =>
    have reads : opcode.isFieldRead = true ↔ opcode = .getstatic ∨ opcode = .getfield := by
      unfold Opcode.isFieldRead
      split <;> simp_all
    by_cases read : opcode.isFieldRead = true <;> simp_all [readField?, IsFieldRead]
  | _ => simp [readField?, IsFieldRead]

theorem isSome_invoked?_iff (instruction : Instruction) :
    instruction.invoked?.isSome = true ↔ instruction.IsInvocation := by
  cases instruction <;> simp [invoked?, IsInvocation]

/-- Field reads stand for a value on the stack. -/
theorem IsFieldRead.mayProduceValue {instruction : Instruction} (read : instruction.IsFieldRead) :
    instruction.mayProduceValue = true := by
  obtain ⟨opcode, member, rfl, _⟩ := read
  rfl

/-- Invocations stand for a value on the stack. -/
theorem IsInvocation.mayProduceValue {instruction : Instruction}
    (invocation : instruction.IsInvocation) : instruction.mayProduceValue = true := by
  obtain ⟨opcode, member, ofInterface, rfl⟩ | ⟨name, descriptor, bootstrap, arguments, rfl⟩ :=
    invocation
  · rfl
  · rfl

end Instruction

/-- What an instruction of the expected sort says, or the error that none is at the handle. -/
def Body.expect {α : Type} (body : Body) (expected : Expectation) (sort : Instruction → Option α)
    (handle : Handle) : Except Error α :=
  match body.get? handle with
  | none => .error (.instructionNotFound handle)
  | some instruction =>
    match sort instruction with
    | none => .error (.unexpectedInstruction expected instruction.shape)
    | some found => .ok found

/-- A result that is an error exactly where no suitable instruction is at the handle: the error that there
is none at all, or the error that says what is there instead. -/
structure FailsExactly {α : Type} (body : Body) (expected : Expectation)
    (suits : Instruction → Prop) (handle : Handle) (result : Except Error α) : Prop where
  missing : result = .error (.instructionNotFound handle) ↔ body.contains handle = false
  unexpected : ∀ shape, result = .error (.unexpectedInstruction expected shape) ↔
    ∃ instruction, body.get? handle = some instruction ∧ ¬ suits instruction ∧
      instruction.shape = shape
  only : ∀ error, result = .error error →
    error = .instructionNotFound handle ∨ ∃ shape, error = .unexpectedInstruction expected shape

section Expectations

variable {α β : Type} {body : Body} {expected : Expectation} {sort : Instruction → Option α}
  {handle : Handle}

theorem Body.map_expect_eq_ok_iff {make : α → β} {result : β} :
    (body.expect expected sort handle).map make = .ok result ↔
      ∃ instruction found, body.get? handle = some instruction ∧ sort instruction = some found ∧
        make found = result := by
  unfold expect
  cases body.get? handle with
  | none => simp [Except.map]
  | some instruction => cases sorted : sort instruction <;> simp [sorted, Except.map]

/-- An expectation fails exactly where no instruction of its sort is found, whatever is made of what it
finds. -/
theorem Body.failsExactly_map_expect {suits : Instruction → Prop}
    (suits_iff : ∀ instruction, (sort instruction).isSome = true ↔ suits instruction)
    (make : α → β) :
    FailsExactly body expected suits handle ((body.expect expected sort handle).map make) := by
  have present := body.isSome_get?_eq_contains handle
  cases found : body.get? handle with
  | none =>
    rw [found] at present
    refine ⟨?_, ?_, ?_⟩
    · simp [expect, found, Except.map, ← present]
    · simp [expect, found, Except.map]
    · simp [expect, found, Except.map, eq_comm]
  | some instruction =>
    rw [found] at present
    have suited := suits_iff instruction
    cases sorted : sort instruction with
    | none =>
      have unsuited : ¬ suits instruction := by
        rw [← suited, sorted]
        simp
      refine ⟨?_, ?_, ?_⟩
      · simp [expect, found, sorted, Except.map, ← present]
      · simp [expect, found, sorted, Except.map, unsuited]
      · simp [expect, found, sorted, Except.map, eq_comm]
    | some value =>
      have fits : suits instruction := by
        rw [← suited, sorted]
        rfl
      refine ⟨?_, ?_, ?_⟩
      · simp [expect, found, sorted, Except.map, ← present]
      · simp [expect, found, sorted, Except.map, fits]
      · simp [expect, found, sorted, Except.map]

end Expectations

end ConstProp
