import ConstProp.Proofs.Evaluation.Answer
import ConstProp.Proofs.Evaluation.Expectation

/-!
# Constant loads

A constant load is told by its shape and its opcode together: a load of a given constant, a push of an
immediate operand, or one of the opcodes that stand for a constant of their own or for the null reference.
An evaluation as a constant goes by the opcode alone where the null reference is concerned, and any shape
with an opcode can hold that one. So a constant load is told from everything else exactly where no such
instruction stands (`Evaluator.constant_failsExactly_iff`).

Whatever the instruction, a value that comes out is what it pushes (`SlotValue.IsPushed`).
-/

namespace ConstProp

/-- The opcodes that load a constant without an operand, the null reference among them. -/
def Opcode.operandlessLoads : List Opcode :=
  [.aconstNull, .iconstM1, .iconst0, .iconst1, .iconst2, .iconst3, .iconst4, .iconst5, .lconst0, .lconst1,
   .fconst0, .fconst1, .fconst2, .dconst0, .dconst1]

theorem Opcode.mem_operandlessLoads_iff (opcode : Opcode) :
    opcode ∈ operandlessLoads ↔ opcode = .aconstNull ∨ opcode.pushed?.isSome = true := by
  unfold pushed?
  split <;> simp_all [operandlessLoads]

namespace Instruction

/-- An instruction that loads a constant or the null reference. -/
inductive IsConstantLoad : Instruction → Prop where
  | load (constant : Constant) : IsConstantLoad (.load constant)
  | immediate {opcode : Opcode} (pushes : opcode = .bipush ∨ opcode = .sipush) (operand : Int32) :
      IsConstantLoad (.immediate opcode operand)
  | operandless {opcode : Opcode} (loads : opcode ∈ Opcode.operandlessLoads) :
      IsConstantLoad (.plain opcode)

/-- An instruction that holds the opcode of the null reference beside operands, which this opcode does not
have. -/
def IsStrayNull (instruction : Instruction) : Prop :=
  instruction.opcode? = some .aconstNull ∧ instruction ≠ .plain .aconstNull

/-- What a constant load pushes: a constant, or the null reference, which is none. -/
def loaded? : Instruction → Option (Option Constant)
  | .plain .aconstNull => some none
  | instruction => instruction.pushed?.map some

theorem loaded?_of_pushed? {instruction : Instruction} {constant : Constant}
    (pushed : instruction.pushed? = some constant) : instruction.loaded? = some (some constant) := by
  unfold loaded?
  split
  · cases pushed
  · rw [pushed, Option.map_some]

theorem pushed?_of_loaded? {instruction : Instruction} {loaded : Option Constant}
    (found : instruction.loaded? = some loaded) : instruction.pushed? = loaded := by
  unfold loaded? at found
  split at found
  · cases found
    rfl
  · obtain ⟨constant, pushed, rfl⟩ := Option.map_eq_some_iff.mp found
    exact pushed

theorem isSome_loaded?_plain_iff (opcode : Opcode) :
    (plain opcode).loaded?.isSome = true ↔ opcode ∈ Opcode.operandlessLoads := by
  rw [Opcode.mem_operandlessLoads_iff]
  unfold loaded?
  split
  case h_1 null =>
    cases null
    simp
  case h_2 noNull =>
    have other : opcode ≠ .aconstNull := fun null => noNull (null ▸ rfl)
    simp [pushed?, other]

theorem isSome_loaded?_iff (instruction : Instruction) :
    instruction.loaded?.isSome = true ↔ instruction.IsConstantLoad := by
  constructor
  · intro found
    cases instruction with
    | plain opcode => exact .operandless ((isSome_loaded?_plain_iff opcode).mp found)
    | immediate opcode operand =>
      refine .immediate ?_ operand
      have pushes : opcode.isImmediatePush = true := by
        simpa [loaded?, pushed?] using found
      unfold Opcode.isImmediatePush at pushes
      split at pushes <;> simp_all
    | load constant => exact .load constant
    | _ => simp [loaded?, pushed?] at found
  · intro loads
    cases loads with
    | load constant => rfl
    | immediate pushes operand => rcases pushes with rfl | rfl <;> rfl
    | operandless loads => exact (isSome_loaded?_plain_iff _).mpr loads

/-- Where nothing is pushed and no stray null stands, the opcode of the null reference is that of a load. -/
theorem loaded?_of_pushed?_eq_none {instruction : Instruction} (nothing : instruction.pushed? = none)
    (noStray : ¬ instruction.IsStrayNull) :
    instruction.loaded? = if instruction.opcode? = some .aconstNull then some none else none := by
  unfold loaded?
  split
  case h_1 => rfl
  case h_2 other =>
    have noNull : instruction.opcode? ≠ some .aconstNull := fun null => noStray ⟨null, other⟩
    simp [nothing, noNull]

/-- Nothing is pushed by the opcode of the null reference. -/
theorem pushed?_of_opcode? {instruction : Instruction} (null : instruction.opcode? = some .aconstNull) :
    instruction.pushed? = none := by
  cases instruction with
  | plain opcode | immediate opcode operand =>
    cases null
    rfl
  | load constant => cases null
  | _ => rfl

/-- A stray null is no constant load. -/
theorem IsStrayNull.loaded?_eq_none {instruction : Instruction} (stray : instruction.IsStrayNull) :
    instruction.loaded? = none := by
  unfold loaded?
  split
  case h_1 => exact absurd rfl stray.2
  case h_2 => rw [pushed?_of_opcode? stray.1, Option.map_none]

/-- An instruction that holds an opcode stands for a value, except a jump. -/
theorem mayProduceValue_of_opcode? {instruction : Instruction} {opcode : Opcode}
    (held : instruction.opcode? = some opcode) :
    instruction.mayProduceValue = decide (instruction.shape ≠ .jump) := by
  cases instruction with
  | mark label => cases held
  | _ => rfl

/-- A constant load stands for a value on the stack. -/
theorem mayProduceValue_of_loaded? {instruction : Instruction} {loaded : Option Constant}
    (found : instruction.loaded? = some loaded) : instruction.mayProduceValue = true := by
  cases instruction with
  | mark label | jump opcode target => cases found
  | _ => rfl

end Instruction

namespace SlotValue

/-- The value that a constant load gives to a slot, of whatever type: known as for a slot that takes over
every number and text, and the unknown result of the load otherwise. -/
def ofLoaded (type : SlotType) (producer : Handle) (loaded : Option Constant) : SlotValue :=
  (ofAnswer .uninitialized producer loaded).withType type

/-- A value that an instruction puts into a slot by itself: of the type of the slot, produced by the
instruction, neither merged nor pinned, and known as the constant that it pushes if this is no class
literal. -/
structure IsPushed (type : SlotType) (producer : Handle) (pushed : Option Constant)
    (value : SlotValue) : Prop where
  type_eq : value.type = type
  producer_eq : value.producer = producer
  unmerged : value.mergeSite? = none
  unpinned : value.isPinned = false
  isKnown_iff : value.isKnown = true ↔ ∃ constant, pushed = some constant ∧ constant.kind ≠ .type
  content?_iff : ∀ constant, value.content? = some constant ↔
    pushed = some constant ∧ constant.kind ≠ .type

theorem content?_ofLoaded_eq_some_iff {type : SlotType} {producer : Handle} {loaded : Option Constant}
    {constant : Constant} :
    (ofLoaded type producer loaded).content? = some constant ↔
      loaded = some constant ∧ constant.kind ≠ .type := by
  have content : (ofLoaded type producer loaded).content? = Evaluator.adopt .uninitialized loaded :=
    content?_ofAnswer .uninitialized producer loaded
  rw [content, Evaluator.adopt_eq_some_iff, SlotType.adopts_iff]
  simp

theorem isPushed_ofLoaded (type : SlotType) (producer : Handle) (loaded : Option Constant) :
    (ofLoaded type producer loaded).IsPushed type producer loaded where
  type_eq := rfl
  producer_eq := producer_ofAnswer .uninitialized producer loaded
  unmerged := mergeSite?_ofAnswer .uninitialized producer loaded
  unpinned := isPinned_ofAnswer .uninitialized producer loaded
  isKnown_iff := by
    rw [← isSome_content?, Option.isSome_iff_exists]
    exact exists_congr fun constant => content?_ofLoaded_eq_some_iff
  content?_iff constant := content?_ofLoaded_eq_some_iff

end SlotValue

namespace Evaluator

variable {σ : Type} (evaluator : Evaluator σ) (type : SlotType) (handle : Handle)

/-- An instruction that stands for a value has an unknown result. -/
theorem unknown_of_present {instruction : Instruction}
    (present : evaluator.body.get? handle = some instruction)
    (produces : instruction.mayProduceValue = true) :
    evaluator.unknown type handle = .ok ⟨type, handle, .produced, false⟩ := by
  simp [unknown, SlotValue.unknown, Body.fetch_eq_ok_iff.mpr present, produces]

/-- Where no stray null stands, an evaluation as a constant expects a constant load and nothing more. -/
theorem constant_eq_map_expect
    (noStray : ∀ instruction, evaluator.body.get? handle = some instruction → ¬ instruction.IsStrayNull) :
    evaluator.constant type handle =
      (evaluator.body.expect .constantLoad Instruction.loaded? handle).map
        (SlotValue.ofLoaded type handle) := by
  cases found : evaluator.body.get? handle with
  | none => simp [constant, Body.fetch, Body.expect, found, Except.map]
  | some instruction =>
    cases pushed : instruction.pushed? with
    | some constant =>
      have loads := Instruction.loaded?_of_pushed? pushed
      have known := evaluator.unknown_of_present type handle found
        (Instruction.mayProduceValue_of_loaded? loads)
      simp only [Evaluator.constant, Body.fetch, Body.expect, found, pushed, loads]
      cases constant with
      | number | text => rfl
      | classLiteral name => exact known
    | none =>
      have loads := Instruction.loaded?_of_pushed?_eq_none pushed (noStray instruction found)
      simp only [Evaluator.constant, Body.fetch, Body.expect, found, pushed, loads]
      split
      case isTrue null =>
        rw [if_pos null] at loads
        exact evaluator.unknown_of_present type handle found
          (Instruction.mayProduceValue_of_loaded? loads)
      case isFalse => rfl

/-- A stray null is evaluated as an unknown value, or fails as a jump does that is taken for one. -/
theorem constant_of_isStrayNull {instruction : Instruction}
    (present : evaluator.body.get? handle = some instruction) (stray : instruction.IsStrayNull) :
    evaluator.constant type handle =
      if instruction.shape = .jump then .error (.notAStackValue .jump)
      else .ok ⟨type, handle, .produced, false⟩ := by
  have nothing := Instruction.pushed?_of_opcode? stray.1
  have produces := Instruction.mayProduceValue_of_opcode? stray.1
  simp only [constant, unknown, SlotValue.unknown, Body.fetch_eq_ok_iff.mpr present, nothing, stray.1,
    produces]
  by_cases jump : instruction.shape = .jump <;> simp [jump]

/-- Whatever the instruction, a value that comes out is what it pushes. -/
theorem isPushed_of_constant {value : SlotValue} (given : evaluator.constant type handle = .ok value) :
    ∃ instruction, evaluator.body.get? handle = some instruction ∧
      value.IsPushed type handle instruction.pushed? := by
  by_cases noStray : ∀ instruction, evaluator.body.get? handle = some instruction →
      ¬ instruction.IsStrayNull
  · rw [evaluator.constant_eq_map_expect type handle noStray, Body.map_expect_eq_ok_iff] at given
    obtain ⟨instruction, loaded, present, found, rfl⟩ := given
    rw [← Instruction.pushed?_of_loaded? found]
    exact ⟨instruction, present, SlotValue.isPushed_ofLoaded type handle _⟩
  · simp only [Classical.not_forall, Classical.not_not, exists_prop] at noStray
    obtain ⟨instruction, present, stray⟩ := noStray
    rw [evaluator.constant_of_isStrayNull type handle present stray] at given
    split at given
    · cases given
    · cases given
      refine ⟨instruction, present, ?_⟩
      rw [Instruction.pushed?_of_opcode? stray.1]
      exact SlotValue.isPushed_ofLoaded type handle none

/-- A constant load is told from everything else exactly where no stray null stands: an evaluation as a
constant fails there if no instruction is at the handle or if the one that is there loads no constant, with
the error that says so, and in no other way. A stray null gives an unknown value, in a jump another error.
Whatever the instruction, a value that comes out is what it pushes. -/
theorem constant_failsExactly_iff :
    (FailsExactly evaluator.body .constantLoad Instruction.IsConstantLoad handle
        (evaluator.constant type handle) ↔
      ∀ instruction, evaluator.body.get? handle = some instruction → ¬ instruction.IsStrayNull) ∧
    (∀ instruction, evaluator.body.get? handle = some instruction → instruction.IsStrayNull →
      evaluator.constant type handle =
        if instruction.shape = .jump then .error (.notAStackValue .jump)
        else .ok ⟨type, handle, .produced, false⟩) ∧
    ∀ value, evaluator.constant type handle = .ok value →
      ∃ instruction, evaluator.body.get? handle = some instruction ∧
        value.IsPushed type handle instruction.pushed? := by
  refine ⟨⟨?_, ?_⟩, fun _ => evaluator.constant_of_isStrayNull type handle,
    fun _ => evaluator.isPushed_of_constant type handle⟩
  · intro exactly instruction present stray
    have noLoad : ¬ instruction.IsConstantLoad := by
      rw [← Instruction.isSome_loaded?_iff, stray.loaded?_eq_none]
      simp
    have unexpected := (exactly.unexpected _).mpr ⟨instruction, present, noLoad, rfl⟩
    rw [evaluator.constant_of_isStrayNull type handle present stray] at unexpected
    split at unexpected <;> cases unexpected
  · intro noStray
    rw [evaluator.constant_eq_map_expect type handle noStray]
    exact Body.failsExactly_map_expect Instruction.isSome_loaded?_iff _

/-- A push of an immediate operand into a slot of another type, a class literal, the opcode of the null
reference on a local variable, an addition, and a handle behind the end. -/
theorem constant_failsExactly_iff_immediate :
    let misplaced : Instruction := .localVariable .aconstNull 1
    let evaluator : Evaluator Unit :=
      ⟨.ofList [.immediate .sipush 300, .load (.classLiteral "a/B"), misplaced, .plain .iadd], .silent,
        .conservative⟩
    let pushed := SlotValue.ofNumber .long ⟨0⟩ (.int 300)
    let literal : SlotValue := ⟨.reference none, ⟨1⟩, .produced, false⟩
    evaluator.constant .long ⟨0⟩ = .ok pushed ∧
      pushed.IsPushed .long ⟨0⟩ (some (.number (.int 300))) ∧
      evaluator.constant (.reference none) ⟨1⟩ = .ok literal ∧
      literal.IsPushed (.reference none) ⟨1⟩ (some (.classLiteral "a/B")) ∧
      misplaced.IsStrayNull ∧ evaluator.constant .int ⟨2⟩ = .ok ⟨.int, ⟨2⟩, .produced, false⟩ ∧
      evaluator.constant .int ⟨3⟩ = .error (.unexpectedInstruction .constantLoad .plain) ∧
      evaluator.constant .int ⟨4⟩ = .error (.instructionNotFound ⟨4⟩) := by
  intro misplaced evaluator pushed literal
  have first : evaluator.constant .long ⟨0⟩ = .ok pushed := rfl
  have second : evaluator.constant (.reference none) ⟨1⟩ = .ok literal := rfl
  obtain ⟨_, _, pushes⟩ := evaluator.constant_failsExactly_iff .long ⟨0⟩
  obtain ⟨immediate, immediatePresent, isPushed⟩ := pushes pushed first
  cases immediatePresent
  obtain ⟨_, _, loads⟩ := evaluator.constant_failsExactly_iff (.reference none) ⟨1⟩
  obtain ⟨load, loadPresent, isLiteral⟩ := loads literal second
  cases loadPresent
  have stray : misplaced.IsStrayNull := ⟨rfl, by simp [misplaced]⟩
  obtain ⟨_, strays, _⟩ := evaluator.constant_failsExactly_iff .int ⟨2⟩
  have addition : ∀ instruction, evaluator.body.get? ⟨3⟩ = some instruction →
      ¬ instruction.IsStrayNull := by
    rintro instruction present ⟨null, _⟩
    cases present
    cases null
  have behind : ∀ instruction, evaluator.body.get? ⟨4⟩ = some instruction →
      ¬ instruction.IsStrayNull := by
    intro instruction present
    cases present
  have exactly := (evaluator.constant_failsExactly_iff .int ⟨3⟩).1.mpr addition
  have missing := (evaluator.constant_failsExactly_iff .int ⟨4⟩).1.mpr behind
  have noLoad : ¬ (Instruction.plain .iadd).IsConstantLoad := by
    rw [← Instruction.isSome_loaded?_iff]
    decide
  exact ⟨first, isPushed, second, isLiteral, stray, strays misplaced rfl stray,
    (exactly.unexpected .plain).mpr ⟨_, rfl, noLoad, rfl⟩, missing.missing.mpr rfl⟩

/-- The opcode of the null reference in a jump: no constant load, but the error is that of a value that a
jump cannot stand for. -/
theorem constant_notAStackValue_of_jump :
    let jump : Instruction := .jump .aconstNull ⟨0⟩
    let evaluator : Evaluator Unit := ⟨.ofList [jump], .silent, .conservative⟩
    evaluator.body.get? ⟨0⟩ = some jump ∧ ¬ jump.IsConstantLoad ∧
      evaluator.constant (.reference none) ⟨0⟩ = .error (.notAStackValue .jump) ∧
      ¬ FailsExactly evaluator.body .constantLoad Instruction.IsConstantLoad ⟨0⟩
        (evaluator.constant (.reference none) ⟨0⟩) := by
  intro jump evaluator
  have present : evaluator.body.get? ⟨0⟩ = some jump := rfl
  have other : evaluator.constant (.reference none) ⟨0⟩ = .error (.notAStackValue .jump) := rfl
  have noLoad : ¬ (Instruction.jump .aconstNull ⟨0⟩).IsConstantLoad := by
    rintro ⟨⟩
  refine ⟨present, noLoad, other, ?_⟩
  intro exactly
  have unexpected := (exactly.unexpected .jump).mpr ⟨jump, present, noLoad, rfl⟩
  cases other.symm.trans unexpected

end Evaluator

end ConstProp
