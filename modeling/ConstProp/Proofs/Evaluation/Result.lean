import ConstProp.Proofs.Evaluation.Answer
import ConstProp.Proofs.Evaluation.Expectation

/-!
# Results of field reads and calls

A field read and a call look at the instruction at their handle, and whether it suits them decides alone
whether they fail (`result_fieldRead`, `result_call`). Nothing that an oracle answers can make them fail:
an answer that the slot does not take over leaves the unknown result of the instruction.

So each value that comes out has the shape that its slot asks for, and it is pinned only where a call has
to stay because an oracle and not an intrinsic method knew its result (`evaluation_well_shaped`).
-/

namespace ConstProp

namespace Evaluator

variable {σ : Type} (evaluator : Evaluator σ) (type : SlotType) (handle : Handle)

/-- The answer of the oracle to a query, if it may be asked. -/
def oracleAnswer (query : Query) (store : Store σ) : Resolution :=
  if evaluator.policy.consultOracle then (evaluator.oracle.ask query store).answer else none

/-- The value of a call that was left to the oracle: a known one is pinned unless calls are taken for
pure. -/
def fromOracle (value : SlotValue) : SlotValue :=
  if value.isKnown then evaluator.oracleResult value else value

/-- A value from the oracle keeps all but its pin. -/
theorem fromOracle_eq (value : SlotValue) :
    evaluator.fromOracle value = { value with
      isPinned := value.isPinned || value.isKnown && !evaluator.policy.assumePureCalls } := by
  unfold fromOracle oracleResult
  cases value.isKnown <;> cases evaluator.policy.assumePureCalls <;> simp [SlotValue.pin]

/-- The value of a call of a method: what the intrinsic methods know of it if the slot takes that over,
and otherwise what the oracle knows, which keeps the call in the code unless calls are taken for pure. -/
def methodValue (method : Member) (arguments : List SlotValue) (store : Store σ) : SlotValue :=
  let query := Query.call type method arguments
  let folded := SlotValue.ofAnswer type handle (evaluator.foldedAnswer query)
  let found := SlotValue.ofAnswer type handle (evaluator.oracleAnswer query store)
  if folded.isKnown then folded else evaluator.fromOracle found

/-- The value of an invocation: nothing is known of a dynamic call site. -/
def invocationValue (invoked : Option Member) (arguments : List SlotValue) (store : Store σ) :
    SlotValue :=
  match invoked with
  | some method => evaluator.methodValue type handle method arguments store
  | none => SlotValue.ofAnswer type handle none

/-- A field read gives a value wherever a field read stands. -/
theorem result_fieldRead (store : Store σ) :
    (evaluator.fieldRead type handle store).result =
      (evaluator.body.expect .fieldRead Instruction.readField? handle).map
        fun field =>
          SlotValue.ofAnswer type handle (evaluator.oracleAnswer (.field type field) store) := by
  unfold fieldRead Body.expect Body.fetch
  cases present : evaluator.body.get? handle with
  | none => rfl
  | some instruction =>
    cases instruction with
    | field opcode field =>
      have produces : (Instruction.field opcode field).mayProduceValue = true := rfl
      by_cases reads : opcode.isFieldRead = true
      · by_cases consults : evaluator.policy.consultOracle = true
        · simp only [reads, consults, if_true, lookUpField, Instruction.readField?, oracleAnswer,
            Except.map]
          split
          case h_1 constant adopted => exact SlotValue.ofConstant_of_adopt adopted handle
          case h_2 rejected => exact SlotValue.unknown_of_adopt rejected present produces
        · simp only [reads, consults, if_true, if_false, Instruction.readField?, oracleAnswer,
            Except.map, Bool.false_eq_true]
          exact SlotValue.unknown_of_adopt rfl present produces
      · simp [reads, Instruction.readField?, Except.map, Instruction.shape]
    | _ => rfl

/-- Looking up a call gives a value wherever an instruction may produce one. -/
theorem result_lookUpCall {instruction : Instruction}
    (present : evaluator.body.get? handle = some instruction)
    (produces : instruction.mayProduceValue = true) (method : Member)
    (arguments : List SlotValue) (store : Store σ) :
    let found := SlotValue.ofAnswer type handle
      (evaluator.oracle.ask (.call type method arguments) store).answer
    (evaluator.lookUpCall type handle method arguments store).result =
      .ok (evaluator.fromOracle found) := by
  intro found
  simp only [lookUpCall, fromOracle]
  split
  case h_1 rejected =>
    have unknown : found.isKnown = false := by
      rw [SlotValue.isKnown_ofAnswer, rejected]
      rfl
    rw [unknown]
    exact SlotValue.unknown_of_adopt rejected present produces
  case h_2 constant adopted =>
    have known : found.isKnown = true := by
      rw [SlotValue.isKnown_ofAnswer, adopted]
      rfl
    rw [SlotValue.ofConstant_of_adopt adopted handle, known]
    rfl

/-- Invoking a method gives a value wherever an instruction may produce one. -/
theorem result_invoke {instruction : Instruction}
    (present : evaluator.body.get? handle = some instruction)
    (produces : instruction.mayProduceValue = true) (method : Member)
    (arguments : List SlotValue) (store : Store σ) :
    (evaluator.invoke type handle method arguments store).result =
      .ok (evaluator.methodValue type handle method arguments store) := by
  simp only [invoke, methodValue, SlotValue.isKnown_ofAnswer]
  split
  case h_1 constant adopted =>
    rw [adopted]
    exact SlotValue.ofConstant_of_adopt adopted handle
  case h_2 rejected =>
    rw [rejected]
    by_cases consults : evaluator.policy.consultOracle = true
    · have lookUp := result_lookUpCall evaluator type handle present produces method arguments store
      simpa [consults, oracleAnswer, SlotValue.isKnown_ofAnswer] using lookUp
    · have unknown : evaluator.unknown type handle = .ok (.ofAnswer type handle none) :=
        SlotValue.unknown_of_adopt rfl present produces
      have unpinned : evaluator.fromOracle (.ofAnswer type handle none) = .ofAnswer type handle none :=
        rfl
      simpa [consults, oracleAnswer, adopt, unpinned] using unknown

/-- A call of a method invokes it. -/
theorem call_of_method {opcode : Opcode} {method : Member} {ofInterface : Bool}
    (present : evaluator.body.get? handle = some (.method opcode method ofInterface))
    (arguments : List SlotValue) (store : Store σ) :
    evaluator.call type handle arguments store =
      evaluator.invoke type handle method arguments store := by
  simp only [call, Body.fetch_eq_ok_iff.mpr present]

/-- A call gives a value wherever an invocation stands. -/
theorem result_call (arguments : List SlotValue) (store : Store σ) :
    (evaluator.call type handle arguments store).result =
      (evaluator.body.expect .methodInvocation Instruction.invoked? handle).map
        fun invoked => evaluator.invocationValue type handle invoked arguments store := by
  unfold call Body.expect Body.fetch
  cases present : evaluator.body.get? handle with
  | none => rfl
  | some instruction =>
    cases instruction with
    | method opcode method ofInterface =>
      exact result_invoke evaluator type handle present rfl method arguments store
    | invokeDynamic name descriptor bootstrap constants =>
      have unknown : evaluator.unknown type handle = .ok (.ofAnswer type handle none) :=
        SlotValue.unknown_of_adopt rfl present rfl
      exact unknown
    | _ => rfl

/-- A field read asks the oracle at most one query. -/
theorem store_fieldRead (store : Store σ) :
    (evaluator.fieldRead type handle store).store = store ∨
      ∃ query, (evaluator.fieldRead type handle store).store =
        (evaluator.oracle.ask query store).store := by
  unfold fieldRead
  split
  case h_1 => exact Or.inl rfl
  case h_2 opcode field _ =>
    split
    · split
      · refine Or.inr ⟨.field type field, ?_⟩
        simp only [lookUpField]
        split <;> rfl
      · exact Or.inl rfl
    · exact Or.inl rfl
  case h_3 => exact Or.inl rfl

/-- A call of a method asks the oracle, if it may be asked, exactly where the slot takes over nothing from
the intrinsic methods, and then the query of the call itself and no other. -/
theorem store_invoke (method : Member) (arguments : List SlotValue) (store : Store σ) :
    let query := Query.call type method arguments
    (evaluator.invoke type handle method arguments store).store =
      if (adopt type (evaluator.foldedAnswer query)).isNone && evaluator.policy.consultOracle then
        (evaluator.oracle.ask query store).store
      else store := by
  intro query
  simp only [invoke]
  cases adopt type (evaluator.foldedAnswer query) with
  | some constant => simp
  | none =>
    by_cases consults : evaluator.policy.consultOracle = true
    · simp only [consults, lookUpCall, Option.isNone_none, Bool.and_self, if_true]
      split
      · rfl
      · split <;> rfl
    · simp [consults]

/-- A call asks the oracle at most one query. -/
theorem store_call (arguments : List SlotValue) (store : Store σ) :
    (evaluator.call type handle arguments store).store = store ∨
      ∃ query, (evaluator.call type handle arguments store).store =
        (evaluator.oracle.ask query store).store := by
  unfold call
  split
  case h_2 opcode method ofInterface _ =>
    rw [store_invoke]
    split
    · exact Or.inr ⟨_, rfl⟩
    · exact Or.inl rfl
  all_goals exact Or.inl rfl

/-- A dynamic call site gives an unknown value, and nobody is asked about it. -/
theorem call_of_invokeDynamic {name descriptor : String} {bootstrap : Member}
    {constants : List Constant}
    (present : evaluator.body.get? handle =
      some (.invokeDynamic name descriptor bootstrap constants))
    (arguments : List SlotValue) (store : Store σ) :
    evaluator.call type handle arguments store =
      ⟨.ok ⟨type, handle, .produced, false⟩, store, []⟩ := by
  have unknown : evaluator.unknown type handle = .ok (.ofAnswer type handle none) :=
    SlotValue.unknown_of_adopt rfl present rfl
  simp only [call, Body.fetch_eq_ok_iff.mpr present, unknown]
  rfl

/-- The oracle gives the value of a call of the method at a handle: what the intrinsic methods answer, if
they may, is not taken over, and the answer of the oracle is what is known of the value. -/
def AnsweredByOracle (arguments : List SlotValue) (store : Store σ) (value : SlotValue) : Prop :=
  ∃ opcode method ofInterface, evaluator.body.get? handle = some (.method opcode method ofInterface) ∧
    adopt type (evaluator.foldedAnswer (.call type method arguments)) = none ∧
    evaluator.policy.consultOracle = true ∧
    value.content? = (evaluator.oracle.ask (.call type method arguments) store).answer

section Values

variable {evaluator} {type} {handle}

theorem wellShaped_methodValue (method : Member) (arguments : List SlotValue) (store : Store σ) :
    (evaluator.methodValue type handle method arguments store).WellShaped type handle := by
  simp only [methodValue, fromOracle, oracleResult]
  split
  · exact SlotValue.wellShaped_ofAnswer type handle _
  · split
    · split
      · exact SlotValue.wellShaped_ofAnswer type handle _
      · exact (SlotValue.wellShaped_ofAnswer type handle _).pin
    · exact SlotValue.wellShaped_ofAnswer type handle _

theorem wellShaped_invocationValue (invoked : Option Member) (arguments : List SlotValue)
    (store : Store σ) :
    (evaluator.invocationValue type handle invoked arguments store).WellShaped type handle := by
  cases invoked with
  | none => exact SlotValue.wellShaped_ofAnswer type handle none
  | some method => exact wellShaped_methodValue method arguments store

/-- What is known of the value of a method call is what the slot takes over from the intrinsic methods or
else from the oracle. -/
theorem content?_methodValue (method : Member) (arguments : List SlotValue) (store : Store σ) :
    (evaluator.methodValue type handle method arguments store).content? =
      (adopt type (evaluator.foldedAnswer (.call type method arguments))).or
        (adopt type (evaluator.oracleAnswer (.call type method arguments) store)) := by
  simp only [methodValue, fromOracle, oracleResult, SlotValue.isKnown_ofAnswer]
  cases folded : adopt type (evaluator.foldedAnswer (.call type method arguments)) with
  | some constant => simp [folded]
  | none =>
    simp only [Option.isSome_none, Bool.false_eq_true, if_false, Option.none_or]
    split
    · split
      · exact SlotValue.content?_ofAnswer type handle _
      · exact SlotValue.content?_ofAnswer type handle _
    · exact SlotValue.content?_ofAnswer type handle _

/-- The value of a method call is pinned if the intrinsic methods do not give it, the oracle does, and
calls are not taken for pure. -/
theorem isPinned_methodValue_iff (method : Member) (arguments : List SlotValue) (store : Store σ) :
    (evaluator.methodValue type handle method arguments store).isPinned = true ↔
      adopt type (evaluator.foldedAnswer (.call type method arguments)) = none ∧
        (adopt type (evaluator.oracleAnswer (.call type method arguments) store)).isSome = true ∧
        evaluator.policy.assumePureCalls = false := by
  simp only [methodValue, fromOracle, oracleResult, SlotValue.isKnown_ofAnswer]
  cases adopt type (evaluator.foldedAnswer (.call type method arguments)) with
  | some constant => simp
  | none =>
    cases adopt type (evaluator.oracleAnswer (.call type method arguments) store) with
    | none => simp
    | some constant => cases evaluator.policy.assumePureCalls <;> simp [SlotValue.pin]

/-- The value of a method call is pinned exactly if it is known, from the oracle, and calls are not taken
for pure. -/
theorem isPinned_methodValue_iff_answeredByOracle {opcode : Opcode} {method : Member}
    {ofInterface : Bool}
    (present : evaluator.body.get? handle = some (.method opcode method ofInterface))
    (arguments : List SlotValue) (store : Store σ) :
    let value := evaluator.methodValue type handle method arguments store
    value.isPinned = true ↔
      value.isKnown = true ∧ evaluator.AnsweredByOracle type handle arguments store value ∧
        evaluator.policy.assumePureCalls = false := by
  intro value
  have content : value.content? = _ := content?_methodValue method arguments store
  rw [isPinned_methodValue_iff, ← SlotValue.isSome_content?]
  constructor
  · rintro ⟨notFolded, found, impure⟩
    rw [notFolded, Option.none_or] at content
    obtain ⟨constant, adopted⟩ := Option.isSome_iff_exists.mp found
    have answer := (adopt_eq_some_iff.mp adopted).1
    have consults : evaluator.policy.consultOracle = true := by
      rw [oracleAnswer] at answer
      split at answer
      case isTrue consults => exact consults
      case isFalse => cases answer
    rw [oracleAnswer, if_pos consults] at answer
    refine ⟨by rw [content, adopted]; rfl, ?_, impure⟩
    exact ⟨opcode, method, ofInterface, present, notFolded, consults, by rw [content, adopted, answer]⟩
  · rintro ⟨known, ⟨_, called, _, calledPresent, notFolded, _, _⟩, impure⟩
    cases present.symm.trans calledPresent
    rw [content, notFolded, Option.none_or] at known
    exact ⟨notFolded, known, impure⟩

end Values

/-- Whatever an oracle answers, field reads and calls fail only where no such instruction stands, and with
the error that says so. Each value that they give has the shape that its slot asks for. A field read gives
no pinned value, and a call gives one exactly if it is known, the oracle and not an intrinsic method gave
it, and calls are not taken for pure. Of a dynamic call site nothing is known, and neither the intrinsic
methods nor the oracle are asked about it: the store is left as it is, and nothing is reported. -/
theorem evaluation_well_shaped (arguments : List SlotValue) (store : Store σ) :
    FailsExactly evaluator.body .fieldRead Instruction.IsFieldRead handle
      (evaluator.fieldRead type handle store).result ∧
    FailsExactly evaluator.body .methodInvocation Instruction.IsInvocation handle
      (evaluator.call type handle arguments store).result ∧
    (∀ value, (evaluator.fieldRead type handle store).result = .ok value →
      value.WellShaped type handle ∧ value.isPinned = false) ∧
    (∀ value, (evaluator.call type handle arguments store).result = .ok value →
      value.WellShaped type handle ∧
      (value.isPinned = true ↔
        value.isKnown = true ∧ evaluator.AnsweredByOracle type handle arguments store value ∧
          evaluator.policy.assumePureCalls = false)) ∧
    ∀ name descriptor bootstrap constants,
      evaluator.body.get? handle = some (.invokeDynamic name descriptor bootstrap constants) →
        evaluator.call type handle arguments store =
          ⟨.ok ⟨type, handle, .produced, false⟩, store, []⟩ := by
  refine ⟨?_, ?_, ?_, ?_, ?_⟩
  · rw [result_fieldRead]
    exact Body.failsExactly_map_expect Instruction.isSome_readField?_iff _
  · rw [result_call]
    exact Body.failsExactly_map_expect Instruction.isSome_invoked?_iff _
  · intro value given
    rw [result_fieldRead, Body.map_expect_eq_ok_iff] at given
    obtain ⟨_, field, _, _, rfl⟩ := given
    exact ⟨SlotValue.wellShaped_ofAnswer type handle _, SlotValue.isPinned_ofAnswer type handle _⟩
  · intro value given
    rw [result_call, Body.map_expect_eq_ok_iff] at given
    obtain ⟨instruction, invoked, present, sorted, rfl⟩ := given
    refine ⟨wellShaped_invocationValue invoked arguments store, ?_⟩
    cases instruction with
    | method opcode method ofInterface =>
      cases sorted
      exact isPinned_methodValue_iff_answeredByOracle present arguments store
    | invokeDynamic name descriptor bootstrap constants =>
      cases sorted
      have unknown : (SlotValue.ofAnswer type handle none).isKnown = false := rfl
      simp [invocationValue, unknown]
    | _ => cases sorted
  · intro name descriptor bootstrap constants present
    exact evaluator.call_of_invokeDynamic type handle present arguments store

/-- An oracle that answers every field with a class literal and every call with a character. The class
literal leaves the field unknown; the character is taken over for a slot without a type and pinned; and
the oracle, which counts its queries, does not hear of the dynamic call site. -/
theorem evaluation_well_shaped_foreign :
    let field : Member := ⟨"a/B", "c", "I"⟩
    let method : Member := ⟨"a/B", "d", "()C"⟩
    let respond : Query → Nat → Resolution × Nat := fun query asked =>
      match query with
      | .field .. => (some (.classLiteral "a/B"), asked + 1)
      | .call .. => (some (.number (.char 65)), asked + 1)
    let evaluator : Evaluator Nat :=
      ⟨.ofList [.field .getstatic field, .method .invokestatic method false,
        .invokeDynamic "e" "()I" method []], .foreign respond, .conservative⟩
    let store : Store Nat := .empty 0
    let unread : SlotValue := ⟨.int, ⟨0⟩, .produced, false⟩
    let returned : SlotValue := ⟨.uninitialized, ⟨1⟩, .number (.char 65), true⟩
    (evaluator.fieldRead .int ⟨0⟩ store).result = .ok unread ∧ unread.WellShaped .int ⟨0⟩ ∧
      (evaluator.call .uninitialized ⟨1⟩ [] store).result = .ok returned ∧
      returned.WellShaped .uninitialized ⟨1⟩ ∧
      evaluator.AnsweredByOracle .uninitialized ⟨1⟩ [] store returned ∧
      evaluator.call .int ⟨2⟩ [] store = ⟨.ok ⟨.int, ⟨2⟩, .produced, false⟩, store, []⟩ ∧
      (evaluator.fieldRead .int ⟨3⟩ store).result = .error (.instructionNotFound ⟨3⟩) ∧
      (evaluator.call .int ⟨0⟩ [] store).result =
        .error (.unexpectedInstruction .methodInvocation .field) := by
  intro field method respond evaluator store unread returned
  have read : (evaluator.fieldRead .int ⟨0⟩ store).result = .ok unread := rfl
  have called : (evaluator.call .uninitialized ⟨1⟩ [] store).result = .ok returned := rfl
  obtain ⟨_, _, fields, _, _⟩ := evaluation_well_shaped evaluator .int ⟨0⟩ [] store
  obtain ⟨_, _, _, calls, _⟩ := evaluation_well_shaped evaluator .uninitialized ⟨1⟩ [] store
  obtain ⟨_, _, _, _, sites⟩ := evaluation_well_shaped evaluator .int ⟨2⟩ [] store
  obtain ⟨missing, _, _, _, _⟩ := evaluation_well_shaped evaluator .int ⟨3⟩ [] store
  obtain ⟨_, unexpected, _, _, _⟩ := evaluation_well_shaped evaluator .int ⟨0⟩ [] store
  obtain ⟨shaped, pinned⟩ := calls returned called
  have notInvocation : ¬ (Instruction.field .getstatic field).IsInvocation := by
    simp [Instruction.IsInvocation]
  exact ⟨read, (fields unread read).1, called, shaped, (pinned.mp rfl).2.1,
    sites "e" "()I" method [] rfl, missing.missing.mpr rfl,
    (unexpected.unexpected .field).mpr ⟨_, rfl, notInvocation, rfl⟩⟩

end Evaluator

end ConstProp
