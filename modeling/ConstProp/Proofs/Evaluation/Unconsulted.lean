import ConstProp.Proofs.Evaluation.Result
import ConstProp.Proofs.Oracle.Observation

/-!
# Evaluation without an oracle

A policy can forbid to ask the oracle. Field reads and calls then leave the store of every oracle as it is,
also that of one which writes down each query, and what comes of them is the same for all oracles. Nothing
is known of a field that is read. The intrinsic methods are another matter: they are no oracle, a policy
admits them on its own, and what they know of a call is known without an oracle too
(`Evaluator.isKnown_iff_of_result_call`).
-/

namespace ConstProp

/-- What of an outcome does not concern the store: the result and the events. -/
def Outcome.seen {σ : Type} (outcome : Outcome σ) : Except Error SlotValue × List Event :=
  (outcome.result, outcome.events)

namespace Evaluator

/-- The intrinsic methods give the value of a call of the method at a handle: they may, and the slot takes
over what they answer. -/
def AnsweredByIntrinsic {σ : Type} (evaluator : Evaluator σ) (type : SlotType) (handle : Handle)
    (arguments : List SlotValue) : Prop :=
  evaluator.policy.foldIntrinsics = true ∧ ∃ opcode method ofInterface,
    evaluator.body.get? handle = some (.method opcode method ofInterface) ∧
      (adopt type (Intrinsic.answer (.call type method arguments))).isSome = true

section Unconsulted

variable {σ : Type} {evaluator : Evaluator σ} {type : SlotType} {handle : Handle}
  (off : evaluator.policy.consultOracle = false)

include off

theorem oracleAnswer_of_unconsulted (query : Query) (store : Store σ) :
    evaluator.oracleAnswer query store = none := by
  simp [oracleAnswer, off]

theorem store_fieldRead_of_unconsulted (store : Store σ) :
    (evaluator.fieldRead type handle store).store = store := by
  unfold fieldRead
  split
  case h_1 => rfl
  case h_2 opcode field _ => cases opcode.isFieldRead <;> simp [off]
  case h_3 => rfl

theorem store_call_of_unconsulted (arguments : List SlotValue) (store : Store σ) :
    (evaluator.call type handle arguments store).store = store := by
  unfold call
  split
  case h_2 opcode method ofInterface _ => simp [store_invoke, off]
  all_goals rfl

/-- Nothing is known of a field that is read. -/
theorem isKnown_of_result_fieldRead {store : Store σ} {value : SlotValue}
    (given : (evaluator.fieldRead type handle store).result = .ok value) : value.isKnown = false := by
  rw [result_fieldRead, Body.map_expect_eq_ok_iff] at given
  obtain ⟨_, field, _, _, rfl⟩ := given
  rw [oracleAnswer_of_unconsulted off]
  rfl

/-- What is known of the value of a method call is what the slot takes over from the intrinsic methods. -/
theorem isKnown_methodValue_iff_of_unconsulted (method : Member) (arguments : List SlotValue)
    (store : Store σ) :
    (evaluator.methodValue type handle method arguments store).isKnown = true ↔
      evaluator.policy.foldIntrinsics = true ∧
        (adopt type (Intrinsic.answer (.call type method arguments))).isSome = true := by
  have nothing : adopt type none = none := rfl
  rw [← SlotValue.isSome_content?, content?_methodValue, oracleAnswer_of_unconsulted off, nothing,
    Option.or_none, foldedAnswer]
  cases evaluator.policy.foldIntrinsics <;> simp [nothing]

/-- The value of a call is known if the intrinsic methods give it, and not otherwise. -/
theorem isKnown_iff_of_result_call {arguments : List SlotValue} {store : Store σ} {value : SlotValue}
    (given : (evaluator.call type handle arguments store).result = .ok value) :
    value.isKnown = true ↔ evaluator.AnsweredByIntrinsic type handle arguments := by
  rw [result_call, Body.map_expect_eq_ok_iff] at given
  obtain ⟨instruction, invoked, present, sorted, rfl⟩ := given
  cases instruction with
  | method opcode method ofInterface =>
    cases sorted
    rw [invocationValue, isKnown_methodValue_iff_of_unconsulted off]
    simp [AnsweredByIntrinsic, present]
  | invokeDynamic name descriptor bootstrap constants =>
    cases sorted
    have unknown : (SlotValue.ofAnswer type handle none).isKnown = false := rfl
    simp [invocationValue, AnsweredByIntrinsic, present, unknown]
  | _ => cases sorted

end Unconsulted

section Oracles

variable {σ τ : Type} {policy : Policy} (off : policy.consultOracle = false) (body : Body)
  (left : Oracle σ) (right : Oracle τ) (type : SlotType) (handle : Handle)
  (first : Store σ) (second : Store τ)

include off

/-- A field read gives and reports the same whatever the oracle. -/
theorem seen_fieldRead_of_unconsulted :
    ((⟨body, left, policy⟩ : Evaluator σ).fieldRead type handle first).seen =
      ((⟨body, right, policy⟩ : Evaluator τ).fieldRead type handle second).seen := by
  unfold fieldRead
  cases body.fetch handle with
  | error error => rfl
  | ok instruction =>
    cases instruction with
    | field opcode field =>
      simp only [off]
      cases opcode.isFieldRead <;> rfl
    | _ => rfl

/-- A call gives and reports the same whatever the oracle. -/
theorem seen_call_of_unconsulted (arguments : List SlotValue) :
    ((⟨body, left, policy⟩ : Evaluator σ).call type handle arguments first).seen =
      ((⟨body, right, policy⟩ : Evaluator τ).call type handle arguments second).seen := by
  unfold call
  cases body.fetch handle with
  | error error => rfl
  | ok instruction =>
    cases instruction with
    | method opcode method ofInterface =>
      simp only [invoke, foldedAnswer, foldedEvents, off]
      cases adopt type (if policy.foldIntrinsics then _ else none) <;> rfl
    | _ => rfl

/-- Under a policy that forbids to ask the oracle, field reads and calls ask no oracle: they leave every
store as it is, and give and report the same for any two oracles. The value of a field read is unknown. So
is the value of a call, except where the intrinsic methods may answer and give it. -/
theorem unconsulted_knows_intrinsics_only (arguments : List SlotValue) :
    let evaluator : Evaluator σ := ⟨body, left, policy⟩
    let other : Evaluator τ := ⟨body, right, policy⟩
    (evaluator.fieldRead type handle first).store = first ∧
    (evaluator.call type handle arguments first).store = first ∧
    (evaluator.fieldRead type handle first).seen = (other.fieldRead type handle second).seen ∧
    (evaluator.call type handle arguments first).seen =
      (other.call type handle arguments second).seen ∧
    (∀ value, (evaluator.fieldRead type handle first).result = .ok value →
      value.isKnown = false) ∧
    ∀ value, (evaluator.call type handle arguments first).result = .ok value →
      (value.isKnown = true ↔ evaluator.AnsweredByIntrinsic type handle arguments) := by
  intro evaluator other
  refine ⟨?_, ?_, ?_, ?_, ?_, ?_⟩
  · exact store_fieldRead_of_unconsulted off first
  · exact store_call_of_unconsulted off arguments first
  · exact seen_fieldRead_of_unconsulted off body left right type handle first second
  · exact seen_call_of_unconsulted off body left right type handle first second arguments
  · exact fun value given => isKnown_of_result_fieldRead off given
  · exact fun value given => isKnown_iff_of_result_call off given

end Oracles

/-- A source that would answer every query, and write it down, beside a silent one. Neither a field nor a
call of a foreign method is known, and nothing is written down; the length of a known text is known. -/
theorem unconsulted_knows_intrinsics_only_length :
    let body : Body := .ofList [.field .getstatic ⟨"a/B", "c", "I"⟩,
      .method .invokevirtual ⟨"java/lang/String", "length", "()I"⟩ false,
      .method .invokestatic ⟨"a/B", "length", "(Ljava/lang/String;)I"⟩ false]
    let policy : Policy := ⟨false, true, true, false⟩
    let source : Oracle (Unit × List Query) :=
      .recording fun _ world => (some (.number (.int 1)), world)
    let evaluator : Evaluator (Unit × List Query) := ⟨body, source, policy⟩
    let other : Evaluator Unit := ⟨body, .silent, policy⟩
    let store : Store (Unit × List Query) := .empty ((), [])
    let text := SlotValue.ofText .string ⟨0⟩ "ab"
    let unread : SlotValue := ⟨.int, ⟨0⟩, .produced, false⟩
    policy.consultOracle = false ∧
      (evaluator.fieldRead .int ⟨0⟩ store).result = .ok unread ∧ unread.isKnown = false ∧
      (evaluator.fieldRead .int ⟨0⟩ store).store.world.2 = [] ∧
      (evaluator.call .int ⟨1⟩ [text] store).result = .ok (.ofNumber .int ⟨1⟩ (.int 2)) ∧
      evaluator.AnsweredByIntrinsic .int ⟨1⟩ [text] ∧
      (evaluator.call .int ⟨2⟩ [text] store).result = .ok ⟨.int, ⟨2⟩, .produced, false⟩ ∧
      ¬ evaluator.AnsweredByIntrinsic .int ⟨2⟩ [text] ∧
      (evaluator.call .int ⟨2⟩ [text] store).store.world.2 = [] ∧
      (evaluator.call .int ⟨2⟩ [text] store).seen = (other.call .int ⟨2⟩ [text] (.empty ())).seen := by
  intro body policy source evaluator other store text unread
  have off : policy.consultOracle = false := rfl
  have read : (evaluator.fieldRead .int ⟨0⟩ store).result = .ok unread := rfl
  have folded : (evaluator.call .int ⟨1⟩ [text] store).result = .ok (.ofNumber .int ⟨1⟩ (.int 2)) := by
    decide
  have called : (evaluator.call .int ⟨2⟩ [text] store).result = .ok ⟨.int, ⟨2⟩, .produced, false⟩ := by
    decide
  obtain ⟨fieldStore, _, _, _, fields, _⟩ := unconsulted_knows_intrinsics_only off body source
    (.silent : Oracle Unit) .int ⟨0⟩ store (.empty ()) []
  obtain ⟨_, _, _, _, _, length⟩ := unconsulted_knows_intrinsics_only off body source
    (.silent : Oracle Unit) .int ⟨1⟩ store (.empty ()) [text]
  obtain ⟨_, callStore, _, same, _, foreign⟩ := unconsulted_knows_intrinsics_only off body source
    (.silent : Oracle Unit) .int ⟨2⟩ store (.empty ()) [text]
  refine ⟨off, read, fields _ read, ?_, folded, (length _ folded).mp rfl, called, ?_, ?_, same⟩
  · rw [fieldStore]
    rfl
  · rw [← foreign _ called]
    decide
  · rw [callStore]
    rfl

/-- Without an oracle, but with the intrinsic methods, a call is known: the length of a text. -/
theorem call_known_of_unconsulted :
    let length : Member := ⟨"java/lang/String", "length", "()I"⟩
    let evaluator : Evaluator Unit :=
      ⟨.ofList [.load (.text "ab"), .method .invokevirtual length false], .silent,
        ⟨false, true, false, true⟩⟩
    let known := SlotValue.ofNumber .int ⟨1⟩ (.int 2)
    evaluator.policy.consultOracle = false ∧
      (evaluator.call .int ⟨1⟩ [.ofText .string ⟨0⟩ "ab"] (.empty ())).result = .ok known ∧
      known.isKnown = true := by
  decide

end Evaluator

end ConstProp
