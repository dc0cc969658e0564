import ConstProp.Proofs.Evaluation.Result
import ConstProp.Proofs.Oracle.Folding
import ConstProp.Proofs.Oracle.Observation

/-!
# The intrinsic methods before an oracle

A policy can let the intrinsic methods answer calls before the oracle is asked, or they can be the first
link of the oracle itself. In the first case an answer that the slot does not take over leaves the call to
the oracle; in the second it ends the chain. The two are the same for a slot that has no type or the type
that the method returns, because such a slot takes over every folded call (`adopt_answer`).

What differs is the pin of a folded call: a chain is an oracle, and a call that an oracle answers has to
stay in the code unless calls are taken for pure (`intrinsics_stage_eq_link`).
-/

namespace ConstProp

/-- A slot that takes the results of a method: it has no type, or the type that the descriptor of the
method returns. -/
def SlotType.Receives (type : SlotType) (method : Member) : Prop :=
  type = .uninitialized ∨ SlotType.ofReturn? method.descriptor = some type

namespace Evaluator

variable {σ : Type} {type : SlotType} {method : Member}

/-- A slot for the results of a method takes over every folded call of it. -/
theorem adopt_answer (receives : type.Receives method) (arguments : List SlotValue) :
    adopt type (Intrinsic.answer (.call type method arguments)) =
      Intrinsic.answer (.call type method arguments) := by
  cases answered : Intrinsic.answer (.call type method arguments) with
  | none => rfl
  | some result =>
    refine adopt_eq_some_iff.mpr ⟨rfl, SlotType.adopts_iff.mpr ⟨?_, ?_⟩⟩
    · exact Intrinsic.kind_ne_of_answer answered
    · refine receives.imp_right fun returns => ?_
      rw [Intrinsic.ofReturn?_of_answer answered] at returns
      exact SlotType.accepts_of_ofConstant_eq (Option.some.inj returns)

/-- The value of a folded call is known, whatever else was answered. -/
theorem isKnown_of_answer (receives : type.Receives method) {arguments : List SlotValue}
    (answered : (Intrinsic.answer (.call type method arguments)).isSome = true)
    (otherwise : Resolution) (handle : Handle) :
    (SlotValue.ofAnswer type handle
      ((Intrinsic.answer (.call type method arguments)).or otherwise)).isKnown = true := by
  have adopted := adopt_answer receives arguments
  rw [SlotValue.isKnown_ofAnswer]
  cases result : Intrinsic.answer (.call type method arguments) with
  | none =>
    rw [result] at answered
    cases answered
  | some constant =>
    rw [result] at adopted
    rw [Option.some_or, adopted]
    rfl

section Stages

variable {evaluator : Evaluator σ} {handler : Oracle σ} {handle : Handle}
  {arguments : List SlotValue} {store : Store σ}

/-- The answer of a chain of the intrinsic methods and an oracle. -/
theorem answer_ask_intrinsics (handler : Oracle σ) (query : Query) (store : Store σ) :
    ((Oracle.chain [.intrinsics, handler]).ask query store).answer =
      (Intrinsic.answer query).or (handler.ask query store).answer := by
  have first := Oracle.answer_ask_orElse .intrinsics (Oracle.chain [handler]) query store
  have last := Oracle.answer_ask_orElse handler .silent query store
  calc ((Oracle.chain [.intrinsics, handler]).ask query store).answer
      = (Intrinsic.answer query).or ((Oracle.chain [handler]).ask query store).answer := first
    _ = (Intrinsic.answer query).or ((handler.ask query store).answer.or none) := by
      rw [Oracle.chain, Oracle.chain, last]
      rfl
    _ = (Intrinsic.answer query).or (handler.ask query store).answer := by rw [Option.or_none]

/-- A chain of the intrinsic methods and an oracle asks the oracle if the methods cannot tell. -/
theorem store_ask_intrinsics (handler : Oracle σ) (query : Query) (store : Store σ) :
    ((Oracle.chain [.intrinsics, handler]).ask query store).store =
      if (Intrinsic.answer query).isSome then store else (handler.ask query store).store := by
  simp only [Oracle.chain, Oracle.ask]
  cases Intrinsic.answer query with
  | some constant => rfl
  | none => cases (handler.ask query store).answer <;> rfl

/-- With the intrinsic methods before the oracle, a folded call is not pinned. -/
theorem methodValue_staged (folds : evaluator.policy.foldIntrinsics = true)
    (consults : evaluator.policy.consultOracle = true) (receives : type.Receives method) :
    let query := Query.call type method arguments
    let value := SlotValue.ofAnswer type handle
      ((Intrinsic.answer query).or (evaluator.oracle.ask query store).answer)
    evaluator.methodValue type handle method arguments store =
      if (Intrinsic.answer query).isSome then value else evaluator.fromOracle value := by
  intro query value
  have adopted := adopt_answer receives arguments
  simp only [methodValue, foldedAnswer, oracleAnswer, folds, consults, if_true,
    SlotValue.isKnown_ofAnswer _ _ (Intrinsic.answer _), adopted]
  cases answered : Intrinsic.answer (.call type method arguments) with
  | some result => simp [value, query, answered]
  | none => simp [value, query, answered, fromOracle]

/-- With the intrinsic methods as the first link, a folded call is an answer of the oracle. -/
theorem methodValue_linked (folds : evaluator.policy.foldIntrinsics = false)
    (consults : evaluator.policy.consultOracle = true)
    (linked : evaluator.oracle = .chain [.intrinsics, handler]) :
    let query := Query.call type method arguments
    let value := SlotValue.ofAnswer type handle
      ((Intrinsic.answer query).or (handler.ask query store).answer)
    evaluator.methodValue type handle method arguments store = evaluator.fromOracle value := by
  intro query value
  have unfolded : (SlotValue.ofAnswer type handle none).isKnown = false := rfl
  simp only [methodValue, foldedAnswer, oracleAnswer, folds, consults, linked, if_true,
    Bool.false_eq_true, if_false, unfolded, answer_ask_intrinsics]
  rfl

/-- With the intrinsic methods before the oracle, the oracle is asked about calls that are not folded. -/
theorem store_invoke_staged (folds : evaluator.policy.foldIntrinsics = true)
    (consults : evaluator.policy.consultOracle = true) (receives : type.Receives method) :
    let query := Query.call type method arguments
    (evaluator.invoke type handle method arguments store).store =
      if (Intrinsic.answer query).isSome then store
      else (evaluator.oracle.ask query store).store := by
  intro query
  have adopted := adopt_answer receives arguments
  rw [store_invoke]
  simp only [foldedAnswer, folds, if_true, adopted, consults, Bool.and_true]
  cases Intrinsic.answer (.call type method arguments) <;> simp [query]

/-- With the intrinsic methods as the first link, the second one is asked about calls that are not
folded. -/
theorem store_invoke_linked (folds : evaluator.policy.foldIntrinsics = false)
    (consults : evaluator.policy.consultOracle = true)
    (linked : evaluator.oracle = .chain [.intrinsics, handler]) :
    let query := Query.call type method arguments
    (evaluator.invoke type handle method arguments store).store =
      if (Intrinsic.answer query).isSome then store else (handler.ask query store).store := by
  intro query
  have nothing : adopt type none = none := rfl
  rw [store_invoke, linked, ← store_ask_intrinsics]
  simp [foldedAnswer, folds, consults, nothing, query]

end Stages

/-- A policy that lets the intrinsic methods answer a call before the oracle, and one that finds them as
the first link of the oracle, give the same value up to its pin for a slot that receives the results of
the method, and the same queries reach the source behind: none if the intrinsic methods answer, and
otherwise that of the call. If both take calls for pure, the pins are the same too; if neither does, they
differ exactly on the calls that the intrinsic methods answer. -/
theorem intrinsics_stage_eq_link (body : Body) (respond : Query → σ → Resolution × σ)
    (store : Store (σ × List Query)) {handle : Handle} {opcode : Opcode} {ofInterface : Bool}
    (present : body.get? handle = some (.method opcode method ofInterface))
    (receives : type.Receives method) (arguments : List SlotValue)
    (stagedPure stagedCaches linkedPure linkedCaches : Bool) :
    let source := Oracle.recording respond
    let staged : Evaluator _ := ⟨body, source, ⟨true, true, stagedPure, stagedCaches⟩⟩
    let linked : Evaluator _ :=
      ⟨body, .chain [.intrinsics, source], ⟨true, false, linkedPure, linkedCaches⟩⟩
    let query := Query.call type method arguments
    let resolved := (Intrinsic.answer query).isSome
    let record := store.world.2 ++ if resolved then [] else [query]
    ∃ first second,
      (staged.call type handle arguments store).result = .ok first ∧
      (linked.call type handle arguments store).result = .ok second ∧
      first.type = second.type ∧ first.producer = second.producer ∧
      first.payload = second.payload ∧
      (staged.call type handle arguments store).store.world.2 = record ∧
      (linked.call type handle arguments store).store.world.2 = record ∧
      (stagedPure = true → linkedPure = true → first.isPinned = second.isPinned) ∧
      (stagedPure = false → linkedPure = false →
        (first.isPinned ≠ second.isPinned ↔ resolved = true)) := by
  intro source staged linked query resolved record
  let value := SlotValue.ofAnswer type handle
    ((Intrinsic.answer query).or (source.ask query store).answer)
  have stagedCall : (staged.call type handle arguments store).result =
      .ok (if resolved then value else staged.fromOracle value) := by
    rw [staged.call_of_method type handle present, staged.result_invoke type handle present rfl]
    exact congrArg Except.ok (methodValue_staged rfl rfl receives)
  have linkedCall : (linked.call type handle arguments store).result =
      .ok (linked.fromOracle value) := by
    rw [linked.call_of_method type handle present, linked.result_invoke type handle present rfl]
    exact congrArg Except.ok (methodValue_linked rfl rfl rfl)
  have recorded : (if resolved then store else (source.ask query store).store).world.2 = record := by
    cases resolvedCase : resolved <;> simp [record, source, resolvedCase]
  refine ⟨_, _, stagedCall, linkedCall, ?_, ?_, ?_, ?_, ?_, ?_, ?_⟩
  · cases resolved <;> simp [fromOracle_eq]
  · cases resolved <;> simp [fromOracle_eq]
  · cases resolved <;> simp [fromOracle_eq]
  · rw [staged.call_of_method type handle present, store_invoke_staged rfl rfl receives]
    exact recorded
  · rw [linked.call_of_method type handle present, store_invoke_linked rfl rfl rfl]
    exact recorded
  · intro stagedTrusts linkedTrusts
    cases resolved <;> simp [fromOracle_eq, staged, linked, stagedTrusts, linkedTrusts]
  · intro stagedKeeps linkedKeeps
    cases resolvedCase : resolved with
    | false => simp [fromOracle_eq, staged, linked, stagedKeeps, linkedKeeps]
    | true =>
      have known : value.isKnown = true := isKnown_of_answer receives resolvedCase _ _
      have unpinned : value.isPinned = false := SlotValue.isPinned_ofAnswer type handle _
      simp [fromOracle_eq, linked, linkedKeeps, known, unpinned]

/-- The absolute value of a known number, before a source that would answer something else: both ways give
the same number without asking the source, and only the second one pins it. -/
theorem intrinsics_stage_eq_link_abs :
    let absolute : Member := ⟨"java/lang/Math", "abs", "(I)I"⟩
    let body : Body := .ofList [.method .invokestatic absolute false]
    let source : Oracle (Nat × List Query) :=
      .recording fun _ asked => (some (.number (.int 7)), asked + 1)
    let store : Store (Nat × List Query) := .empty (0, [])
    let arguments := [SlotValue.ofNumber .int ⟨0⟩ (.int (-3))]
    let staged : Evaluator _ := ⟨body, source, ⟨true, true, false, true⟩⟩
    let linked : Evaluator _ :=
      ⟨body, .chain [.intrinsics, source], ⟨true, false, false, true⟩⟩
    body.get? ⟨0⟩ = some (.method .invokestatic absolute false) ∧
      SlotType.Receives .int absolute ∧
      ∃ first second, (staged.call .int ⟨0⟩ arguments store).result = .ok first ∧
        (linked.call .int ⟨0⟩ arguments store).result = .ok second ∧
        first.payload = second.payload ∧
        (staged.call .int ⟨0⟩ arguments store).store.world.2 = [] ∧
        (linked.call .int ⟨0⟩ arguments store).store.world.2 = [] ∧
        first.isPinned ≠ second.isPinned := by
  intro absolute body source store arguments staged linked
  have present : body.get? ⟨0⟩ = some (.method .invokestatic absolute false) := rfl
  have receives : SlotType.Receives .int absolute := Or.inr (by decide)
  have resolved : (Intrinsic.answer (.call .int absolute arguments)).isSome = true := by decide
  obtain ⟨first, second, stagedCall, linkedCall, _, _, payload, stagedRecord, linkedRecord, _,
    pins⟩ := intrinsics_stage_eq_link body _ store present receives arguments false true false true
  rw [if_pos resolved] at stagedRecord linkedRecord
  exact ⟨present, receives, first, second, stagedCall, linkedCall, payload, stagedRecord,
    linkedRecord, (pins rfl rfl).mpr resolved⟩

end Evaluator

end ConstProp
