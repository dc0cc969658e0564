import ConstProp.Evaluation.Evaluator
import ConstProp.Proofs.Oracle.Keys
import ConstProp.Proofs.Slot.Agreement

/-!
# Agreement is a congruence

Whatever takes slot values takes values that agree for one another: joins, loads, rebuilds, and calls of
which they are the arguments. A call hands its arguments to the intrinsic methods and to the oracle
inside a query and looks at them nowhere else. The key of that query decides both answers, so it decides
what comes of invoking the method (`Evaluator.invoke_eq_of_key`), and arguments that agree in pairs make
one key: the outcome of the call is the same (`Evaluator.call_eq_of_agrees`), whatever the method body and
the policy are.
-/

namespace ConstProp

namespace Evaluator

variable {σ : Type} {evaluator : Evaluator σ} {type : SlotType} {method : Member}
  {left right : List SlotValue}

/-- The key of a query decides what the intrinsic methods answer, whether or not the policy lets them. -/
theorem foldedAnswer_eq_of_key (evaluator : Evaluator σ) {first second : Query}
    (same : first.key = second.key) :
    evaluator.foldedAnswer first = evaluator.foldedAnswer second := by
  rw [foldedAnswer, foldedAnswer, Intrinsic.answer_eq_of_key same]

/-- The key of a query decides what is reported of the intrinsic methods. -/
theorem foldedEvents_eq_of_key (evaluator : Evaluator σ) {first second : Query}
    (same : first.key = second.key) :
    evaluator.foldedEvents first = evaluator.foldedEvents second := by
  rw [foldedEvents, foldedEvents, Intrinsic.events_eq_of_key same]

/-- The key of a call decides what comes of looking it up. -/
theorem lookUpCall_eq_of_key (stock : evaluator.oracle.IsStock)
    (same : (Query.call type method left).key = (Query.call type method right).key)
    (handle : Handle) (store : Store σ) :
    evaluator.lookUpCall type handle method left store =
      evaluator.lookUpCall type handle method right store := by
  have reply := Oracle.ask_eq_of_key stock same store
  simp only [lookUpCall, reply]

/-- The key of a call decides what comes of invoking its method. -/
theorem invoke_eq_of_key (stock : evaluator.oracle.IsStock)
    (same : (Query.call type method left).key = (Query.call type method right).key)
    (handle : Handle) (store : Store σ) :
    evaluator.invoke type handle method left store =
      evaluator.invoke type handle method right store := by
  have answer := evaluator.foldedAnswer_eq_of_key same
  have events := evaluator.foldedEvents_eq_of_key same
  have lookUp := lookUpCall_eq_of_key stock same handle store
  simp only [invoke, answer, events, lookUp]

/-- Calls whose arguments agree in pairs have one outcome: the result or the error, the store and the
events. -/
theorem call_eq_of_agrees (stock : evaluator.oracle.IsStock)
    (same : List.Forall₂ (fun first second => first.agrees second = true) left right)
    (type : SlotType) (handle : Handle) (store : Store σ) :
    evaluator.call type handle left store = evaluator.call type handle right store := by
  unfold call
  cases evaluator.body.fetch handle with
  | error error => rfl
  | ok instruction =>
    cases instruction with
    | method _ method _ =>
      exact invoke_eq_of_key stock (Query.key_call_eq_of_agrees same type method) handle store
    | _ => rfl

end Evaluator

/-- Agreement is a congruence for all that takes slot values. It is an equivalence; joins of values that
agree agree; values that agree have stack forms of one value, or both none, and are brought back alike.
For arguments that agree in pairs, the intrinsic methods and each table answer the same, each oracle of
the library's own sources replies the same, and over such an oracle a call has one outcome, in each
method body and under each policy. -/
theorem agreement_congruence :
    Equivalence (fun left right : SlotValue => left.agrees right = true) ∧
    (∀ {left left' right right' : SlotValue}, left.agrees left' = true →
      right.agrees right' = true → ∀ site,
        (left.join right site).agrees (left'.join right' site) = true) ∧
    (∀ {left right : SlotValue}, left.agrees right = true →
      Option.Rel (fun first second => first.computational = second.computational)
          left.stackValue? right.stackValue? ∧
        ∀ body relabeling,
          SlotValue.RebuiltAlike (left.rebuild body relabeling) (right.rebuild body relabeling)) ∧
    ∀ {left right : List SlotValue},
      List.Forall₂ (fun first second => first.agrees second = true) left right →
        (∀ type method, Intrinsic.answer (.call type method left) =
          Intrinsic.answer (.call type method right)) ∧
        (∀ (table : ConstantTable) type method, table.answer (.call type method left) =
          table.answer (.call type method right)) ∧
        (∀ {σ : Type} {oracle : Oracle σ}, oracle.IsStock → ∀ type method store,
          oracle.ask (.call type method left) store =
            oracle.ask (.call type method right) store) ∧
        ∀ {σ : Type} {evaluator : Evaluator σ}, evaluator.oracle.IsStock →
          ∀ type handle store,
            evaluator.call type handle left store = evaluator.call type handle right store := by
  refine ⟨?_, ?_, ?_, ?_⟩
  · exact ⟨SlotValue.agrees_refl, SlotValue.agrees_symm, SlotValue.agrees_trans⟩
  · intro left left' right right' sameLeft sameRight site
    exact SlotValue.join_congr sameLeft sameRight site
  · intro left right same
    constructor
    · exact SlotValue.stackValue?_rel_of_agrees same
    · exact SlotValue.rebuiltAlike_of_agrees same
  · intro left right same
    have keys := Query.key_call_eq_of_agrees same
    refine ⟨?_, ?_, ?_, ?_⟩
    · intro type method
      exact Intrinsic.answer_eq_of_key (keys type method)
    · intro table type method
      exact table.answer_eq_of_key (keys type method)
    · intro σ oracle stock type method store
      exact Oracle.ask_eq_of_key stock (keys type method) store
    · intro σ evaluator stock type handle store
      exact Evaluator.call_eq_of_agrees stock same type handle store

/-- A character and a pinned byte of one code, from different slots and producers, as the argument of a
call over the intrinsic methods and a table, and joined with a value that is not a number. -/
theorem agreement_congruence_char :
    let letter := SlotValue.ofNumber .int ⟨0⟩ (.char 65)
    let code := (SlotValue.ofNumber .long ⟨7⟩ (.byte 65)).pin
    let nan := SlotValue.ofNumber .float ⟨1⟩ (.float 0x7fc00000)
    let site : MergeSite := ⟨⟨3⟩, 0⟩
    let absolute : Member := ⟨"java/lang/Math", "abs", "(I)I"⟩
    let evaluator : Evaluator Unit :=
      ⟨.ofList [.method .invokestatic absolute false], Oracle.chain [.intrinsics, .table 0],
        .conservative⟩
    letter.agrees code = true ∧ nan.agrees nan = true ∧
      List.Forall₂ (fun first second => SlotValue.agrees first second = true) [letter] [code] ∧
      evaluator.oracle.IsStock ∧
      (letter.join nan site).agrees (code.join nan site) = true ∧
      SlotValue.RebuiltAlike (letter.rebuild .empty .empty) (code.rebuild .empty .empty) ∧
      evaluator.oracle.ask (.call .int absolute [letter]) (.empty ()) =
        evaluator.oracle.ask (.call .int absolute [code]) (.empty ()) ∧
      evaluator.call .int ⟨0⟩ [letter] (.empty ()) = evaluator.call .int ⟨0⟩ [code] (.empty ()) := by
  intro letter code nan site absolute evaluator
  obtain ⟨equivalence, joins, values, calls⟩ := agreement_congruence
  have sameCode : letter.agrees code = true := by decide
  have sameNan : nan.agrees nan = true := equivalence.refl nan
  have sameArguments :
      List.Forall₂ (fun first second => SlotValue.agrees first second = true) [letter] [code] :=
    .cons sameCode .nil
  have stock : evaluator.oracle.IsStock := .chain (by simp [Oracle.ForeignAll])
  obtain ⟨_, rebuilds⟩ := values sameCode
  obtain ⟨_, _, replies, outcomes⟩ := calls sameArguments
  exact ⟨sameCode, sameNan, sameArguments, stock, joins sameCode sameNan site,
    rebuilds .empty .empty, replies stock .int absolute (.empty ()),
    outcomes stock .int ⟨0⟩ (.empty ())⟩

end ConstProp
