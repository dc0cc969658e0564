import ConstProp.Proofs.Evaluation.Congruence
import ConstProp.Proofs.Evaluation.Program
import ConstProp.Proofs.Oracle.Folding
import ConstProp.Proofs.Oracle.Observation

/-!
# Policies in order of trust

The more a policy trusts, the more of a program can be replaced by constants. Two policies are compared
step by step along the same program, in which results of earlier steps are used in later ones.

Taking calls for pure changes pins only: each step gives the same value, and no value is required in the
code that would not be required otherwise (`FreerThan`). Asking the oracle, or the intrinsic methods and
the oracle, changes only what would be unknown otherwise (`KnowsMore`): a call is folded before the oracle
is asked, and it is folded only if all its arguments are known, so they are the same under both policies.
-/

namespace ConstProp

namespace SlotValue

/-- The values of a step with and without trust in the purity of calls: the same type, producer, merge
site and content, and what is required in the code with trust is required without. -/
structure FreerThan (free kept : SlotValue) : Prop where
  type_eq : free.type = kept.type
  producer_eq : free.producer = kept.producer
  mergeSite_eq : free.mergeSite? = kept.mergeSite?
  payload_eq : free.payload = kept.payload
  required : free.isRequired = true → kept.isRequired = true

/-- The values of a step with more and with less to ask: the same type, and all that is known with less is
the same with more. -/
structure KnowsMore (more less : SlotValue) : Prop where
  type_eq : more.type = less.type
  known_eq : less.isKnown = true → more = less

namespace FreerThan

@[refl] theorem refl (value : SlotValue) : value.FreerThan value :=
  ⟨rfl, rfl, rfl, rfl, id⟩

variable {free kept : SlotValue}

/-- The two values differ in their pins at most. -/
theorem unpinned_eq (freer : free.FreerThan kept) : free.unpinned = kept.unpinned := by
  simp only [unpinned, freer.type_eq, freer.producer_eq, freer.payload_eq]

theorem agrees (freer : free.FreerThan kept) : free.agrees kept = true := by
  have pinsAside : free.agrees kept = free.unpinned.agrees kept.unpinned := rfl
  rw [pinsAside, freer.unpinned_eq]
  exact agrees_refl _

/-- It is enough that the values are the same pins aside and that what is required goes one way. -/
theorem of_unpinned_eq (same : free.unpinned = kept.unpinned)
    (required : free.isRequired = true → kept.isRequired = true) : free.FreerThan kept := by
  rcases free with ⟨_, _, _, _⟩
  rcases kept with ⟨_, _, _, _⟩
  cases same
  exact ⟨rfl, rfl, rfl, rfl, required⟩

/-- A join of values with trust is required only if that of the values without is. -/
theorem join {left left' right right' : SlotValue} (leftFreer : left.FreerThan left')
    (rightFreer : right.FreerThan right') (site : MergeSite) :
    (left.join right site).FreerThan (left'.join right' site) := by
  have comparison : left.agrees right = left'.agrees right' := by
    rw [agrees_congr_left leftFreer.agrees, agrees_congr_right rightFreer.agrees]
  cases agree : left.agrees right with
  | false =>
    rw [join_of_not_agrees agree, join_of_not_agrees (comparison ▸ agree), leftFreer.type_eq]
  | true =>
    have agree' : left'.agrees right' = true := comparison ▸ agree
    refine of_unpinned_eq ?_ ?_
    · rw [join_of_agrees agree, join_of_agrees agree']
      exact leftFreer.unpinned_eq
    · intro required
      rw [isRequired_join_of_agrees agree, Bool.or_eq_true] at required
      rw [isRequired_join_of_agrees agree', Bool.or_eq_true]
      exact required.imp leftFreer.required rightFreer.required

end FreerThan

namespace KnowsMore

@[refl] theorem refl (value : SlotValue) : value.KnowsMore value :=
  ⟨rfl, fun _ => rfl⟩

/-- A join that is known with less to ask joins known values, which are the same with more. -/
theorem join {left left' right right' : SlotValue} (leftMore : left.KnowsMore left')
    (rightMore : right.KnowsMore right') (site : MergeSite) :
    (left.join right site).KnowsMore (left'.join right' site) where
  type_eq := by rw [type_join, type_join, leftMore.type_eq]
  known_eq := by
    intro known
    obtain ⟨agree, leftKnown⟩ := isKnown_join_iff.mp known
    have rightKnown : right'.isKnown = true := isKnown_eq_of_agrees agree ▸ leftKnown
    rw [leftMore.known_eq leftKnown, rightMore.known_eq rightKnown]

/-- Arguments that are all known with less to ask are the same with more. -/
theorem eq_of_forall_isKnown {left right : List SlotValue}
    (arguments : List.Forall₂ KnowsMore left right)
    (known : ∀ argument ∈ right, argument.isKnown = true) : left = right := by
  induction arguments with
  | nil => rfl
  | cons more _ inductionHypothesis =>
    have first := more.known_eq (known _ List.mem_cons_self)
    have rest := inductionHypothesis fun argument member => known argument (.tail _ member)
    rw [first, rest]

end KnowsMore

end SlotValue

/-- Arguments that differ in their pins at most make one query, pins aside. -/
theorem Query.unpinned_call_eq {left right : List SlotValue}
    (arguments : List.Forall₂ SlotValue.FreerThan left right) (type : SlotType) (method : Member) :
    (call type method left).unpinned = (call type method right).unpinned := by
  have unpinned : left.map SlotValue.unpinned = right.map SlotValue.unpinned := by
    induction arguments with
    | nil => rfl
    | cons freer _ inductionHypothesis =>
      rw [List.map_cons, List.map_cons, freer.unpinned_eq, inductionHypothesis]
  simp only [Query.unpinned, unpinned]

namespace Evaluator

variable {σ : Type}

/-- The evaluator with calls taken for pure, or not. -/
def assuming (evaluator : Evaluator σ) (assumePureCalls : Bool) : Evaluator σ :=
  { evaluator with policy := { evaluator.policy with assumePureCalls } }

section Purity

variable (evaluator : Evaluator σ) {answerTo : Query → Resolution}

/-- Whether calls are taken for pure matters only for values from the oracle. -/
theorem methodValue_assuming (pure : Bool) (type : SlotType) (handle : Handle) (method : Member)
    (arguments : List SlotValue) (store : Store σ) :
    let query := Query.call type method arguments
    let folded := SlotValue.ofAnswer type handle (evaluator.foldedAnswer query)
    let found := SlotValue.ofAnswer type handle (evaluator.oracleAnswer query store)
    (evaluator.assuming pure).methodValue type handle method arguments store =
      if folded.isKnown then folded else (evaluator.assuming pure).fromOracle found := rfl

/-- Where calls are taken for pure, no value from the oracle is required in the code that is not required
otherwise. -/
theorem freerThan_fromOracle (value : SlotValue) :
    ((evaluator.assuming true).fromOracle value).FreerThan
      ((evaluator.assuming false).fromOracle value) := by
  rw [fromOracle_eq, fromOracle_eq]
  refine ⟨rfl, rfl, rfl, rfl, ?_⟩
  intro required
  have unpinned : (value.isPinned || value.isKnown && !true) = value.isPinned := by simp
  simp only [SlotValue.isRequired, assuming, unpinned, Bool.or_eq_true] at required ⊢
  exact required.imp_left Or.inl

/-- Queries that are the same pins aside are folded alike. -/
theorem foldedAnswer_eq_of_unpinned {first second : Query}
    (same : first.unpinned = second.unpinned) :
    evaluator.foldedAnswer first = evaluator.foldedAnswer second := by
  refine foldedAnswer_eq_of_key evaluator ?_
  rw [← Query.key_unpinned, same, Query.key_unpinned]

variable {evaluator}

/-- Queries that are the same pins aside are answered alike by an oracle that does not look at pins, at
whatever point of its session. -/
theorem oracleAnswer_eq_of_unpinned (blind : PinBlind answerTo) {first second : Query}
    (same : first.unpinned = second.unpinned) {store other : Store σ}
    (answers : evaluator.oracle.AnswersBy store answerTo)
    (otherAnswers : evaluator.oracle.AnswersBy other answerTo) :
    evaluator.oracleAnswer first store = evaluator.oracleAnswer second other := by
  have answer : (evaluator.oracle.ask first store).answer =
      (evaluator.oracle.ask second other).answer := by
    rw [answers.answer_ask, otherAnswers.answer_ask, ← blind first, ← blind second, same]
  rw [oracleAnswer, oracleAnswer, answer]

/-- Whether calls are taken for pure shows in pins alone, along any program. -/
theorem simulation_assuming (evaluator : Evaluator σ) (blind : PinBlind answerTo) :
    Simulation (evaluator.assuming true) (evaluator.assuming false) SlotValue.FreerThan
      (evaluator.oracle.AnswersBy · answerTo) (evaluator.oracle.AnswersBy · answerTo) where
  body_eq := rfl
  refl := SlotValue.FreerThan.refl
  join := SlotValue.FreerThan.join
  fieldRead := by
    intro type handle field store other answers otherAnswers
    have answer : (evaluator.assuming true).oracleAnswer (.field type field) store =
        (evaluator.assuming false).oracleAnswer (.field type field) other :=
      oracleAnswer_eq_of_unpinned blind rfl answers otherAnswers
    rw [answer]
  call := by
    intro type handle method left right arguments store other answers otherAnswers
    have unpinned := Query.unpinned_call_eq arguments type method
    rw [methodValue_assuming, methodValue_assuming,
      foldedAnswer_eq_of_unpinned evaluator unpinned,
      oracleAnswer_eq_of_unpinned blind unpinned answers otherAnswers]
    split
    · rfl
    · exact freerThan_fromOracle evaluator _
  firstKeeps query _ answers := answers.ask query
  secondKeeps query _ answers := answers.ask query

end Purity

section Reduction

variable {evaluator more less : Evaluator σ} {type : SlotType} {handle : Handle} {method : Member}
  {arguments : List SlotValue} {store : Store σ}

/-- A call that is folded and taken over is worth what the intrinsic methods answer, whatever the oracle
and the store. -/
theorem methodValue_of_folded (folds : evaluator.policy.foldIntrinsics = true)
    (adopted : (adopt type (Intrinsic.answer (.call type method arguments))).isSome = true) :
    evaluator.methodValue type handle method arguments store =
      .ofAnswer type handle (Intrinsic.answer (.call type method arguments)) := by
  simp only [methodValue, foldedAnswer, folds, if_true, SlotValue.isKnown_ofAnswer, adopted]

/-- Without the oracle, a call is known only if it is folded and taken over. -/
theorem folded_of_isKnown_methodValue (silent : evaluator.policy.consultOracle = false)
    (known : (evaluator.methodValue type handle method arguments store).isKnown = true) :
    evaluator.policy.foldIntrinsics = true ∧
      (adopt type (Intrinsic.answer (.call type method arguments))).isSome = true := by
  have nothing : evaluator.oracleAnswer (.call type method arguments) store = none := by
    simp [oracleAnswer, silent]
  rw [← SlotValue.isSome_content?, content?_methodValue, nothing, foldedAnswer] at known
  by_cases folds : evaluator.policy.foldIntrinsics = true
  · simpa [folds, adopt] using known
  · simp [folds, adopt] at known

/-- An evaluator that asks less knows less, along any program. -/
theorem simulation_of_asksLess (sameBody : more.body = less.body)
    (silent : less.policy.consultOracle = false)
    (folds : less.policy.foldIntrinsics = true → more.policy.foldIntrinsics = true) :
    Simulation more less SlotValue.KnowsMore (fun _ => True) (fun _ => True) where
  body_eq := sameBody
  refl := SlotValue.KnowsMore.refl
  join := SlotValue.KnowsMore.join
  fieldRead := by
    intro type handle field store other _ _
    have nothing : less.oracleAnswer (.field type field) other = none := by
      simp [oracleAnswer, silent]
    rw [nothing]
    exact ⟨by simp, fun known => by cases known⟩
  call := by
    intro type handle method left right arguments store other _ _
    constructor
    · rw [(wellShaped_methodValue method left store).type_eq,
        (wellShaped_methodValue method right other).type_eq]
    · intro known
      obtain ⟨lessFolds, adopted⟩ := folded_of_isKnown_methodValue silent known
      obtain ⟨result, taken⟩ := Option.isSome_iff_exists.mp adopted
      have answered := (adopt_eq_some_iff.mp taken).1
      have same := SlotValue.KnowsMore.eq_of_forall_isKnown arguments
        (Intrinsic.isKnown_of_answer answered)
      rw [same, methodValue_of_folded lessFolds adopted,
        methodValue_of_folded (folds lessFolds) adopted]
  firstKeeps _ _ _ := trivial
  secondKeeps _ _ _ := trivial

end Reduction

/-- A policy that trusts more gives the same or more along every program. If the oracle answers by a
function that does not look at pins, each step fails alike or gives the same value up to pins whether
calls are taken for pure or not, and what is required in the code with trust is required without. If the
oracle is not consulted, and the intrinsic methods no more than before, each step fails alike or gives a
value of the same type, and all that is known is known as the same value to the policy that asks more. -/
theorem results_ordered_by_trust (evaluator : Evaluator σ) (store : Store σ)
    (program : List Step) :
    (∀ answerTo, PinBlind answerTo → evaluator.oracle.AnswersBy store answerTo →
      List.Forall₂ (Option.Rel (Alike SlotValue.FreerThan))
        ((evaluator.assuming true).results program [] store)
        ((evaluator.assuming false).results program [] store)) ∧
    ∀ less : Evaluator σ, less.body = evaluator.body → less.policy.consultOracle = false →
      (less.policy.foldIntrinsics = true → evaluator.policy.foldIntrinsics = true) →
      List.Forall₂ (Option.Rel (Alike SlotValue.KnowsMore)) (evaluator.results program [] store)
        (less.results program [] store) := by
  constructor
  · intro answerTo blind answers
    exact (simulation_assuming evaluator blind).results program .nil answers answers
  · intro less sameBody silent folds
    exact (simulation_of_asksLess sameBody.symm silent folds).results program .nil trivial trivial

/-- A cached call gives a number, whose absolute value meets a constant. The number is pinned only where
calls are not taken for pure; its absolute value is folded and never pinned. Where nothing is looked up or
folded, only the constant is known, and the values differ where they meet. The last step reads a field
where a call stands. -/
theorem results_ordered_by_trust_abs :
    let called : Member := ⟨"a/B", "c", "()I"⟩
    let absolute : Member := ⟨"java/lang/Math", "abs", "(I)I"⟩
    let body : Body := .ofList [.method .invokestatic called false,
      .method .invokestatic absolute false, .load (.number (.int 3))]
    let respond : Query → Nat → Resolution × Nat := fun _ asked =>
      (some (.number (.int (-3))), asked + 1)
    let store : Store Nat := ((Store.empty 0).addCache none).2
    let conservative : Evaluator Nat := ⟨body, .cached 0 (.foreign respond), .conservative⟩
    let aggressive : Evaluator Nat := ⟨body, .cached 0 (.foreign respond), .aggressive⟩
    let disabled : Evaluator Nat := ⟨body, .silent, .disabled⟩
    let program : List Step := [.evaluate (.call .int ⟨0⟩ []), .evaluate (.call .int ⟨1⟩ [0]),
      .evaluate (.constant .int ⟨2⟩), .join 1 2 ⟨⟨2⟩, 0⟩, .evaluate (.fieldRead .int ⟨0⟩)]
    let three : Handle → SlotValue := fun handle => .ofNumber .int handle (.int 3)
    let misread : Except Error SlotValue := .error (.unexpectedInstruction .fieldRead .method)
    aggressive.results program [] store =
        [some (.ok (.ofNumber .int ⟨0⟩ (.int (-3)))), some (.ok (three ⟨1⟩)),
          some (.ok (three ⟨2⟩)), some (.ok (three ⟨1⟩)), some misread] ∧
      conservative.results program [] store =
        [some (.ok (SlotValue.ofNumber .int ⟨0⟩ (.int (-3))).pin), some (.ok (three ⟨1⟩)),
          some (.ok (three ⟨2⟩)), some (.ok (three ⟨1⟩)), some misread] ∧
      disabled.results program [] store =
        [some (.ok ⟨.int, ⟨0⟩, .produced, false⟩), some (.ok ⟨.int, ⟨1⟩, .produced, false⟩),
          some (.ok (three ⟨2⟩)), some (.ok (.mergedAt ⟨⟨2⟩, 0⟩ .int)), some misread] ∧
      List.Forall₂ (Option.Rel (Alike SlotValue.FreerThan)) (aggressive.results program [] store)
        (conservative.results program [] store) ∧
      List.Forall₂ (Option.Rel (Alike SlotValue.KnowsMore)) (conservative.results program [] store)
        (disabled.results program [] store) := by
  intro called absolute body respond store conservative aggressive disabled program three misread
  have source : Oracle.Built (.empty 0) [.foreign respond] :=
    (Oracle.Built.nothing 0).foreign fun _ _ _ _ _ => rfl
  have built := source.cached (List.mem_singleton.mpr rfl) none
  obtain ⟨answerTo, blind, answers⟩ := built.answersBy List.mem_cons_self
  obtain ⟨purity, reduction⟩ := results_ordered_by_trust conservative store program
  refine ⟨rfl, rfl, rfl, purity answerTo blind answers, reduction disabled rfl rfl ?_⟩
  intro folds
  cases folds

end Evaluator

end ConstProp
