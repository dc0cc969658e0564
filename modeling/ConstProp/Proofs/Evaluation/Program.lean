import ConstProp.Proofs.Evaluation.Result
import ConstProp.Slot.Merge
import Mathlib.Data.List.Forall2

/-!
# Programs of evaluations

An analysis works through a program: it evaluates instructions one after another and joins what comes
out, and the values that it has gained so far are the arguments of its calls and the operands of its
joins. Steps that fail gain no value and do not stop the program.

Two evaluators can be compared along a program by a relation between their values. If related arguments
lead to related values in each call, and related operands to related joins, then each step of the program
fails in both alike or gives related values (`Simulation.results`).
-/

namespace ConstProp

/-- What an evaluator is asked for. The arguments of a call are values, or stand for values. -/
inductive Evaluation (α : Type) where
  | constant (type : SlotType) (handle : Handle)
  | fieldRead (type : SlotType) (handle : Handle)
  | call (type : SlotType) (handle : Handle) (arguments : List α)
  | unknown (type : SlotType) (handle : Handle)

/-- The values that the arguments of a call refer to by number, if they are all there. -/
def Evaluation.resolve? (values : List SlotValue) : Evaluation Nat → Option (Evaluation SlotValue)
  | .constant type handle => some (.constant type handle)
  | .fieldRead type handle => some (.fieldRead type handle)
  | .call type handle arguments => (arguments.mapM (values[·]?)).map (.call type handle)
  | .unknown type handle => some (.unknown type handle)

/-- The evaluations of the same instruction for the same slot, with arguments that are related in
pairs. -/
inductive Evaluation.Rel {α β : Type} (related : α → β → Prop) :
    Evaluation α → Evaluation β → Prop where
  | constant (type : SlotType) (handle : Handle) :
      Rel related (.constant type handle) (.constant type handle)
  | fieldRead (type : SlotType) (handle : Handle) :
      Rel related (.fieldRead type handle) (.fieldRead type handle)
  | call (type : SlotType) (handle : Handle) {left : List α} {right : List β}
      (arguments : List.Forall₂ related left right) :
      Rel related (.call type handle left) (.call type handle right)
  | unknown (type : SlotType) (handle : Handle) :
      Rel related (.unknown type handle) (.unknown type handle)

/-- A step of a program. It refers to the values that earlier steps have gained by their numbers. -/
inductive Step where
  | evaluate (evaluation : Evaluation Nat)
  | join (left right : Nat) (site : MergeSite)

/-- The values gained after a step: a step that gives a value adds it at the end. -/
def gain (values : List SlotValue) : Option (Except Error SlotValue) → List SlotValue
  | some (.ok value) => values ++ [value]
  | _ => values

namespace Evaluator

variable {σ : Type}

/-- What comes of an evaluation. -/
def perform (evaluator : Evaluator σ) (evaluation : Evaluation SlotValue) (store : Store σ) :
    Outcome σ :=
  match evaluation with
  | .constant type handle => ⟨evaluator.constant type handle, store, []⟩
  | .fieldRead type handle => evaluator.fieldRead type handle store
  | .call type handle arguments => evaluator.call type handle arguments store
  | .unknown type handle => ⟨evaluator.unknown type handle, store, []⟩

/-- The result of a step, and the store afterwards. A step that refers to a value that is not there has
no result. -/
def step (evaluator : Evaluator σ) (values : List SlotValue) (store : Store σ) :
    Step → Option (Except Error SlotValue) × Store σ
  | .evaluate evaluation =>
    match evaluation.resolve? values with
    | some resolved =>
      let outcome := evaluator.perform resolved store
      (some outcome.result, outcome.store)
    | none => (none, store)
  | .join left right site =>
    match values[left]?, values[right]? with
    | some first, some second => (some (.ok (first.join second site)), store)
    | _, _ => (none, store)

/-- The results of the steps of a program. -/
def results (evaluator : Evaluator σ) :
    List Step → List SlotValue → Store σ → List (Option (Except Error SlotValue))
  | [], _, _ => []
  | step :: rest, values, store =>
    let (result, next) := evaluator.step values store step
    result :: evaluator.results rest (gain values result) next

/-- An evaluation asks the oracle at most one query. -/
theorem store_perform (evaluator : Evaluator σ) (evaluation : Evaluation SlotValue)
    (store : Store σ) :
    (evaluator.perform evaluation store).store = store ∨
      ∃ query, (evaluator.perform evaluation store).store =
        (evaluator.oracle.ask query store).store := by
  cases evaluation with
  | constant | unknown => exact Or.inl rfl
  | fieldRead type handle => exact evaluator.store_fieldRead type handle store
  | call type handle arguments => exact evaluator.store_call type handle arguments store

end Evaluator

/-- Two results that are the same error, or values that are related. -/
inductive Alike (related : SlotValue → SlotValue → Prop) :
    Except Error SlotValue → Except Error SlotValue → Prop where
  | error (error : Error) : Alike related (.error error) (.error error)
  | ok {first second : SlotValue} (same : related first second) :
      Alike related (.ok first) (.ok second)

section Relations

variable {related : SlotValue → SlotValue → Prop}

theorem Alike.refl (reflexive : ∀ value, related value value) (result : Except Error SlotValue) :
    Alike related result result := by
  cases result with
  | error error => exact .error error
  | ok value => exact .ok (reflexive value)

/-- What is made of one found instruction in two ways is alike if the values are related. -/
theorem Alike.map {α : Type} {first second : α → SlotValue}
    (same : ∀ found, related (first found) (second found)) (expected : Except Error α) :
    Alike related (expected.map first) (expected.map second) := by
  cases expected with
  | error error => exact .error error
  | ok found => exact .ok (same found)

/-- Values that results have gained from related ones stay related. -/
theorem forall₂_gain {left right : List SlotValue} (values : List.Forall₂ related left right)
    {first second : Option (Except Error SlotValue)}
    (result : Option.Rel (Alike related) first second) :
    List.Forall₂ related (gain left first) (gain right second) := by
  cases result with
  | none => exact values
  | some alike =>
    cases alike with
    | error error => exact values
    | ok same => exact List.rel_append values (.cons same .nil)

/-- Related lists have related values at each place. -/
theorem rel_getElem? {left right : List SlotValue} (values : List.Forall₂ related left right)
    (index : Nat) : Option.Rel related left[index]? right[index]? := by
  induction values generalizing index with
  | nil => exact .none
  | cons same _ inductionHypothesis =>
    cases index with
    | zero => exact .some same
    | succ index => simpa using inductionHypothesis index

/-- References resolve in related lists to related values. -/
theorem rel_mapM_getElem? {left right : List SlotValue} (values : List.Forall₂ related left right)
    (references : List Nat) :
    Option.Rel (List.Forall₂ related) (references.mapM (left[·]?))
      (references.mapM (right[·]?)) := by
  induction references with
  | nil => exact .some .nil
  | cons first rest inductionHypothesis =>
    rw [List.mapM_cons, List.mapM_cons]
    have here := rel_getElem? values first
    generalize left[first]? = leftHere at here
    generalize right[first]? = rightHere at here
    cases here with
    | none => exact .none
    | some same =>
      generalize rest.mapM (left[·]?) = leftRest at inductionHypothesis
      generalize rest.mapM (right[·]?) = rightRest at inductionHypothesis
      cases inductionHypothesis with
      | none => exact .none
      | some others => exact .some (.cons same others)

/-- Evaluations resolve in related lists to related evaluations. -/
theorem rel_resolve? {left right : List SlotValue} (values : List.Forall₂ related left right)
    (evaluation : Evaluation Nat) :
    Option.Rel (Evaluation.Rel related) (evaluation.resolve? left) (evaluation.resolve? right) := by
  cases evaluation with
  | constant type handle => exact .some (.constant type handle)
  | fieldRead type handle => exact .some (.fieldRead type handle)
  | unknown type handle => exact .some (.unknown type handle)
  | call type handle references =>
    have arguments := rel_mapM_getElem? values references
    simp only [Evaluation.resolve?]
    generalize references.mapM (left[·]?) = leftArguments at arguments
    generalize references.mapM (right[·]?) = rightArguments at arguments
    cases arguments with
    | none => exact .none
    | some same => exact .some (.call type handle same)

end Relations

/-- Two evaluators over one method body that give related values. Each of them keeps its store in a set of
stores that are closed under queries. -/
structure Simulation {σ : Type} (first second : Evaluator σ)
    (related : SlotValue → SlotValue → Prop) (firstStores secondStores : Store σ → Prop) :
    Prop where
  body_eq : first.body = second.body
  refl : ∀ value, related value value
  join : ∀ {left left' right right'}, related left left' → related right right' →
    ∀ site, related (left.join right site) (left'.join right' site)
  fieldRead : ∀ type handle field {store other}, firstStores store → secondStores other →
    related (.ofAnswer type handle (first.oracleAnswer (.field type field) store))
      (.ofAnswer type handle (second.oracleAnswer (.field type field) other))
  call : ∀ type handle method {left right}, List.Forall₂ related left right →
    ∀ {store other}, firstStores store → secondStores other →
      related (first.methodValue type handle method left store)
        (second.methodValue type handle method right other)
  firstKeeps : ∀ query {store}, firstStores store →
    firstStores (first.oracle.ask query store).store
  secondKeeps : ∀ query {store}, secondStores store →
    secondStores (second.oracle.ask query store).store

namespace Simulation

variable {σ : Type} {first second : Evaluator σ} {related : SlotValue → SlotValue → Prop}
  {firstStores secondStores : Store σ → Prop}

/-- Related evaluations fail alike or give related values. -/
theorem perform (simulation : Simulation first second related firstStores secondStores)
    {left right : Evaluation SlotValue} (evaluation : Evaluation.Rel related left right)
    {store other : Store σ} (firstStore : firstStores store) (secondStore : secondStores other) :
    Alike related (first.perform left store).result (second.perform right other).result := by
  have refl := Alike.refl simulation.refl
  cases evaluation with
  | constant type handle =>
    simp only [Evaluator.perform, Evaluator.constant, Evaluator.unknown, simulation.body_eq]
    exact refl _
  | unknown type handle =>
    simp only [Evaluator.perform, Evaluator.unknown, simulation.body_eq]
    exact refl _
  | fieldRead type handle =>
    simp only [Evaluator.perform, Evaluator.result_fieldRead, simulation.body_eq]
    refine Alike.map (fun field => ?_) _
    exact simulation.fieldRead type handle field firstStore secondStore
  | call type handle arguments =>
    simp only [Evaluator.perform, Evaluator.result_call, simulation.body_eq]
    refine Alike.map (fun invoked => ?_) _
    cases invoked with
    | none => exact simulation.refl _
    | some method => exact simulation.call type handle method arguments firstStore secondStore

/-- Evaluations keep the stores of both evaluators in their sets. -/
theorem keeps {evaluator : Evaluator σ} {stores : Store σ → Prop}
    (keeps : ∀ query {store}, stores store → stores (evaluator.oracle.ask query store).store)
    (evaluation : Evaluation SlotValue) {store : Store σ} (within : stores store) :
    stores (evaluator.perform evaluation store).store := by
  rcases evaluator.store_perform evaluation store with same | ⟨query, asked⟩
  · rw [same]
    exact within
  · rw [asked]
    exact keeps query within

/-- A step fails in both evaluators alike or gives related values, and both stores stay in their sets. -/
theorem step (simulation : Simulation first second related firstStores secondStores)
    {left right : List SlotValue} (values : List.Forall₂ related left right)
    {store other : Store σ} (firstStore : firstStores store) (secondStore : secondStores other)
    (step : Step) :
    Option.Rel (Alike related) (first.step left store step).1 (second.step right other step).1 ∧
      firstStores (first.step left store step).2 ∧
      secondStores (second.step right other step).2 := by
  cases step with
  | evaluate evaluation =>
    have resolved := rel_resolve? values evaluation
    simp only [Evaluator.step]
    generalize evaluation.resolve? left = leftEvaluation at resolved
    generalize evaluation.resolve? right = rightEvaluation at resolved
    cases resolved with
    | none => exact ⟨.none, firstStore, secondStore⟩
    | some same =>
      exact ⟨.some (simulation.perform same firstStore secondStore),
        keeps simulation.firstKeeps _ firstStore, keeps simulation.secondKeeps _ secondStore⟩
  | join leftIndex rightIndex site =>
    have leftOperands := rel_getElem? values leftIndex
    have rightOperands := rel_getElem? values rightIndex
    simp only [Evaluator.step]
    generalize left[leftIndex]? = firstLeft at leftOperands
    generalize right[leftIndex]? = secondLeft at leftOperands
    generalize left[rightIndex]? = firstRight at rightOperands
    generalize right[rightIndex]? = secondRight at rightOperands
    cases leftOperands with
    | none => exact ⟨.none, firstStore, secondStore⟩
    | some firstSame =>
      cases rightOperands with
      | none => exact ⟨.none, firstStore, secondStore⟩
      | some secondSame =>
        exact ⟨.some (.ok (simulation.join firstSame secondSame site)), firstStore, secondStore⟩

/-- Each step of a program fails in both evaluators alike or gives related values. -/
theorem results (simulation : Simulation first second related firstStores secondStores)
    (program : List Step) {left right : List SlotValue} (values : List.Forall₂ related left right)
    {store other : Store σ} (firstStore : firstStores store) (secondStore : secondStores other) :
    List.Forall₂ (Option.Rel (Alike related)) (first.results program left store)
      (second.results program right other) := by
  induction program generalizing left right store other with
  | nil => exact .nil
  | cons step rest inductionHypothesis =>
    obtain ⟨result, firstNext, secondNext⟩ :=
      simulation.step values firstStore secondStore step
    exact .cons result (inductionHypothesis (forall₂_gain values result) firstNext secondNext)

end Simulation

end ConstProp
