import ConstProp.Proofs.Evaluation.IntrinsicStage
import ConstProp.Proofs.Oracle.Signature

/-!
# Expressions of folded calls

An expression is a tree of calls over given values, evaluated from the leaves to the root by one
evaluator. If its oracle knows nothing, the intrinsic methods alone decide what is known, and the value of
an expression is a function of the expression (`Expression.value`, `Evaluator.FoldsOnly.yields_iff`).

A call looks at the keys of its arguments and at nothing else of them. Results come back as characters and
truth values and are taken as integers by the next call, so what counts of an inner result is its key: it
can be replaced by any value with the same one (`Expression.value_replaceAt`). This and the types of single
calls make up the main statement (`folding_composes`).
-/

namespace ConstProp

/-- A tree of calls over given values. -/
inductive Expression where
  /-- A given value, known or not. -/
  | leaf (value : SlotValue)
  /-- The call of a method at a handle, whose arguments are the values of expressions. -/
  | call (handle : Handle) (method : Member) (arguments : List Expression)

/-- The type of the slot for the results of a method: the type that its descriptor returns, if there is
one. -/
def Member.returnSlot (method : Member) : SlotType :=
  (SlotType.ofReturn? method.descriptor).getD .uninitialized

theorem Member.returnSlot_receives (method : Member) : method.returnSlot.Receives method := by
  unfold SlotType.Receives returnSlot
  cases SlotType.ofReturn? method.descriptor with
  | none => exact Or.inl rfl
  | some type => exact Or.inr rfl

namespace Expression

/-- Every call stands in a method body: a call of its method is at its handle. -/
inductive StandsIn (body : Body) : Expression → Prop where
  | leaf (value : SlotValue) : StandsIn body (.leaf value)
  | call {handle : Handle} {opcode : Opcode} {method : Member} {ofInterface : Bool}
      {arguments : List Expression}
      (present : body.get? handle = some (.method opcode method ofInterface))
      (standing : ∀ argument ∈ arguments, StandsIn body argument) :
      StandsIn body (.call handle method arguments)

/-- The part of an expression at a path, which says at each call which argument to go to. -/
def at? : Expression → List Nat → Option Expression
  | expression, [] => some expression
  | .leaf _, _ :: _ => none
  | .call _ _ arguments, index :: path => arguments[index]?.bind fun argument => argument.at? path

/-- The expression with the part at a path replaced. -/
def replaceAt : Expression → List Nat → Expression → Expression
  | _, [], replacement => replacement
  | .leaf value, _ :: _, _ => .leaf value
  | .call handle method arguments, index :: path, replacement =>
    .call handle method (arguments.modify index fun argument => argument.replaceAt path replacement)

mutual

/-- The value of an expression if nothing but the intrinsic methods is asked. -/
def value : Expression → SlotValue
  | .leaf value => value
  | .call handle method arguments =>
    .ofAnswer method.returnSlot handle
      (Intrinsic.answer (.call method.returnSlot method (values arguments)))

/-- The values of expressions in order. -/
def values : List Expression → List SlotValue
  | [] => []
  | first :: rest => first.value :: values rest

end

theorem values_eq_map (expressions : List Expression) : values expressions = expressions.map value := by
  induction expressions with
  | nil => rfl
  | cons first rest inductionHypothesis => rw [values, inductionHypothesis, List.map_cons]

/-- A slot of the type that the method returns takes over all that the intrinsic methods answer. -/
theorem isKnown_value_call (handle : Handle) (method : Member) (arguments : List Expression) :
    (value (.call handle method arguments)).isKnown =
      (Intrinsic.answer (.call method.returnSlot method (values arguments))).isSome := by
  rw [value, SlotValue.isKnown_ofAnswer, Evaluator.adopt_answer method.returnSlot_receives]

section Parts

variable {expression part : Expression} {path : List Nat} {body : Body}

@[simp] theorem at?_nil (expression : Expression) : expression.at? [] = some expression := by
  cases expression <;> rfl

/-- What lies below a call lies in one of its arguments. -/
theorem exists_of_at?_cons {index : Nat} (place : expression.at? (index :: path) = some part) :
    ∃ handle method arguments argument, expression = .call handle method arguments ∧
      arguments[index]? = some argument ∧ argument.at? path = some part := by
  cases expression with
  | leaf value => cases place
  | call handle method arguments =>
    obtain ⟨argument, found, rest⟩ := Option.bind_eq_some_iff.mp place
    exact ⟨handle, method, arguments, argument, rfl, found, rest⟩

theorem StandsIn.at? (stands : expression.StandsIn body) (place : expression.at? path = some part) :
    part.StandsIn body := by
  induction path generalizing expression with
  | nil =>
    rw [at?_nil, Option.some.injEq] at place
    exact place ▸ stands
  | cons index path inductionHypothesis =>
    obtain ⟨_, _, _, argument, rfl, found, rest⟩ := exists_of_at?_cons place
    cases stands with
    | call _ standing =>
      exact inductionHypothesis (standing argument (List.mem_of_getElem? found)) rest

/-- A known value is made of known values only. -/
theorem isKnown_at? (known : expression.value.isKnown = true)
    (place : expression.at? path = some part) : part.value.isKnown = true := by
  induction path generalizing expression with
  | nil =>
    rw [at?_nil, Option.some.injEq] at place
    exact place ▸ known
  | cons index path inductionHypothesis =>
    obtain ⟨handle, method, arguments, argument, rfl, found, rest⟩ := exists_of_at?_cons place
    refine inductionHypothesis ?_ rest
    rw [isKnown_value_call, values_eq_map] at known
    obtain ⟨result, answered⟩ := Option.isSome_iff_exists.mp known
    exact Intrinsic.isKnown_of_answer answered _ (List.mem_map_of_mem (List.mem_of_getElem? found))

/-- The value of a call depends on the keys of its arguments alone. -/
theorem value_call_congr {left right : List Expression}
    (same : left.map (fun argument => Query.argumentKey argument.value) =
      right.map fun argument => Query.argumentKey argument.value)
    (handle : Handle) (method : Member) :
    value (.call handle method left) = value (.call handle method right) := by
  have keys : (values left).map Query.argumentKey = (values right).map Query.argumentKey := by
    simpa [values_eq_map, Function.comp_def] using same
  simp only [value, Intrinsic.answer, keys]

/-- A call whose argument keeps its key keeps its value. -/
theorem value_replaceAt_call {handle : Handle} {method : Member} {arguments : List Expression}
    {index : Nat} {argument replacement : Expression} (found : arguments[index]? = some argument)
    (same : Query.argumentKey (argument.replaceAt path replacement).value =
      Query.argumentKey argument.value) :
    ((call handle method arguments).replaceAt (index :: path) replacement).value =
      (call handle method arguments).value := by
  refine value_call_congr (List.ext_getElem? fun position => ?_) handle method
  rw [List.getElem?_map, List.getElem?_map, List.getElem?_modify]
  by_cases here : index = position
  · subst here
    simp [found, same]
  · simp [here]

/-- Where a part is replaced by one of the same key, the key of the whole stays. -/
theorem argumentKey_replaceAt {replacement : Expression}
    (place : expression.at? path = some part)
    (same : Query.argumentKey replacement.value = Query.argumentKey part.value) :
    Query.argumentKey (expression.replaceAt path replacement).value =
      Query.argumentKey expression.value := by
  induction path generalizing expression with
  | nil =>
    rw [at?_nil, Option.some.injEq] at place
    subst place
    cases expression <;> exact same
  | cons index path inductionHypothesis =>
    obtain ⟨_, _, _, argument, rfl, found, rest⟩ := exists_of_at?_cons place
    rw [value_replaceAt_call found (inductionHypothesis rest)]

/-- Where an inner part is replaced by one of the same key, the value of the whole stays. -/
theorem value_replaceAt {replacement : Expression} (inner : path ≠ [])
    (place : expression.at? path = some part)
    (same : Query.argumentKey replacement.value = Query.argumentKey part.value) :
    (expression.replaceAt path replacement).value = expression.value := by
  obtain ⟨index, rest, rfl⟩ := List.exists_cons_of_ne_nil inner
  obtain ⟨_, _, _, argument, rfl, found, below⟩ := exists_of_at?_cons place
  exact value_replaceAt_call found (argumentKey_replaceAt below same)

theorem StandsIn.replaceAt {replacement : Expression} (stands : expression.StandsIn body)
    (replacementStands : replacement.StandsIn body) :
    (expression.replaceAt path replacement).StandsIn body := by
  induction path generalizing expression with
  | nil => cases expression <;> exact replacementStands
  | cons index path inductionHypothesis =>
    cases stands with
    | leaf value => exact .leaf value
    | call present standing =>
      refine .call present fun argument member => ?_
      obtain ⟨position, found⟩ := List.mem_iff_getElem?.mp member
      rw [List.getElem?_modify] at found
      obtain ⟨former, formerFound, rfl⟩ := Option.map_eq_some_iff.mp found
      have formerStands := standing former (List.mem_of_getElem? formerFound)
      split
      · exact inductionHypothesis formerStands
      · exact formerStands

end Parts

end Expression

namespace Evaluator

variable {σ : Type}

mutual

/-- Evaluates an expression, first the arguments of a call from left to right and then the call itself,
each with the store that the one before it leaves. -/
def evaluate (evaluator : Evaluator σ) : Expression → Store σ → Except Error SlotValue × Store σ
  | .leaf value, store => (.ok value, store)
  | .call handle method arguments, store =>
    match evaluator.evaluateAll arguments store with
    | (.error error, next) => (.error error, next)
    | (.ok values, next) =>
      let outcome := evaluator.call method.returnSlot handle values next
      (outcome.result, outcome.store)

/-- Evaluates expressions in order until one fails. -/
def evaluateAll (evaluator : Evaluator σ) :
    List Expression → Store σ → Except Error (List SlotValue) × Store σ
  | [], store => (.ok [], store)
  | first :: rest, store =>
    match evaluator.evaluate first store with
    | (.error error, next) => (.error error, next)
    | (.ok value, next) =>
      match evaluator.evaluateAll rest next with
      | (.error error, last) => (.error error, last)
      | (.ok values, last) => (.ok (value :: values), last)

end

section Steps

variable {evaluator : Evaluator σ} {store : Store σ}

/-- Once its arguments have values, a call is evaluated with these. -/
theorem evaluate_call {handle : Handle} {method : Member} {arguments : List Expression}
    {values : List SlotValue} (all : (evaluator.evaluateAll arguments store).1 = .ok values) :
    (evaluator.evaluate (.call handle method arguments) store).1 =
      (evaluator.call method.returnSlot handle values
        (evaluator.evaluateAll arguments store).2).result := by
  rw [evaluate]
  split
  case h_1 failed =>
    rw [failed] at all
    cases all
  case h_2 evaluated =>
    rw [evaluated] at all ⊢
    cases all
    rfl

theorem evaluateAll_cons {first : Expression} {rest : List Expression} {value : SlotValue}
    {values : List SlotValue} (head : (evaluator.evaluate first store).1 = .ok value)
    (tail : (evaluator.evaluateAll rest (evaluator.evaluate first store).2).1 = .ok values) :
    (evaluator.evaluateAll (first :: rest) store).1 = .ok (value :: values) := by
  rw [evaluateAll]
  split
  case h_1 failed =>
    rw [failed] at head
    cases head
  case h_2 evaluated =>
    rw [evaluated] at head tail
    cases head
    split
    case h_1 failed =>
      rw [failed] at tail
      cases tail
    case h_2 evaluatedAll =>
      rw [evaluatedAll] at tail
      cases tail
      rfl

end Steps

/-- From whatever store it is evaluated, the expression gives the value. -/
def Yields (evaluator : Evaluator σ) (expression : Expression) (value : SlotValue) : Prop :=
  ∀ store, (evaluator.evaluate expression store).1 = .ok value

theorem Yields.unique [Nonempty σ] {evaluator : Evaluator σ} {expression : Expression}
    {first second : SlotValue} (yieldsFirst : evaluator.Yields expression first)
    (yieldsSecond : evaluator.Yields expression second) : first = second := by
  obtain ⟨world⟩ := ‹Nonempty σ›
  have same := (yieldsFirst (.empty world)).symm.trans (yieldsSecond (.empty world))
  exact Except.ok.inj same

theorem evaluateAll_eq_values {evaluator : Evaluator σ} {expressions : List Expression}
    (each : ∀ expression ∈ expressions, evaluator.Yields expression expression.value)
    (store : Store σ) :
    (evaluator.evaluateAll expressions store).1 = .ok (Expression.values expressions) := by
  induction expressions generalizing store with
  | nil => rfl
  | cons first rest inductionHypothesis =>
    have head := each first List.mem_cons_self store
    have tail := inductionHypothesis
      (fun expression member => each expression (List.mem_cons_of_mem first member))
    exact evaluateAll_cons head (tail _)

/-- All that the value of an expression is made of is known: every leaf, and the answer of the intrinsic
methods to every call with what its arguments yield. -/
structure Resolves (evaluator : Evaluator σ) (expression : Expression) : Prop where
  leaves : ∀ path value, expression.at? path = some (.leaf value) → value.isKnown = true
  calls : ∀ path handle method arguments values,
    expression.at? path = some (.call handle method arguments) →
      List.Forall₂ evaluator.Yields arguments values →
        (Intrinsic.answer (.call method.returnSlot method values)).isSome = true

/-- The intrinsic methods may answer, and the oracle never does. -/
structure FoldsOnly (evaluator : Evaluator σ) : Prop where
  folds : evaluator.policy.foldIntrinsics = true
  unanswered : ∀ query store, (evaluator.oracle.ask query store).answer = none

namespace FoldsOnly

variable {evaluator : Evaluator σ} (only : evaluator.FoldsOnly)

include only

/-- Where the oracle answers nothing, the value of a call is what the intrinsic methods know of it. -/
theorem result_call {handle : Handle} {opcode : Opcode} {method : Member} {ofInterface : Bool}
    (present : evaluator.body.get? handle = some (.method opcode method ofInterface))
    (type : SlotType) (arguments : List SlotValue) (store : Store σ) :
    (evaluator.call type handle arguments store).result =
      .ok (.ofAnswer type handle (Intrinsic.answer (.call type method arguments))) := by
  have unanswered : evaluator.oracleAnswer (.call type method arguments) store = none := by
    rw [oracleAnswer, only.unanswered, ite_self]
  have unpinned : evaluator.fromOracle (.ofAnswer type handle none) = .ofAnswer type handle none := rfl
  rw [evaluator.call_of_method type handle present, evaluator.result_invoke type handle present rfl]
  simp only [methodValue, foldedAnswer, only.folds, if_true, unanswered, unpinned,
    SlotValue.isKnown_ofAnswer]
  split
  case isTrue => rfl
  case isFalse unknown =>
    have rejected : adopt type (Intrinsic.answer (.call type method arguments)) = none := by
      simpa using unknown
    rw [SlotValue.ofAnswer_of_adopt_eq_none rejected]

/-- What an expression yields that stands in the method body is its value. -/
theorem yields_value {expression : Expression} (stands : expression.StandsIn evaluator.body) :
    evaluator.Yields expression expression.value := by
  -- By induction on how the expression stands in the body: a call comes with all of its arguments at once.
  induction stands with
  | leaf value =>
    intro store
    rfl
  | call present standing inductionHypothesis =>
    intro store
    rw [evaluate_call (evaluateAll_eq_values inductionHypothesis store),
      only.result_call present, Expression.value]

variable [Nonempty σ]

theorem yields_iff {expression : Expression} (stands : expression.StandsIn evaluator.body)
    {value : SlotValue} : evaluator.Yields expression value ↔ value = expression.value := by
  constructor
  · intro yields
    exact yields.unique (only.yields_value stands)
  · rintro rfl
    exact only.yields_value stands

theorem forall₂_yields_iff {expressions : List Expression}
    (stands : ∀ expression ∈ expressions, expression.StandsIn evaluator.body) {values : List SlotValue} :
    List.Forall₂ evaluator.Yields expressions values ↔ values = Expression.values expressions := by
  constructor
  · intro yields
    induction yields with
    | nil => rfl
    | cons head _ inductionHypothesis =>
      rw [Expression.values, (only.yields_iff (stands _ List.mem_cons_self)).mp head,
        inductionHypothesis fun expression member => stands expression (List.mem_cons_of_mem _ member)]
  · rintro rfl
    rw [Expression.values_eq_map, List.forall₂_map_right_iff, List.forall₂_same]
    intro expression member
    exact only.yields_value (stands expression member)

/-- The value of an expression is known exactly if all that it is made of is. -/
theorem isKnown_value_iff {expression : Expression} (stands : expression.StandsIn evaluator.body) :
    expression.value.isKnown = true ↔ evaluator.Resolves expression := by
  constructor
  · intro known
    constructor
    · intro path value place
      exact Expression.isKnown_at? known place
    · intro path handle method arguments values place yields
      have part := Expression.isKnown_at? known place
      cases stands.at? place with
      | call _ standing =>
        rwa [(only.forall₂_yields_iff standing).mp yields, ← Expression.isKnown_value_call]
  · intro resolves
    -- The answer to the outermost call suffices, since there is none with unknown arguments.
    cases stands with
    | leaf value => exact resolves.leaves [] value rfl
    | call _ standing =>
      rw [Expression.isKnown_value_call]
      exact resolves.calls [] _ _ _ _ rfl ((only.forall₂_yields_iff standing).mpr rfl)

end FoldsOnly

end Evaluator

/-- Folding is strict, well typed and compositional. A call is folded only with known arguments, of the
number and the types that the descriptor of its method says, and its result fits the type that the
descriptor returns. So, where the intrinsic methods may answer and the oracle never does, every expression
that stands in a method body yields a value. It is known exactly if all leaves are known and the intrinsic
methods answer every call with what its arguments yield; no call yields a pinned value; and it stays the
same if what an inner part yields is given instead as a value with the same key, such as one that agrees. -/
theorem folding_composes {σ : Type} [Nonempty σ] :
    (∀ {type : SlotType} {method : Member} {arguments : List SlotValue} {result : Constant},
      Intrinsic.answer (.call type method arguments) = some result →
        Intrinsic.WellTyped method arguments result) ∧
    ∀ {evaluator : Evaluator σ}, evaluator.FoldsOnly →
      ∀ {expression : Expression}, expression.StandsIn evaluator.body →
        ∃ value, evaluator.Yields expression value ∧
          (value.isKnown = true ↔ evaluator.Resolves expression) ∧
          (∀ path handle method arguments inner,
            expression.at? path = some (.call handle method arguments) →
              evaluator.Yields (.call handle method arguments) inner → inner.isPinned = false) ∧
          ∀ path part result replacement, path ≠ [] → expression.at? path = some part →
            evaluator.Yields part result →
              Query.argumentKey replacement = Query.argumentKey result →
                evaluator.Yields (expression.replaceAt path (.leaf replacement)) value := by
  refine ⟨Intrinsic.wellTyped_of_answer, ?_⟩
  intro evaluator only expression stands
  refine ⟨expression.value, only.yields_value stands, only.isKnown_value_iff stands, ?_, ?_⟩
  · intro path handle method arguments inner place yields
    rw [(only.yields_iff (stands.at? place)).mp yields, Expression.value]
    exact SlotValue.isPinned_ofAnswer _ _ _
  · intro path part result replacement inner place yields same
    rw [(only.yields_iff (stands.at? place)).mp yields] at same
    have kept := @Expression.value_replaceAt _ _ _ (.leaf replacement) inner place same
    rw [only.yields_iff (stands.replaceAt (.leaf replacement)), kept]

/-- Two texts are compared and the truth value is turned into a text, which takes it for an integer. An
integer in its place, pinned and from elsewhere, makes no difference. -/
theorem folding_composes_equals :
    let equals := Intrinsic.stringEquals.member
    let valueOf := Intrinsic.textOfBoolean.member
    let evaluator : Evaluator Unit :=
      ⟨.ofList [.method .invokevirtual equals false, .method .invokestatic valueOf false], .silent,
        .conservative⟩
    let left := SlotValue.ofText .string ⟨5⟩ "a"
    let right := SlotValue.ofText (.reference none) ⟨6⟩ "a"
    let compared : Expression := .call ⟨0⟩ equals [.leaf left, .leaf right]
    let shown : Expression := .call ⟨1⟩ valueOf [compared]
    let truth := SlotValue.ofNumber .int ⟨0⟩ (.boolean true)
    let one := (SlotValue.ofNumber .long ⟨7⟩ (.int 1)).pin
    let text := SlotValue.ofText .string ⟨1⟩ "true"
    Intrinsic.answer (.call .int equals [left, right]) = some (.number (.boolean true)) ∧
      Intrinsic.WellTyped equals [left, right] (.number (.boolean true)) ∧
      evaluator.FoldsOnly ∧ shown.StandsIn evaluator.body ∧
      evaluator.Yields shown text ∧ text.isKnown = true ∧ evaluator.Resolves shown ∧
      evaluator.Yields compared truth ∧ truth.isPinned = false ∧ one.agrees truth = true ∧
      evaluator.Yields (.call ⟨1⟩ valueOf [.leaf one]) text := by
  intro equals valueOf evaluator left right compared shown truth one text
  obtain ⟨typed, composed⟩ := @folding_composes Unit _
  have answered :
      Intrinsic.answer (.call .int equals [left, right]) = some (.number (.boolean true)) := by
    decide
  have only : evaluator.FoldsOnly := ⟨rfl, fun _ _ => rfl⟩
  have comparison : evaluator.body.get? ⟨0⟩ = some (.method .invokevirtual equals false) := rfl
  have conversion : evaluator.body.get? ⟨1⟩ = some (.method .invokestatic valueOf false) := rfl
  have comparedStands : compared.StandsIn evaluator.body := by
    refine .call comparison fun argument member => ?_
    rcases List.mem_pair.mp member with rfl | rfl
    · exact .leaf left
    · exact .leaf right
  have stands : shown.StandsIn evaluator.body := by
    refine .call conversion fun argument member => ?_
    rw [List.mem_singleton.mp member]
    exact comparedStands
  have shows : evaluator.Yields shown text := (only.yields_iff stands).mpr (by decide)
  have compares : evaluator.Yields compared truth := (only.yields_iff comparedStands).mpr (by decide)
  have agree : one.agrees truth = true := by decide
  obtain ⟨value, yields, known, unpinned, replaced⟩ := composed only stands
  cases yields.unique shows
  refine ⟨answered, typed answered, only, stands, shows, rfl, known.mp rfl, compares, ?_, agree, ?_⟩
  · exact unpinned [0] ⟨0⟩ equals [.leaf left, .leaf right] truth rfl compares
  · exact replaced [0] compared truth one (by simp) rfl compares
      (Query.argumentKey_eq_of_agrees agree)

end ConstProp
