import ConstProp.Evaluation.Policy

/-!
# Evaluating instructions

What a single instruction puts into a slot: a constant load its constant, a field read or a call what
the oracle or the intrinsic methods know. An answer is adopted if it is no class literal and fits the
type of the slot; otherwise the value is unknown. A known result of a call is pinned unless the call was
evaluated or the policy takes calls for pure.
-/

namespace ConstProp

/-- A method body under analysis, with the oracle to ask and the policy to follow. -/
structure Evaluator (σ : Type) where
  body : Body
  oracle : Oracle σ
  policy : Policy

/-- What comes of an evaluation: the value or an error, the store afterwards, and the events on the
way. -/
structure Outcome (σ : Type) where
  result : Except Error SlotValue
  store : Store σ
  events : List Event

/-- Whether a slot of a type takes over an answer. A slot without a type takes any number or text. -/
def SlotType.adopts (type : SlotType) : Constant → Bool
  | .classLiteral _ => false
  | constant => type = .uninitialized || type.accepts constant

namespace Evaluator

variable {σ : Type}

/-- The answer, if a slot of a type takes it over. -/
def adopt (type : SlotType) (answer : Resolution) : Resolution :=
  answer.filter type.adopts

/-- What is reported of an answer: whether it was taken over, and if not, why. -/
def adoptEvents (type : SlotType) (handle : Handle) (member : Member) : Resolution → List Event
  | none => []
  | some (.classLiteral name) => [.classLiteral member handle (.classLiteral name)]
  | some value =>
    if type.adopts value then [.adopted member handle value]
    else [.misfit member handle value type]

/-- The unknown result of an instruction. -/
def unknown (evaluator : Evaluator σ) (type : SlotType) (handle : Handle) :
    Except Error SlotValue :=
  SlotValue.unknown type handle evaluator.body

/-- The value that a constant load puts into a slot of a type. Class literals and the null reference
are unknown values. -/
def constant (evaluator : Evaluator σ) (type : SlotType) (handle : Handle) :
    Except Error SlotValue :=
  match evaluator.body.fetch handle with
  | .error error => .error error
  | .ok instruction =>
    match instruction.pushed? with
    | some (.classLiteral _) => evaluator.unknown type handle
    | some value => SlotValue.ofConstant type handle value
    | none =>
      if instruction.opcode? = some .aconstNull then evaluator.unknown type handle
      else .error (.unexpectedInstruction .constantLoad instruction.shape)

/-- Looks up a field in the oracle. -/
def lookUpField (evaluator : Evaluator σ) (type : SlotType) (handle : Handle) (field : Member)
    (store : Store σ) : Outcome σ :=
  let reply := evaluator.oracle.ask (.field type field) store
  let events := reply.events ++ adoptEvents type handle field reply.answer
  match adopt type reply.answer with
  | some value => ⟨SlotValue.ofConstant type handle value, reply.store, events⟩
  | none => ⟨evaluator.unknown type handle, reply.store, events⟩

/-- The value that a field read puts into a slot of a type. -/
def fieldRead (evaluator : Evaluator σ) (type : SlotType) (handle : Handle) (store : Store σ) :
    Outcome σ :=
  match evaluator.body.fetch handle with
  | .error error => ⟨.error error, store, []⟩
  | .ok (.field opcode field) =>
    if opcode.isFieldRead then
      if evaluator.policy.consultOracle then evaluator.lookUpField type handle field store
      else ⟨evaluator.unknown type handle, store, []⟩
    else ⟨.error (.unexpectedInstruction .fieldRead .field), store, []⟩
  | .ok instruction => ⟨.error (.unexpectedInstruction .fieldRead instruction.shape), store, []⟩

/-- The known result of a call that the oracle answered, pinned unless calls are taken for pure. -/
def oracleResult (evaluator : Evaluator σ) (value : SlotValue) : SlotValue :=
  if evaluator.policy.assumePureCalls then value else value.pin

/-- What is reported of such a result: that the call stays in the code. -/
def oracleResultEvents (evaluator : Evaluator σ) (handle : Handle) (method : Member)
    (value : SlotValue) : List Event :=
  if evaluator.policy.assumePureCalls then [] else [.keptCall method handle value]

/-- Looks up the result of a call in the oracle. -/
def lookUpCall (evaluator : Evaluator σ) (type : SlotType) (handle : Handle) (method : Member)
    (arguments : List SlotValue) (store : Store σ) : Outcome σ :=
  let reply := evaluator.oracle.ask (.call type method arguments) store
  let events := reply.events ++ adoptEvents type handle method reply.answer
  match adopt type reply.answer with
  | none => ⟨evaluator.unknown type handle, reply.store, events⟩
  | some constant =>
    match SlotValue.ofConstant type handle constant with
    | .error error => ⟨.error error, reply.store, events⟩
    | .ok value =>
      ⟨.ok (evaluator.oracleResult value), reply.store,
        events ++ evaluator.oracleResultEvents handle method value⟩

/-- The answer of the intrinsic methods to a query, if the policy lets them answer. -/
def foldedAnswer (evaluator : Evaluator σ) (query : Query) : Resolution :=
  if evaluator.policy.foldIntrinsics then Intrinsic.answer query else none

/-- What is reported of that answer. -/
def foldedEvents (evaluator : Evaluator σ) (query : Query) : List Event :=
  if evaluator.policy.foldIntrinsics then Intrinsic.events query else []

/-- The result of a call of a method: evaluated, or else looked up. -/
def invoke (evaluator : Evaluator σ) (type : SlotType) (handle : Handle) (method : Member)
    (arguments : List SlotValue) (store : Store σ) : Outcome σ :=
  let query := Query.call type method arguments
  let folded := evaluator.foldedAnswer query
  let events := evaluator.foldedEvents query ++ adoptEvents type handle method folded
  match adopt type folded with
  | some value => ⟨SlotValue.ofConstant type handle value, store, events⟩
  | none =>
    if evaluator.policy.consultOracle then
      let outcome := evaluator.lookUpCall type handle method arguments store
      ⟨outcome.result, outcome.store, events ++ outcome.events⟩
    else ⟨evaluator.unknown type handle, store, events⟩

/-- The value that a call puts into a slot of a type. Nothing is known of dynamic call sites. -/
def call (evaluator : Evaluator σ) (type : SlotType) (handle : Handle)
    (arguments : List SlotValue) (store : Store σ) : Outcome σ :=
  match evaluator.body.fetch handle with
  | .error error => ⟨.error error, store, []⟩
  | .ok (.method _ method _) => evaluator.invoke type handle method arguments store
  | .ok (.invokeDynamic ..) => ⟨evaluator.unknown type handle, store, []⟩
  | .ok instruction =>
    ⟨.error (.unexpectedInstruction .methodInvocation instruction.shape), store, []⟩

end Evaluator

end ConstProp
