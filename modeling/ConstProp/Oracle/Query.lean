import ConstProp.Slot.Value

/-!
# Queries

What an analysis asks an oracle: the value of a field, or the result of a call with given arguments.
The answer is a constant, or nothing when the oracle cannot tell.

A query has a key, which is all of it that may decide the answer: of the arguments only their values on
the stack count, and all unknown arguments are alike.
-/

namespace ConstProp

/-- The answer to a query: a constant, or none when it is unresolved. -/
abbrev Resolution := Option Constant

/-- A question to an oracle. -/
inductive Query where
  /-- The value of a field, read into a slot of a type. -/
  | field (type : SlotType) (member : Member)
  /-- The result of a call, taken into a slot of a type. -/
  | call (type : SlotType) (member : Member) (arguments : List SlotValue)
  deriving DecidableEq, Repr

namespace Query

/-- Whether a query is about a field or a call. -/
inductive Kind where
  | field | call
  deriving DecidableEq, Repr

/-- The name of a kind in messages. -/
def Kind.display : Kind → String
  | .field => "field"
  | .call => "call"

instance : ToString Kind := ⟨Kind.display⟩

/-- What of a query may decide its answer. -/
structure Key where
  kind : Kind
  type : SlotType
  member : Member
  /-- The stack values of the arguments, with none for each unknown one. -/
  arguments : List (Option Constant)
  deriving DecidableEq, Repr

/-- Whether a query is about a field or a call. -/
def kind : Query → Kind
  | .field .. => .field
  | .call .. => .call

/-- The member a query is about. -/
def member : Query → Member
  | .field _ member | .call _ member _ => member

/-- The type of the slot that takes the answer. -/
def type : Query → SlotType
  | .field type _ | .call type _ _ => type

/-- The arguments of a call; a field has none. -/
def arguments : Query → List SlotValue
  | .field .. => []
  | .call _ _ arguments => arguments

/-- The value of an argument on the stack. -/
def argumentKey (argument : SlotValue) : Option Constant :=
  argument.stackValue?.map Constant.computational

/-- What of the query may decide its answer. -/
def key (query : Query) : Key :=
  ⟨query.kind, query.type, query.member, query.arguments.map argumentKey⟩

/-- Arguments that agree in pairs have the same keys. -/
theorem argumentKey_eq_of_agrees {left right : SlotValue} (same : left.agrees right = true) :
    argumentKey left = argumentKey right :=
  SlotValue.stackValue?_eq_of_agrees same

end Query

end ConstProp
