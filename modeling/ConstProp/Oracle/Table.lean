import ConstProp.Event
import ConstProp.Oracle.Access

/-!
# Constant tables

Values registered ahead of an analysis: of fields, with their access flags, and of methods without
arguments. A registration is refused if the descriptor of its member cannot hold the value. A table
answers for a field only while its flags say that the value cannot change, and for a call of at most
one argument, which is then the receiver.

Main statements: what a table answers after a registration (`registeredField?_insertField`,
`registeredResult?_insertReturn`).
-/

namespace ConstProp

/-- Why a registration is refused. -/
inductive Refusal where
  /-- The descriptor of a field is not a field descriptor. -/
  | invalidFieldDescriptor (field : Member)
  /-- A field of this type cannot hold the value. -/
  | unfitFieldValue (field : Member) (type : SlotType) (value : Constant)
  /-- The method takes arguments. -/
  | takesArguments (method : Member)
  /-- The method does not return a value. -/
  | noResult (method : Member)
  /-- A method with a result of this type cannot return the value. -/
  | unfitResult (method : Member) (type : SlotType) (value : Constant)
  deriving DecidableEq, Repr

/-- The message for a refusal. -/
def Refusal.message : Refusal → String
  | .invalidFieldDescriptor field =>
    "Invalid field descriptor '" ++ field.descriptor ++ "' for " ++ field.display
  | .unfitFieldValue field type value =>
    s!"Field {field} of type {type} cannot hold {value.kind} constant {value}"
  | .takesArguments method => s!"Only argument-less methods can be registered, got {method}"
  | .noResult method => s!"Method {method} does not return a value"
  | .unfitResult method type value =>
    s!"Method {method} returning {type} cannot return {value.kind} constant {value}"

/-- The registered value of a field, with the flags of the field. -/
structure FieldEntry where
  access : Access
  value : Constant
  deriving DecidableEq, Repr

/-- Registered values of fields and of calls without arguments. -/
structure ConstantTable where
  fields : Registry Member FieldEntry
  returns : Registry Member Constant
  deriving DecidableEq

namespace ConstantTable

/-- The table without registrations. -/
def empty : ConstantTable := ⟨.empty, .empty⟩

instance : Inhabited ConstantTable := ⟨empty⟩

/-- The registration of a field. -/
def registeredField? (table : ConstantTable) (field : Member) : Option FieldEntry :=
  table.fields.find? field

/-- The registered result of a method. -/
def registeredResult? (table : ConstantTable) (method : Member) : Option Constant :=
  table.returns.find? method

/-- The number of registrations. -/
def size (table : ConstantTable) : Nat :=
  table.fields.size + table.returns.size

/-- Whether nothing is registered. -/
def isEmpty (table : ConstantTable) : Bool :=
  table.fields.isEmpty && table.returns.isEmpty

/-- Whether a method descriptor has no parameters. -/
def isArgumentless (descriptor : String) : Bool :=
  match descriptor.toList with
  | '(' :: ')' :: _ => true
  | _ => false

/-- Checks that a field can hold a value. -/
def checkField (field : Member) (value : Constant) : Except Refusal Unit :=
  match SlotType.ofDescriptor? field.descriptor with
  | none => .error (.invalidFieldDescriptor field)
  | some type => if type.accepts value then .ok () else .error (.unfitFieldValue field type value)

/-- Checks that a method takes no arguments and can return a value. -/
def checkReturn (method : Member) (value : Constant) : Except Refusal Unit :=
  if isArgumentless method.descriptor then
    match SlotType.ofReturn? method.descriptor with
    | none => .error (.noResult method)
    | some type => if type.accepts value then .ok () else .error (.unfitResult method type value)
  else .error (.takesArguments method)

/-- Registers the value of a field, in place of an earlier registration. -/
def insertField (table : ConstantTable) (field : Member) (access : Access) (value : Constant) :
    Except Refusal ConstantTable :=
  match checkField field value with
  | .ok () => .ok { table with fields := table.fields.insert field ⟨access, value⟩ }
  | .error refusal => .error refusal

/-- Registers the result of a method, in place of an earlier registration. -/
def insertReturn (table : ConstantTable) (method : Member) (value : Constant) :
    Except Refusal ConstantTable :=
  match checkReturn method value with
  | .ok () => .ok { table with returns := table.returns.insert method value }
  | .error refusal => .error refusal

/-- The answer of a table to a query. -/
def answer (table : ConstantTable) : Query → Resolution
  | .field _ member =>
    match table.registeredField? member with
    | some entry => if entry.access.isConstant then some entry.value else none
    | none => none
  | .call _ member arguments => if arguments.length ≤ 1 then table.registeredResult? member else none

/-- What a table reports of a query. -/
def events (table : ConstantTable) (query : Query) : List Event :=
  match query, table.answer query with
  | .field _ member, some value => [.fieldFound member value]
  | .call _ member _, some value => [.callFound member value]
  | .field _ member, none =>
    if (table.registeredField? member).isSome then [.changeableField member] else []
  | .call .., none => []

/-- A registered field is found with its new value; other fields are found as before. -/
theorem registeredField?_insertField {table changed : ConstantTable} {field : Member} {access : Access}
    {value : Constant} (inserted : table.insertField field access value = .ok changed)
    (other : Member) :
    changed.registeredField? other =
      if other = field then some ⟨access, value⟩ else table.registeredField? other := by
  unfold insertField at inserted
  split at inserted
  · cases inserted
    exact table.fields.find?_insert field other ⟨access, value⟩
  · cases inserted

/-- A registered result is found with its new value; other results are found as before. -/
theorem registeredResult?_insertReturn {table changed : ConstantTable} {method : Member}
    {value : Constant} (inserted : table.insertReturn method value = .ok changed)
    (other : Member) :
    changed.registeredResult? other =
      if other = method then some value else table.registeredResult? other := by
  unfold insertReturn at inserted
  split at inserted
  · cases inserted
    exact table.returns.find?_insert method other value
  · cases inserted

end ConstantTable

end ConstProp
