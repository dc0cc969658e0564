import ConstProp.Proofs.Bytecode.Reading
import ConstProp.Proofs.Oracle.Folding

/-!
# Signatures of intrinsic methods

The descriptor of an intrinsic method says what arguments its calls take. A call is folded only with a
known constant for each parameter, of the type of the parameter, and for the methods of an object with
one more for the receiver (`Intrinsic.wellTyped_of_answer`). A constant counts by its form on the stack,
so a character or a truth value fits wherever an `int` does.
-/

namespace ConstProp

/-- The class of texts. -/
def ClassName.string : ClassName where
  segments := ["java".toList, "lang".toList, "String".toList]
  segments_ne_nil := by simp
  segment_ne_nil := by simp
  separator_not_mem := by simp

/-- The class above all others. -/
def ClassName.object : ClassName where
  segments := ["java".toList, "lang".toList, "Object".toList]
  segments_ne_nil := by simp
  segment_ne_nil := by simp
  separator_not_mem := by simp

/-- The type of the constant that is known of a value. -/
def SlotValue.constantType? (value : SlotValue) : Option SlotType :=
  value.stackValue?.map SlotType.ofConstant

/-- The key of an argument tells its type. -/
theorem SlotValue.constantType?_eq_argumentKey (value : SlotValue) :
    value.constantType? = (Query.argumentKey value).map SlotType.ofConstant := by
  rw [constantType?, Query.argumentKey, Option.map_map]
  congr 1
  funext constant
  exact (SlotType.ofConstant_computational constant).symm

namespace Intrinsic

/-- The signature of an intrinsic. -/
def signature : Intrinsic → MethodDescriptor
  | .stringLength | .stringHash => ⟨[], some (.base .int)⟩
  | .stringEquals => ⟨[.object .object], some (.base .boolean)⟩
  | .textOfInt | .integerText => ⟨[.base .int], some (.object .string)⟩
  | .textOfLong | .longText => ⟨[.base .long], some (.object .string)⟩
  | .textOfChar => ⟨[.base .char], some (.object .string)⟩
  | .textOfBoolean => ⟨[.base .boolean], some (.object .string)⟩
  | .parseInt => ⟨[.object .string], some (.base .int)⟩
  | .absInt => ⟨[.base .int], some (.base .int)⟩
  | .absLong => ⟨[.base .long], some (.base .long)⟩
  | .minInt | .maxInt => ⟨[.base .int, .base .int], some (.base .int)⟩
  | .minLong | .maxLong => ⟨[.base .long, .base .long], some (.base .long)⟩
  | .upperCase | .lowerCase => ⟨[.base .char], some (.base .char)⟩

/-- The descriptor of an intrinsic is the text of its signature. -/
theorem write_signature (intrinsic : Intrinsic) :
    intrinsic.signature.write = intrinsic.member.descriptor.toList := by
  cases intrinsic <;> decide

/-- The names of the methods that are called on a text, which is their first argument. -/
def instanceNames : List String := ["length", "hashCode", "equals"]

/-- The types of the arguments before the parameters: that of the receiver, if there is one. -/
def receiverTypes (name : String) : List SlotType :=
  if name ∈ instanceNames then [.string] else []

/-- The type of the constants for a parameter. What a text is compared with can be of any class; it is
known only if it is a text. -/
def parameterType (name : String) (parameter : FieldDescriptor) : SlotType :=
  if name = "equals" ∧ parameter = .object .object then .string else .ofField parameter

/-- The types of the arguments of a method by its name and its signature. -/
def argumentTypes (name : String) (signature : MethodDescriptor) : List SlotType :=
  receiverTypes name ++ signature.parameters.map (parameterType name)

/-- An intrinsic is evaluated only with arguments of the types of its signature. -/
theorem ofConstant_arguments_of_evaluate {intrinsic : Intrinsic} {arguments : List Constant}
    {result : Constant} (evaluated : intrinsic.evaluate arguments = some result) :
    arguments.map SlotType.ofConstant =
      argumentTypes intrinsic.member.name intrinsic.signature := by
  unfold evaluate at evaluated
  split at evaluated <;> first | rfl | cases evaluated

/-- Folded arguments have the types of the signature. -/
theorem constantTypes_of_answer {type : SlotType} {method : Member} {arguments : List SlotValue}
    {result : Constant} {intrinsic : Intrinsic} (found : ofMember? method = some intrinsic)
    (answered : answer (.call type method arguments) = some result) :
    arguments.map SlotValue.constantType? =
      (argumentTypes method.name intrinsic.signature).map some := by
  obtain ⟨_, known, again, all, evaluated⟩ := exists_of_answer answered
  cases found.symm.trans again
  have keys := eq_map_some_of_allKnown? all
  calc arguments.map SlotValue.constantType?
      = (arguments.map Query.argumentKey).map (Option.map SlotType.ofConstant) := by
        simp [SlotValue.constantType?_eq_argumentKey]
    _ = (known.map SlotType.ofConstant).map some := by
        rw [keys]
        simp
    _ = (argumentTypes method.name intrinsic.signature).map some := by
        rw [ofConstant_arguments_of_evaluate evaluated, member_of_ofMember? found]

/-- The arguments and the result of a call are as the descriptor of its method says: all arguments are
known, there is one for each parameter of the only signature that the descriptor can be read as, and one
more for the receiver of an instance method, each of the type of its parameter; and a slot of the type
that the descriptor returns can hold the result. -/
structure WellTyped (method : Member) (arguments : List SlotValue) (result : Constant) : Prop where
  known : ∀ argument ∈ arguments, argument.isKnown = true
  typed : ∃ signature : MethodDescriptor,
    (∀ other : MethodDescriptor, other.write = method.descriptor.toList ↔ other = signature) ∧
    arguments.length =
      signature.parameters.length + (if method.name ∈ instanceNames then 1 else 0) ∧
    arguments.map SlotValue.constantType? = (argumentTypes method.name signature).map some
  returns : ∃ type, SlotType.ofReturn? method.descriptor = some type ∧ type.accepts result = true

/-- Only well-typed calls are folded. -/
theorem wellTyped_of_answer {type : SlotType} {method : Member} {arguments : List SlotValue}
    {result : Constant} (answered : answer (.call type method arguments) = some result) :
    WellTyped method arguments result := by
  obtain ⟨intrinsic, _, found, _, _⟩ := exists_of_answer answered
  have types := constantTypes_of_answer found answered
  refine ⟨isKnown_of_answer answered, ⟨intrinsic.signature, ?_, ?_, types⟩, ?_⟩
  · intro other
    rw [← member_of_ofMember? found, ← write_signature]
    exact ⟨MethodDescriptor.write_inj, congrArg MethodDescriptor.write⟩
  · have lengths := congrArg List.length types
    simp only [List.length_map, argumentTypes, List.length_append, receiverTypes] at lengths
    rw [lengths, Nat.add_comm]
    split <;> rfl
  · exact ⟨_, ofReturn?_of_answer answered, SlotType.accepts_of_ofConstant_eq rfl⟩

end Intrinsic

end ConstProp
