import ConstProp.Oracle.Intrinsic

/-!
# Folding of intrinsic calls

An intrinsic method answers a call only if every argument is known (`Intrinsic.isKnown_of_answer`), and
what it answers is a constant of the type that its own descriptor names (`Intrinsic.ofReturn?_of_answer`).
A slot of that type therefore never turns a folded call away.
-/

namespace ConstProp

/-- A type holds every constant that is of this type. -/
theorem SlotType.accepts_of_ofConstant_eq {type : SlotType} {constant : Constant}
    (same : ofConstant constant = type) : type.accepts constant = true := by
  unfold accepts
  split
  · rw [same]
    rfl
  · split
    · rw [same]
      rfl
    · simp [same]
  · simp [same]

namespace Intrinsic

/-- The type of the results of an intrinsic. -/
def resultType : Intrinsic → SlotType
  | .textOfInt | .textOfLong | .textOfChar | .textOfBoolean | .integerText | .longText => .string
  | .absLong | .minLong | .maxLong => .long
  | .stringLength | .stringHash | .stringEquals | .parseInt | .absInt | .minInt | .maxInt
  | .upperCase | .lowerCase => .int

/-- The descriptor of an intrinsic names the type of its results. -/
theorem ofReturn?_member (intrinsic : Intrinsic) :
    SlotType.ofReturn? intrinsic.member.descriptor = some intrinsic.resultType := by
  cases intrinsic <;> decide

/-- The result of an intrinsic is of the type of its results. -/
theorem ofConstant_of_evaluate {intrinsic : Intrinsic} {arguments : List Constant}
    {result : Constant} (evaluated : intrinsic.evaluate arguments = some result) :
    SlotType.ofConstant result = intrinsic.resultType := by
  unfold evaluate at evaluated
  -- Where an intrinsic can fail, its result is mapped from what it computes; the type is the same.
  split at evaluated <;>
    simp only [Option.map_eq_some_iff, Option.some.injEq, reduceCtorEq] at evaluated <;>
    grind [resultType, SlotType.ofConstant, SlotType.ofNumber]

theorem member_of_ofMember? {method : Member} {intrinsic : Intrinsic}
    (found : ofMember? method = some intrinsic) : intrinsic.member = method := by
  simpa using List.find?_some found

/-- A call that is folded is a call of an intrinsic with arguments that are all known. -/
theorem exists_of_answer {type : SlotType} {method : Member} {arguments : List SlotValue}
    {result : Constant} (answered : answer (.call type method arguments) = some result) :
    ∃ intrinsic known, ofMember? method = some intrinsic ∧
      allKnown? (arguments.map Query.argumentKey) = some known ∧
      intrinsic.evaluate known = some result := by
  simp only [answer, fold] at answered
  split at answered
  case h_1 intrinsic known found all => exact ⟨intrinsic, known, found, all, answered⟩
  case h_2 => cases answered

/-- If all arguments are known, there is nothing else among them. -/
theorem eq_map_some_of_allKnown? {arguments : List (Option Constant)} {known : List Constant}
    (all : allKnown? arguments = some known) : arguments = known.map some := by
  induction arguments generalizing known with
  | nil =>
    cases all
    rfl
  | cons first rest inductionHypothesis =>
    cases first with
    | none => cases all
    | some constant =>
      rw [allKnown?, Option.map_eq_some_iff] at all
      obtain ⟨others, allOthers, rfl⟩ := all
      rw [inductionHypothesis allOthers, List.map_cons]

@[simp] theorem allKnown?_map_some (known : List Constant) : allKnown? (known.map some) = some known := by
  induction known with
  | nil => rfl
  | cons first rest inductionHypothesis => simp [allKnown?, inductionHypothesis]

/-- No two intrinsics have the same method. -/
@[simp] theorem ofMember?_member (intrinsic : Intrinsic) :
    ofMember? intrinsic.member = some intrinsic := by
  cases intrinsic <;> decide

/-- A call of an intrinsic with arguments that are all known is answered with its result for them. -/
theorem answer_of_known (intrinsic : Intrinsic) (type : SlotType) {arguments : List SlotValue}
    {known : List Constant} (keys : arguments.map Query.argumentKey = known.map some) :
    answer (.call type intrinsic.member arguments) = intrinsic.evaluate known := by
  simp [answer, fold, keys]

theorem answer_of_known_singleton (intrinsic : Intrinsic) (type : SlotType) {argument : SlotValue}
    {known : Constant} (key : Query.argumentKey argument = some known) :
    answer (.call type intrinsic.member [argument]) = intrinsic.evaluate [known] := by
  have keys : [argument].map Query.argumentKey = [known].map some := by
    simp [key]
  exact answer_of_known intrinsic type keys

/-- Only calls whose arguments are all known are folded. -/
theorem isKnown_of_answer {type : SlotType} {method : Member} {arguments : List SlotValue}
    {result : Constant} (answered : answer (.call type method arguments) = some result) :
    ∀ argument ∈ arguments, argument.isKnown = true := by
  obtain ⟨_, known, _, all, _⟩ := exists_of_answer answered
  intro argument member
  have keyed : Query.argumentKey argument ∈ known.map some := by
    rw [← eq_map_some_of_allKnown? all]
    exact List.mem_map_of_mem member
  obtain ⟨constant, _, same⟩ := List.mem_map.mp keyed
  have isSome : (Query.argumentKey argument).isSome = true := by rw [← same, Option.isSome_some]
  rw [← SlotValue.isSome_stackValue?]
  simpa [Query.argumentKey] using isSome

/-- The result of a folded call is of the type that the descriptor of the method returns. -/
theorem ofReturn?_of_answer {type : SlotType} {method : Member} {arguments : List SlotValue}
    {result : Constant} (answered : answer (.call type method arguments) = some result) :
    SlotType.ofReturn? method.descriptor = some (SlotType.ofConstant result) := by
  obtain ⟨intrinsic, known, found, _, evaluated⟩ := exists_of_answer answered
  rw [← member_of_ofMember? found, ofReturn?_member, ofConstant_of_evaluate evaluated]

/-- No folded call gives a class literal. -/
theorem kind_ne_of_answer {type : SlotType} {method : Member} {arguments : List SlotValue}
    {result : Constant} (answered : answer (.call type method arguments) = some result) :
    result.kind ≠ .type := by
  obtain ⟨intrinsic, known, _, _, evaluated⟩ := exists_of_answer answered
  have typed := ofConstant_of_evaluate evaluated
  intro literal
  cases result with
  | number value => cases value <;> cases literal
  | text => cases literal
  | classLiteral name =>
    have noClass : SlotType.ofConstant (.classLiteral name) ≠ intrinsic.resultType := by
      cases intrinsic <;> simp [SlotType.ofConstant, resultType, SlotType.string,
        SlotType.classDescriptor, SlotType.stringDescriptor]
    exact noClass typed

end Intrinsic

end ConstProp
