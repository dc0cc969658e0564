import ConstProp.Proofs.Oracle.Registration
import ConstProp.Proofs.Oracle.Signature
import ConstProp.Proofs.Slot.FieldType
import ConstProp.Proofs.Slot.ReturnType

/-!
# Declared types of registered values

A member declares the type of its values by its descriptor. A truth value and the integers below `int` are
held as `int` on the stack, and a registration is checked against the type on the stack alone
(`Registration.fits_iff_of_declares`). So a table answers with a value that its member can have exactly if
the integer is in the range of the declared type (`ConstantTable.answers_held_iff_inRange`).
-/

namespace ConstProp

/-- The class of classes. -/
def ClassName.metaclass : ClassName where
  segments := ["java".toList, "lang".toList, "Class".toList]
  segments_ne_nil := by simp
  segment_ne_nil := by simp
  separator_not_mem := by simp

/-- The class of a constant that is an object. -/
def Constant.className? : Constant → Option ClassName
  | .number _ => none
  | .text _ => some .string
  | .classLiteral _ => some .metaclass

namespace BaseType

/-- The type on the stack of the values of a base type. -/
def onStack : BaseType → BaseType
  | .boolean | .byte | .short | .char => .int
  | type => type

/-- Whether an integer on the stack is in the range of a base type. Only the types below `int` have a range
of their own. -/
def InRange (type : BaseType) (value : Int32) : Prop :=
  match type with
  | .boolean => value = 0 ∨ value = 1
  | .byte => -128 ≤ value.toInt ∧ value.toInt ≤ 127
  | .short => -32768 ≤ value.toInt ∧ value.toInt ≤ 32767
  | .char => 0 ≤ value.toInt ∧ value.toInt ≤ 65535
  | .int | .float | .long | .double => True

instance (type : BaseType) (value : Int32) : Decidable (type.InRange value) :=
  match type with
  | .boolean => inferInstanceAs (Decidable (_ ∨ _))
  | .byte | .short | .char => inferInstanceAs (Decidable (_ ∧ _))
  | .int | .float | .long | .double => inferInstanceAs (Decidable True)

/-- A variable of a base type holds the integers in its range, or the numbers of its own kind. -/
def Holds (type : BaseType) (constant : Constant) : Prop :=
  match type with
  | .float => constant.kind = .float
  | .long => constant.kind = .long
  | .double => constant.kind = .double
  | .boolean | .byte | .short | .char | .int => ∃ value ∈ constant.toInt32?, type.InRange value

instance (type : BaseType) (constant : Constant) : Decidable (type.Holds constant) :=
  match type with
  | .float | .long | .double => inferInstanceAs (Decidable (constant.kind = _))
  | .boolean | .byte | .short | .char | .int =>
    Option.decidableExistsMem constant.toInt32?

/-- A slot of a base type can hold exactly the constants that the type on the stack holds. -/
theorem accepts_ofBase_iff (type : BaseType) (constant : Constant) :
    (SlotType.ofBase type).accepts constant = true ↔ type.onStack.Holds constant := by
  rcases constant with number | text | literal
  · cases type <;> cases number <;>
      simp [SlotType.ofBase, SlotType.accepts, SlotType.ofConstant, SlotType.ofNumber, onStack, Holds,
        InRange, Constant.toInt32?, Number.toInt32?, Constant.kind, Number.kind]
  all_goals
    cases type <;>
      simp [SlotType.ofBase, SlotType.accepts, SlotType.ofConstant, SlotType.string, onStack, Holds,
        Constant.toInt32?, Constant.kind]

end BaseType

namespace FieldDescriptor

/-- The type on the stack of the values of a declared type. -/
def onStack : FieldDescriptor → FieldDescriptor
  | .base type => .base type.onStack
  | reference => reference

/-- If the type is a base type and the constant an integer on the stack, the integer is in the range of
the type. -/
def InRange : FieldDescriptor → Constant → Prop
  | .base type, constant => ∀ value ∈ constant.toInt32?, type.InRange value
  | _, _ => True

instance (type : FieldDescriptor) (constant : Constant) : Decidable (type.InRange constant) :=
  match type with
  | .base _ => Option.decidableForallMem constant.toInt32?
  | .object _ | .array _ => inferInstanceAs (Decidable True)

/-- A variable of a declared type holds a constant. An object is held by variables of its own class and of
the class above all others. -/
def Holds : FieldDescriptor → Constant → Prop
  | .base type, constant => type.Holds constant
  | .object name, constant => ∃ own ∈ constant.className?, name = own ∨ name = .object
  | .array _, _ => False

instance (type : FieldDescriptor) (constant : Constant) : Decidable (type.Holds constant) :=
  match type with
  | .base type => inferInstanceAs (Decidable (type.Holds constant))
  | .object _ => Option.decidableExistsMem constant.className?
  | .array _ => inferInstanceAs (Decidable False)

/-- A declared type holds what the type on the stack holds, as far as it is in range. -/
theorem holds_iff_inRange (type : FieldDescriptor) (constant : Constant) :
    type.Holds constant ↔ type.onStack.Holds constant ∧ type.InRange constant := by
  cases type with
  | base base =>
    cases base <;> cases found : constant.toInt32? <;>
      simp [Holds, onStack, InRange, BaseType.Holds, BaseType.onStack, BaseType.InRange, found]
  | object name => simp [onStack, InRange]
  | array element => simp [onStack, InRange]

theorem ofList_write_inj {first second : FieldDescriptor} :
    String.ofList first.write = String.ofList second.write ↔ first = second :=
  ⟨fun same => write_inj (String.ofList_injective same), fun same => same ▸ rfl⟩

/-- A reference slot with a descriptor can hold exactly the objects of the class with this descriptor, and
all objects if it is the class above all others. -/
theorem accepts_reference_iff (descriptor : String) (constant : Constant) :
    (SlotType.reference (some descriptor)).accepts constant = true ↔
      ∃ own ∈ constant.className?, descriptor = String.ofList (object own).write ∨
        descriptor = String.ofList (object .object).write := by
  have objects : SlotType.objectDescriptor = String.ofList (object .object).write := by decide
  have texts : SlotType.stringDescriptor = String.ofList (object .string).write := by decide
  have classes : SlotType.classDescriptor = String.ofList (object .metaclass).write := by decide
  rcases constant with number | text | literal
  · cases number <;>
      simp [SlotType.accepts, SlotType.ofConstant, SlotType.ofNumber, SlotType.isReference,
        Constant.className?]
  · simp only [SlotType.accepts, SlotType.ofConstant, SlotType.string, SlotType.isReference,
      Constant.className?, objects, texts]
    grind
  · simp only [SlotType.accepts, SlotType.ofConstant, SlotType.isReference,
      Constant.className?, objects, classes]
    grind

/-- A slot of a declared type can hold exactly the constants that the type on the stack holds. -/
theorem accepts_ofField_iff (type : FieldDescriptor) (constant : Constant) :
    (SlotType.ofField type).accepts constant = true ↔ type.onStack.Holds constant := by
  cases type with
  | base base => exact base.accepts_ofBase_iff constant
  | object name =>
    simp only [SlotType.ofField, accepts_reference_iff, ofList_write_inj, object.injEq, onStack, Holds]
  | array element =>
    simp only [SlotType.ofField, accepts_reference_iff, ofList_write_inj, reduceCtorEq, or_self,
      and_false, exists_false, onStack, Holds]

/-- Of the texts that are read as a type, only field descriptors are read as one that can hold a constant. -/
theorem exists_accepts_iff (text : String) (constant : Constant) :
    (∃ type, SlotType.ofDescriptor? text = some type ∧ type.accepts constant = true) ↔
      ∃ type : FieldDescriptor, text.toList = type.write ∧ type.onStack.Holds constant := by
  constructor
  · rintro ⟨type, read, accepted⟩
    rcases SlotType.ofDescriptor?_eq_some_iff.mp read with ⟨base, letter, rfl⟩ | ⟨_, rfl⟩
    · exact ⟨.base base, letter, (base.accepts_ofBase_iff constant).mp accepted⟩
    · obtain ⟨own, named, same⟩ := (accepts_reference_iff text constant).mp accepted
      rcases same with rfl | rfl
      · exact ⟨.object own, String.toList_ofList, own, named, Or.inl rfl⟩
      · exact ⟨.object .object, String.toList_ofList, own, named, Or.inr rfl⟩
  · rintro ⟨type, written, holds⟩
    exact ⟨_, SlotType.ofDescriptor?_of_write_eq written.symm,
      (type.accepts_ofField_iff constant).mpr holds⟩

end FieldDescriptor

/-- A member declares a type if its descriptor is that of a field of the type, or that of a method without
parameters that returns it. -/
def Member.Declares (member : Member) (kind : Query.Kind) (type : FieldDescriptor) : Prop :=
  member.descriptor.toList =
    match kind with
    | .field => type.write
    | .call => (MethodDescriptor.mk [] (some type)).write

instance (member : Member) (kind : Query.Kind) (type : FieldDescriptor) :
    Decidable (member.Declares kind type) :=
  inferInstanceAs (Decidable (_ = _))

namespace Registration

/-- The value that is registered. -/
def value : Registration → Constant
  | .field _ _ value | .result _ value => value

/-- A field can be registered with what the type on the stack of its declared type holds, and with nothing
if its descriptor declares no type. -/
theorem field_fits_iff (target : Member) (access : Access) (value : Constant) :
    (Registration.field target access value).Fits ↔
      ∃ type : FieldDescriptor, target.Declares .field type ∧ type.onStack.Holds value :=
  FieldDescriptor.exists_accepts_iff target.descriptor value

/-- A method can be registered with what the type behind the last parenthesis holds on the stack. -/
theorem result_fits_iff (method : Member) (value : Constant) :
    (Registration.result method value).Fits ↔
      ['(', ')'] <+: method.descriptor.toList ∧ ∃ type : FieldDescriptor,
        SlotType.afterLast? ')' method.descriptor.toList = some type.write ∧
          type.onStack.Holds value := by
  unfold Fits SlotType.ofReturn?
  refine and_congr_right fun _ => ?_
  cases SlotType.afterLast? ')' method.descriptor.toList with
  | none => simp
  | some rest =>
    simp only [FieldDescriptor.exists_accepts_iff, String.toList_ofList, Option.some.injEq]

/-- A registration fits a member exactly if the type on the stack of the declared type holds the value. For a
method the declared type has to be without a parenthesis, since it is read behind the last one. -/
theorem fits_iff_of_declares {registration : Registration} {type : FieldDescriptor}
    (declares : registration.member.Declares registration.kind type)
    (plain : registration.kind = .call → ')' ∉ type.write) :
    registration.Fits ↔ type.onStack.Holds registration.value := by
  cases registration with
  | field target access value =>
    rw [field_fits_iff]
    constructor
    · rintro ⟨other, declaresOther, holds⟩
      cases FieldDescriptor.write_inj (declaresOther.symm.trans declares)
      exact holds
    · intro holds
      exact ⟨type, declares, holds⟩
  | result method value =>
    have shape : method.descriptor.toList = ['('] ++ ')' :: type.write := declares
    have argumentless : ['(', ')'] <+: method.descriptor.toList := ⟨type.write, shape.symm⟩
    have returned : SlotType.afterLast? ')' method.descriptor.toList = some type.write := by
      rw [shape, SlotType.afterLast?_append_cons _ (plain rfl)]
    rw [result_fits_iff]
    constructor
    · rintro ⟨_, other, returnedOther, holds⟩
      cases FieldDescriptor.write_inj (Option.some.inj (returnedOther.symm.trans returned))
      exact holds
    · intro holds
      exact ⟨argumentless, type, returned, holds⟩

end Registration

namespace ConstantTable

/-- What a table answers was registered for the member of the query. -/
theorem exists_sets_of_answer {history : List Registration} {query : Query} {constant : Constant}
    (answered : (ofHistory history).answer query = some constant) :
    ∃ registration ∈ history,
      registration.Sets query.kind query.member ∧ registration.value = constant := by
  have last : ∀ registration,
      Registration.last? history query.kind query.member = some registration →
        registration ∈ history ∧ registration.Sets query.kind query.member := by
    intro registration found
    simpa using List.mem_of_getLast? found
  cases query with
  | field type target =>
    obtain ⟨access, held, _⟩ := answer_field_eq_some_iff.mp answered
    rw [held?_ofHistory] at held
    exact ⟨_, (last _ held).1, (last _ held).2, rfl⟩
  | call type method arguments =>
    obtain ⟨_, held⟩ := answer_call_eq_some_iff.mp answered
    rw [held?_ofHistory] at held
    exact ⟨_, (last _ held).1, (last _ held).2, rfl⟩

/-- Every value that a table takes, and every value that it answers with after any history of registrations,
is one that the type on the stack of the declared type holds, and it is a value of the declared type itself
exactly if it is in the range of that type. Fields without a declared type are not taken at all. Of a method
this says something if there is no parenthesis in the type that it returns. -/
theorem answers_held_iff_inRange (history : List Registration) :
    (∀ registration type, registration.member.Declares registration.kind type →
      (registration.kind = .call → ')' ∉ type.write) →
        ((∃ changed, (ofHistory history).insert registration = .ok changed) ↔
          type.onStack.Holds registration.value) ∧
        ((∃ changed, (ofHistory history).insert registration = .ok changed) →
          (type.Holds registration.value ↔ type.InRange registration.value))) ∧
    (∀ target access value changed,
      (ofHistory history).insertField target access value = .ok changed →
        ∃ type : FieldDescriptor, target.Declares .field type) ∧
    ∀ query constant type, (ofHistory history).answer query = some constant →
      query.member.Declares query.kind type → (query.kind = .call → ')' ∉ type.write) →
        type.onStack.Holds constant ∧ (type.Holds constant ↔ type.InRange constant) := by
  have taken : ∀ registration,
      (∃ changed, (ofHistory history).insert registration = .ok changed) ↔ registration.Fits :=
    (ofHistory history).exists_insert_eq_ok_iff
  refine ⟨?_, ?_, ?_⟩
  · intro registration type declares plain
    rw [taken, Registration.fits_iff_of_declares declares plain, type.holds_iff_inRange]
    exact ⟨Iff.rfl, and_iff_right⟩
  · intro target access value changed inserted
    have fits := (taken (.field target access value)).mp ⟨changed, inserted⟩
    obtain ⟨type, declares, _⟩ := (Registration.field_fits_iff target access value).mp fits
    exact ⟨type, declares⟩
  · intro query constant type answered declares plain
    obtain ⟨registration, _, ⟨fits, kinds, members⟩, rfl⟩ := exists_sets_of_answer answered
    rw [← kinds] at plain
    rw [← kinds, ← members] at declares
    have holds := (Registration.fits_iff_of_declares declares plain).mp fits
    rw [type.holds_iff_inRange]
    exact ⟨holds, and_iff_right holds⟩

/-- A byte field that is registered with a character in its range, and a method that returns a truth value
and is registered with three. -/
theorem answers_held_iff_inRange_byte :
    let small : Member := ⟨"a/B", "b", "B"⟩
    let flag : Member := ⟨"a/B", "z", "()Z"⟩
    let registration : Registration := .field small ⟨0x18⟩ (.number (.char 100))
    let history : List Registration := [registration, .result flag (.number (.short 3))]
    let read : Query := .field .int small
    let call : Query := .call .int flag []
    small.Declares .field (.base .byte) ∧ flag.Declares .call (.base .boolean) ∧
      ')' ∉ (FieldDescriptor.base .boolean).write ∧
      (∃ changed, (ofHistory history).insert registration = .ok changed) ∧
      (ofHistory history).answer read = some (.number (.char 100)) ∧
      (FieldDescriptor.base .byte).Holds (.number (.char 100)) ∧
      (ofHistory history).answer call = some (.number (.short 3)) ∧
      ¬ (FieldDescriptor.base .boolean).Holds (.number (.short 3)) := by
  intro small flag registration history read call
  obtain ⟨registered, _, answers⟩ := answers_held_iff_inRange history
  have declaresByte : small.Declares .field (.base .byte) := by decide
  have declaresBoolean : flag.Declares .call (.base .boolean) := by decide
  have plain : ')' ∉ (FieldDescriptor.base .boolean).write := by decide
  have hundred : (FieldDescriptor.base .byte).InRange (.number (.char 100)) := by decide
  have three : ¬ (FieldDescriptor.base .boolean).InRange (.number (.short 3)) := by decide
  have taken : ∃ changed, (ofHistory history).insert registration = .ok changed := by
    rw [exists_insert_eq_ok_iff]
    decide
  have held := (registered registration _ declaresByte (fun call => nomatch call)).2 taken
  have answered : (ofHistory history).answer call = some (.number (.short 3)) := by decide
  have exceeds := (answers call _ _ answered declaresBoolean fun _ => plain).2
  refine ⟨declaresByte, declaresBoolean, plain, taken, by decide, held.mpr hundred, answered, ?_⟩
  exact fun holds => three (exceeds.mp holds)

/-- A constant field that is declared as a truth value can be registered with two, and the table answers with
it, though no truth value is two. -/
theorem answer_boolean_two :
    let field : Member := ⟨"a/B", "flag", "Z"⟩
    let registration : Registration := .field field ⟨0x18⟩ (.number (.int 2))
    field.Declares .field (.base .boolean) ∧
      (ofHistory [registration]).answer (.field .int field) = some (.number (.int 2)) ∧
      ¬ (FieldDescriptor.base .boolean).Holds (.number (.int 2)) := by
  decide

end ConstantTable

end ConstProp
