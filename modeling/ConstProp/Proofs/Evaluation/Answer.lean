import ConstProp.Evaluation.Evaluator

/-!
# Values of answers

A slot takes over an answer if it is no class literal and fits the type of the slot. What is known of the
value is then the answer (`SlotValue.content?_ofAnswer`), and otherwise the value is the unknown result of
its producer. Either way a value comes out, and its shape is what the slot asks for
(`SlotValue.wellShaped_ofAnswer`), whoever gave the answer.
-/

namespace ConstProp

/-- A slot takes over all that is no class literal and fits its type, and a slot without a type
everything else. -/
theorem SlotType.adopts_iff {type : SlotType} {constant : Constant} :
    type.adopts constant = true ↔
      constant.kind ≠ .type ∧ (type = .uninitialized ∨ type.accepts constant = true) := by
  cases constant with
  | number value => cases value <;> simp [adopts, Constant.kind, Number.kind]
  | text => simp [adopts, Constant.kind]
  | classLiteral => simp [adopts, Constant.kind]

/-- A type takes as many slots as the constants that it accepts. -/
theorem SlotType.width_of_accepts {type : SlotType} {constant : Constant}
    (accepted : type.accepts constant = true) :
    type.width = if constant.kind.isWide then 2 else 1 := by
  have shape : type = ofConstant constant ∨
      type.isReference = true ∧ (ofConstant constant).isReference = true := by
    unfold accepts at accepted
    split at accepted
    · exact Or.inr ⟨rfl, accepted⟩
    · split at accepted
      · exact Or.inr ⟨rfl, accepted⟩
      · exact Or.inl (beq_iff_eq.mp accepted).symm
    · exact Or.inl (beq_iff_eq.mp accepted).symm
  rcases shape with rfl | ⟨reference, constantReference⟩
  · cases constant with
    | number value => cases value <;> rfl
    | text | classLiteral => rfl
  · cases type <;> simp [isReference] at reference
    cases constant with
    | number value => cases value <;> cases constantReference
    | text | classLiteral => rfl

theorem Evaluator.adopt_eq_some_iff {type : SlotType} {answer : Resolution} {constant : Constant} :
    adopt type answer = some constant ↔ answer = some constant ∧ type.adopts constant = true := by
  simp [adopt, Option.filter_eq_some_iff]

namespace SlotValue

/-- The number or text that is known of a value, as it was given. -/
def content? (value : SlotValue) : Option Constant :=
  match value.payload with
  | .number number => some (.number number)
  | .text text => some (.text text)
  | .produced | .merged _ => none

theorem isSome_content? (value : SlotValue) : value.content?.isSome = value.isKnown := by
  rcases value with ⟨_, _, payload, _⟩
  cases payload <;> rfl

/-- The value that an answer gives to a slot: known if the slot takes the answer over, and otherwise the
unknown result of the producer. -/
def ofAnswer (type : SlotType) (producer : Handle) (answer : Resolution) : SlotValue :=
  match Evaluator.adopt type answer with
  | some (.number number) => ofNumber type producer number
  | some (.text text) => ofText type producer text
  | _ => ⟨type, producer, .produced, false⟩

section Answers

variable (type : SlotType) (producer : Handle) (answer : Resolution)

@[simp] theorem type_ofAnswer : (ofAnswer type producer answer).type = type := by
  unfold ofAnswer
  split <;> rfl

@[simp] theorem producer_ofAnswer : (ofAnswer type producer answer).producer = producer := by
  unfold ofAnswer
  split <;> rfl

@[simp] theorem mergeSite?_ofAnswer : (ofAnswer type producer answer).mergeSite? = none := by
  unfold ofAnswer
  split <;> rfl

@[simp] theorem isPinned_ofAnswer : (ofAnswer type producer answer).isPinned = false := by
  unfold ofAnswer
  split <;> rfl

/-- What is known of the value is what the slot took over. -/
@[simp] theorem content?_ofAnswer :
    (ofAnswer type producer answer).content? = Evaluator.adopt type answer := by
  unfold ofAnswer
  split
  case h_1 number adopted => rw [adopted]; rfl
  case h_2 text adopted => rw [adopted]; rfl
  case h_3 notNumber notText =>
    cases adopted : Evaluator.adopt type answer with
    | none => rfl
    | some constant =>
      cases constant with
      | number number => exact absurd adopted (notNumber number)
      | text text => exact absurd adopted (notText text)
      | classLiteral name => simp [Evaluator.adopt_eq_some_iff, SlotType.adopts] at adopted

theorem isKnown_ofAnswer :
    (ofAnswer type producer answer).isKnown = (Evaluator.adopt type answer).isSome := by
  rw [← isSome_content?, content?_ofAnswer]

end Answers

/-- An answer that is not taken over is as good as none. -/
theorem ofAnswer_of_adopt_eq_none {type : SlotType} {answer : Resolution}
    (rejected : Evaluator.adopt type answer = none) (producer : Handle) :
    ofAnswer type producer answer = ofAnswer type producer none := by
  rw [ofAnswer, rejected]
  rfl

/-- An answer that is taken over becomes a value without fail. -/
theorem ofConstant_of_adopt {type : SlotType} {answer : Resolution} {constant : Constant}
    (adopted : Evaluator.adopt type answer = some constant) (producer : Handle) :
    ofConstant type producer constant = .ok (ofAnswer type producer answer) := by
  cases constant with
  | number | text => simp [ofAnswer, adopted, ofConstant, Constant.asNumber, Except.map]
  | classLiteral name => simp [Evaluator.adopt_eq_some_iff, SlotType.adopts] at adopted

/-- An answer that is not taken over leaves the unknown result of the producer. -/
theorem unknown_of_adopt {type : SlotType} {answer : Resolution}
    (rejected : Evaluator.adopt type answer = none) {producer : Handle} {body : Body}
    {instruction : Instruction} (present : body.get? producer = some instruction)
    (produces : instruction.mayProduceValue = true) :
    unknown type producer body = .ok (ofAnswer type producer answer) := by
  simp [unknown, Body.fetch_eq_ok_iff.mpr present, produces, ofAnswer, rejected]

/-- A value as an evaluation for a slot may give it: of the type of the slot, produced by the instruction
and not merged; and what is known of it is no class literal and fits the type. -/
structure WellShaped (type : SlotType) (producer : Handle) (value : SlotValue) : Prop where
  type_eq : value.type = type
  producer_eq : value.producer = producer
  unmerged : value.mergeSite? = none
  kind_ne : ∀ constant, value.content? = some constant → constant.kind ≠ .type
  fits : type ≠ .uninitialized → ∀ constant, value.content? = some constant →
    type.accepts constant = true ∧ type.width = if constant.kind.isWide then 2 else 1

theorem wellShaped_ofAnswer (type : SlotType) (producer : Handle) (answer : Resolution) :
    (ofAnswer type producer answer).WellShaped type producer := by
  refine ⟨by simp, by simp, by simp, ?_, ?_⟩
  · intro constant known
    rw [content?_ofAnswer, Evaluator.adopt_eq_some_iff] at known
    exact (SlotType.adopts_iff.mp known.2).1
  · intro typed constant known
    rw [content?_ofAnswer, Evaluator.adopt_eq_some_iff] at known
    have accepted := (SlotType.adopts_iff.mp known.2).2.resolve_left typed
    exact ⟨accepted, SlotType.width_of_accepts accepted⟩

/-- A pin changes nothing of the shape. -/
theorem WellShaped.pin {type : SlotType} {producer : Handle} {value : SlotValue}
    (shaped : value.WellShaped type producer) : value.pin.WellShaped type producer :=
  ⟨shaped.type_eq, shaped.producer_eq, shaped.unmerged, shaped.kind_ne, shaped.fits⟩

end SlotValue

end ConstProp
