import ConstProp.Proofs.Slot.Agreement

/-!
# Values rooted in a method body

A value is rooted in a body if it can be brought back from it: it is known, or its producer is an
instruction of the body that may stand for a value. A body that only grows keeps what is found in it, so a
rooted value stays rooted (`SlotValue.Rooted.extend`) and is brought back in the same way ever after
(`SlotValue.Rooted.rebuild_eq_of_extends`).
-/

namespace ConstProp

/-- Everything at a handle of the earlier body is there in the later one. -/
def Body.Extends (earlier later : Body) : Prop :=
  ∀ handle instruction, earlier.get? handle = some instruction →
    later.get? handle = some instruction

namespace Body

theorem Extends.refl (body : Body) : body.Extends body :=
  fun _ _ present => present

theorem Extends.trans {first second third : Body} (left : first.Extends second)
    (right : second.Extends third) : first.Extends third :=
  fun handle instruction present => right handle instruction (left handle instruction present)

@[simp] theorem size_push (body : Body) (instruction : Instruction) :
    (body.push instruction).size = body.size + 1 := by
  simp [push, size]

/-- As long as handles do not run out, what is found after an addition was there before or is what was
added. -/
theorem get?_push_eq_some_iff {body : Body} (small : body.size < UInt32.size)
    {added instruction : Instruction} {handle : Handle} :
    (body.push added).get? handle = some instruction ↔
      body.get? handle = some instruction ∨ handle = body.nextHandle ∧ instruction = added := by
  constructor
  · intro present
    by_cases new : handle.position = body.instructions.size
    · have found : instruction = added := by simpa [get?, push, new, eq_comm] using present
      have next : handle = body.nextHandle := by
        rw [nextHandle, size, ← new, Handle.ofPosition_position]
      exact Or.inr ⟨next, found⟩
    · rw [get?, push, Array.getElem?_push, if_neg new] at present
      exact Or.inl present
  · rintro (present | ⟨rfl, rfl⟩)
    · exact get?_push_of_some present added
    · exact get?_push_self small instruction

end Body

namespace Instruction

@[simp] theorem shape_mapLabels (change : Label → Label) (instruction : Instruction) :
    (instruction.mapLabels change).shape = instruction.shape := by
  cases instruction <;> rfl

@[simp] theorem shape_relabel (instruction : Instruction) (relabeling : Relabeling) :
    (instruction.relabel relabeling).shape = instruction.shape :=
  instruction.shape_mapLabels relabeling.image

/-- Only labels and jumps cannot stand for a value. -/
theorem mayProduceValue_iff (instruction : Instruction) :
    instruction.mayProduceValue = true ↔
      instruction.shape ≠ .mark ∧ instruction.shape ≠ .jump := by
  cases instruction <;> simp [mayProduceValue, shape]

end Instruction

namespace SlotValue

/-- Where a value was merged shows in its content and its producer. -/
theorem mergeSite?_of_eq {value other : SlotValue} (producer_eq : value.producer = other.producer)
    (payload_eq : value.payload = other.payload) : value.mergeSite? = other.mergeSite? := by
  rw [mergeSite?, mergeSite?, producer_eq, payload_eq]

/-- A known value has a form on the stack. -/
theorem exists_stackValue? {value : SlotValue} (known : value.isKnown = true) :
    ∃ constant, value.stackValue? = some constant := by
  rwa [← isSome_stackValue?, Option.isSome_iff_exists] at known

/-- A value that can be brought back from a body: it is no merged one, and if it is unknown, the body has
its producer, which may stand for a value. -/
structure Rooted (body : Body) (value : SlotValue) : Prop where
  unmerged : value.mergeSite? = none
  present : value.isKnown = false → ∃ instruction,
    body.get? value.producer = some instruction ∧ instruction.mayProduceValue = true

namespace Rooted

variable {body : Body} {value : SlotValue}

theorem of_isKnown (known : value.isKnown = true) : value.Rooted body where
  unmerged := by
    cases merged : value.mergeSite? with
    | none => rfl
    | some site => simp [isKnown_of_mergeSite? merged] at known
  present := by simp [known]

/-- A value that is rooted in a body is rooted in every later one. -/
theorem extend (rooted : value.Rooted body) {later : Body} (grown : body.Extends later) :
    value.Rooted later where
  unmerged := rooted.unmerged
  present := by
    intro unknown
    obtain ⟨instruction, present, produces⟩ := rooted.present unknown
    exact ⟨instruction, grown _ _ present, produces⟩

/-- A value of the same content and the same producer is rooted too. -/
theorem of_eq {other : SlotValue} (rooted : other.Rooted body)
    (producer_eq : value.producer = other.producer) (payload_eq : value.payload = other.payload) :
    value.Rooted body where
  unmerged := (mergeSite?_of_eq producer_eq payload_eq).trans rooted.unmerged
  present := by
    intro unknown
    rw [isKnown, payload_eq] at unknown
    rw [producer_eq]
    exact rooted.present unknown

/-- An unknown value is brought back by its producer. -/
theorem rebuild_of_present (rooted : value.Rooted body) (unknown : value.isKnown = false)
    {instruction : Instruction} (present : body.get? value.producer = some instruction)
    (relabeling : Relabeling) :
    value.rebuild body relabeling = .ok [instruction.relabel relabeling] := by
  have unmerged := rooted.unmerged
  rcases value with ⟨type, producer, payload, isPinned⟩
  cases payload with
  | number | text => cases unknown
  | produced => simp only [rebuild, Body.fetch_eq_ok_iff.mpr present]
  | merged slot => cases unmerged

/-- A rooted value is brought back from every later body as it is now. -/
theorem rebuild_eq_of_extends (rooted : value.Rooted body) {later : Body}
    (grown : body.Extends later) (relabeling : Relabeling) :
    value.rebuild later relabeling = value.rebuild body relabeling := by
  cases known : value.isKnown with
  | true =>
    obtain ⟨constant, stackValue⟩ := exists_stackValue? known
    rw [rebuild_of_stackValue? stackValue, rebuild_of_stackValue? stackValue]
  | false =>
    obtain ⟨instruction, present, _⟩ := rooted.present known
    rw [rooted.rebuild_of_present known present,
      (rooted.extend grown).rebuild_of_present known (grown _ _ present)]

theorem of_ofConstant {type : SlotType} {producer : Handle} {constant : Constant}
    (given : ofConstant type producer constant = .ok value) : value.Rooted body := by
  cases constant with
  | number number =>
    cases given
    exact of_isKnown rfl
  | text text =>
    cases given
    exact of_isKnown rfl
  | classLiteral name => cases given

theorem of_unknown {type : SlotType} {producer : Handle}
    (given : unknown type producer body = .ok value) : value.Rooted body := by
  unfold unknown at given
  split at given
  case h_1 instruction fetched =>
    split at given
    case isTrue produces =>
      cases given
      exact ⟨rfl, fun _ => ⟨instruction, Body.fetch_eq_ok_iff.mp fetched, produces⟩⟩
    case isFalse => cases given
  case h_2 => cases given

end Rooted

end SlotValue

end ConstProp
