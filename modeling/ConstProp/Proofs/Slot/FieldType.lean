import ConstProp.Proofs.Bytecode.Reading
import ConstProp.Slot.Type

/-!
# Types of fields

What is read of a text as the descriptor of a field. A base type is read from its letter alone. Of a
reference only the frame is looked at, and what stands inside it may be anything
(`SlotType.ofDescriptor?_eq_some_iff`). Every field descriptor is therefore read as its type, and the texts
that are read without being one are those with the frame of a reference around something malformed
(`SlotType.ofDescriptor?_exact_iff`).
-/

namespace ConstProp

/-- The frame of a reference: the marks of a class with something between them, or the bracket of an array
with something behind it. -/
inductive IsFramed : List Char → Prop where
  | object {name : List Char} (present : name ≠ []) : IsFramed ('L' :: (name ++ [';']))
  | array {element : List Char} (present : element ≠ []) : IsFramed ('[' :: element)

namespace SlotType

/-- A text with the frame of a reference is read as that reference. -/
theorem ofDescriptor?_of_isFramed {text : String} (framed : IsFramed text.toList) :
    ofDescriptor? text = some (.reference (some text)) := by
  unfold ofDescriptor?
  generalize text.toList = chars at framed ⊢
  cases framed with
  | @object name present =>
    have one : 1 ≤ name.length := List.length_pos_iff.mpr present
    have long : 2 ≤ (name ++ [';']).length := by
      rw [List.length_append, List.length_singleton]
      omega
    have ends : (name ++ [';']).getLast? = some ';' := List.getLast?_concat
    simp only [long, ends, and_self, if_true]
  | @array element present =>
    obtain ⟨first, rest, rfl⟩ := List.exists_cons_of_ne_nil present
    rfl

/-- A text that is read has the frame of a reference, or it is the letter of a base type. -/
theorem isFramed_or_base_of_ofDescriptor? {text : String} {type : SlotType}
    (read : ofDescriptor? text = some type) :
    IsFramed text.toList ∨ ∃ base : BaseType, text.toList = [base.letter] := by
  unfold ofDescriptor? at read
  split at read
  case h_1 letter => exact Or.inr ⟨.boolean, letter⟩
  case h_2 letter => exact Or.inr ⟨.byte, letter⟩
  case h_3 letter => exact Or.inr ⟨.char, letter⟩
  case h_4 letter => exact Or.inr ⟨.short, letter⟩
  case h_5 letter => exact Or.inr ⟨.int, letter⟩
  case h_6 letter => exact Or.inr ⟨.float, letter⟩
  case h_7 letter => exact Or.inr ⟨.long, letter⟩
  case h_8 letter => exact Or.inr ⟨.double, letter⟩
  case h_9 rest shape =>
    split at read
    case isTrue whole =>
      obtain ⟨long, ends⟩ := whole
      obtain ⟨name, rfl⟩ := List.getLast?_eq_some_iff.mp ends
      refine Or.inl (shape ▸ .object ?_)
      rintro rfl
      simp at long
    case isFalse => cases read
  case h_10 first rest shape => exact Or.inl (shape ▸ .array (List.cons_ne_nil first rest))
  case h_11 => cases read

/-- What is read is the type of a base type for its letter alone, and for a text with the frame of a
reference the reference to that text. -/
theorem ofDescriptor?_eq_some_iff {text : String} {type : SlotType} :
    ofDescriptor? text = some type ↔
      (∃ base : BaseType, text.toList = [base.letter] ∧ type = ofBase base) ∨
        IsFramed text.toList ∧ type = .reference (some text) := by
  have ofLetter : ∀ base : BaseType, text.toList = [base.letter] →
      ofDescriptor? text = some (ofBase base) := by
    intro base letter
    rw [← String.ofList_toList (s := text), letter]
    exact ofDescriptor?_write (.base base)
  constructor
  · intro read
    rcases isFramed_or_base_of_ofDescriptor? read with framed | ⟨base, letter⟩
    · rw [ofDescriptor?_of_isFramed framed] at read
      exact Or.inr ⟨framed, (Option.some.inj read).symm⟩
    · rw [ofLetter base letter] at read
      exact Or.inl ⟨base, letter, (Option.some.inj read).symm⟩
  · rintro (⟨base, letter, rfl⟩ | ⟨framed, rfl⟩)
    · exact ofLetter base letter
    · exact ofDescriptor?_of_isFramed framed

/-- A field descriptor is read as the type of its slot. -/
theorem ofDescriptor?_of_write_eq {text : String} {descriptor : FieldDescriptor}
    (written : descriptor.write = text.toList) : ofDescriptor? text = some (ofField descriptor) := by
  rw [← String.ofList_toList (s := text), ← written]
  exact ofDescriptor?_write descriptor

/-- If what is read of a text is a type, what is read of the text of that type is the same. -/
theorem ofDescriptor?_display_of_eq_some {text : String} {type : SlotType}
    (read : ofDescriptor? text = some type) : ofDescriptor? type.display = some type := by
  rcases ofDescriptor?_eq_some_iff.mp read with ⟨base, _, rfl⟩ | ⟨_, rfl⟩
  · cases base <;> decide
  · exact read

/-- Exactly the field descriptors are read, each as its type, unless there is the frame of a reference
around something malformed; such a text is read as a reference to itself. Every type that is read is read
again from its own text. -/
theorem ofDescriptor?_exact_iff (text : String) :
    ((∀ type, ofDescriptor? text = some type ↔
        ∃ descriptor : FieldDescriptor, descriptor.write = text.toList ∧ type = ofField descriptor) ↔
      (IsFramed text.toList → ∃ descriptor : FieldDescriptor, descriptor.write = text.toList)) ∧
    (∀ type, ofDescriptor? text = some type ↔
      (∃ base : BaseType, text.toList = [base.letter] ∧ type = ofBase base) ∨
        IsFramed text.toList ∧ type = .reference (some text)) ∧
    (ofDescriptor? text).bind (fun type => ofDescriptor? type.display) = ofDescriptor? text := by
  refine ⟨⟨?_, ?_⟩, fun _ => ofDescriptor?_eq_some_iff, ?_⟩
  · intro precise framed
    obtain ⟨descriptor, written, _⟩ := (precise _).mp (ofDescriptor?_of_isFramed framed)
    exact ⟨descriptor, written⟩
  · intro wellFormed type
    have found : ∀ descriptor : FieldDescriptor, descriptor.write = text.toList →
        ofDescriptor? text = some type → type = ofField descriptor := by
      intro descriptor written read
      exact Option.some.inj (read.symm.trans (ofDescriptor?_of_write_eq written))
    constructor
    · intro read
      rcases isFramed_or_base_of_ofDescriptor? read with framed | ⟨base, letter⟩
      · obtain ⟨descriptor, written⟩ := wellFormed framed
        exact ⟨descriptor, written, found descriptor written read⟩
      · exact ⟨.base base, letter.symm, found (.base base) letter.symm read⟩
    · rintro ⟨descriptor, written, rfl⟩
      exact ofDescriptor?_of_write_eq written
  · cases read : ofDescriptor? text with
    | none => rfl
    | some type => exact ofDescriptor?_display_of_eq_some read

/-- An array of what a method without a result returns: there is no such type, but one is read. -/
theorem ofDescriptor?_array_of_void :
    (∀ descriptor : FieldDescriptor, descriptor.write ≠ "[V".toList) ∧
      ofDescriptor? "[V" = some (.reference (some "[V")) := by
  refine ⟨?_, by decide⟩
  intro descriptor written
  cases descriptor with
  | base type => cases type <;> cases written
  | object name => cases written
  | array element => exact element.write_ne_void (List.cons.inj written).2

/-- What stands between the marks of a class need not be a name. -/
example : ofDescriptor? "La//b.c;;" = some (.reference (some "La//b.c;;")) := by
  decide

end SlotType

end ConstProp
