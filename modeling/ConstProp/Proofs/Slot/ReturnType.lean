import ConstProp.Slot.Type

/-!
# Types of results

The type of a method's result is read after the last closing parenthesis of its descriptor. Class names
may contain parentheses of their own. In the names of parameters they do no harm, since the parenthesis
that ends the parameters comes after them (`SlotType.ofReturn?_write_of_notMem`); but behind one in the
name of the result only a part of that name is left, and what is read from it is not the type of the
result (`SlotType.ofReturn?_write_ne_of_mem`).
-/

namespace ConstProp.SlotType

section Splitting

variable {mark : Char}

theorem afterLast?_eq_none_of_notMem {text : List Char} (absent : mark ∉ text) :
    afterLast? mark text = none := by
  induction text with
  | nil => rfl
  | cons char rest inductionHypothesis =>
    rw [List.mem_cons, not_or] at absent
    rw [afterLast?, inductionHypothesis absent.2, if_neg (Ne.symm absent.1)]

/-- Marks before the last one do not matter. -/
theorem afterLast?_append_cons (front : List Char) {rest : List Char} (absent : mark ∉ rest) :
    afterLast? mark (front ++ mark :: rest) = some rest := by
  induction front with
  | nil => simp [afterLast?, afterLast?_eq_none_of_notMem absent]
  | cons char front inductionHypothesis => rw [List.cons_append, afterLast?, inductionHypothesis]

/-- A text with a mark in it has a last one. -/
theorem exists_last_of_mem {text : List Char} (present : mark ∈ text) :
    ∃ front rest, text = front ++ mark :: rest ∧ mark ∉ rest := by
  obtain ⟨after, before, shape, absent⟩ :=
    List.eq_append_cons_of_mem (List.mem_reverse.mpr present)
  refine ⟨before.reverse, after.reverse, ?_, ?_⟩
  · rw [← List.reverse_reverse text, shape]
    simp
  · rwa [List.mem_reverse]

end Splitting

/-- Only the name of a class can contain a parenthesis, so a descriptor with one is that of a reference. -/
theorem ofField_of_parenthesis_mem {descriptor : FieldDescriptor}
    (parenthesis : ')' ∈ descriptor.write) :
    ofField descriptor = .reference (some (String.ofList descriptor.write)) := by
  cases descriptor with
  | base type => cases type <;> simp [FieldDescriptor.write, BaseType.letter] at parenthesis
  | object name => rfl
  | array element => rfl

/-- A text that is read as a reference with a descriptor is that descriptor. -/
theorem eq_of_ofDescriptor?_eq_reference {text found : String}
    (read : ofDescriptor? text = some (.reference (some found))) : text = found := by
  unfold ofDescriptor? at read
  split at read <;> simp_all

theorem ofDescriptor?_void : ofDescriptor? "V" = none := by
  simp [ofDescriptor?]

/-- What a method returns is read from the text behind the last parenthesis in its descriptor. -/
theorem ofReturn?_write_of_eq_append (descriptor : MethodDescriptor) {front rest : List Char}
    (shape : ')' :: MethodDescriptor.writeResult descriptor.result = front ++ ')' :: rest)
    (absent : ')' ∉ rest) :
    ofReturn? (String.ofList descriptor.write) = ofDescriptor? (String.ofList rest) := by
  have write : descriptor.write =
      ('(' :: descriptor.parameters.flatMap FieldDescriptor.write ++ front) ++ ')' :: rest := by
    rw [MethodDescriptor.write, shape]
    simp
  rw [ofReturn?, String.toList_ofList, write, afterLast?_append_cons _ absent]

/-- A text without parentheses behind the parameters is read as the type of the result. -/
theorem ofReturn?_write_of_notMem (descriptor : MethodDescriptor)
    (absent : ')' ∉ MethodDescriptor.writeResult descriptor.result) :
    ofReturn? (String.ofList descriptor.write) = descriptor.result.map ofField := by
  rw [ofReturn?_write_of_eq_append descriptor (List.nil_append _).symm absent]
  cases descriptor.result with
  | none => exact ofDescriptor?_void
  | some result => exact ofDescriptor?_write result

/-- Of a text with a parenthesis behind the parameters, only a part is read, and never as the type of the
result. -/
theorem ofReturn?_write_ne_of_mem (descriptor : MethodDescriptor)
    (present : ')' ∈ MethodDescriptor.writeResult descriptor.result) :
    ofReturn? (String.ofList descriptor.write) ≠ descriptor.result.map ofField := by
  obtain ⟨front, rest, shape, absent⟩ := exists_last_of_mem present
  have behind : ')' :: MethodDescriptor.writeResult descriptor.result =
      (')' :: front) ++ ')' :: rest := by rw [shape, List.cons_append]
  rw [ofReturn?_write_of_eq_append descriptor behind absent]
  cases returned : descriptor.result with
  | none =>
    rw [returned] at present
    simp [MethodDescriptor.writeResult] at present
  | some result =>
    rw [returned] at present
    rw [Option.map_some, ofField_of_parenthesis_mem present]
    intro read
    -- A reference is read from its own descriptor, but this one has no parenthesis left in it.
    have whole : rest = result.write :=
      String.ofList_injective (eq_of_ofDescriptor?_eq_reference read)
    rw [whole] at absent
    exact absent present

/-- The type of a method's result is read from every method descriptor in whose result there is no closing
parenthesis, whatever the names of the parameters are, and from no other. -/
theorem ofReturn?_write_iff (descriptor : MethodDescriptor) :
    ofReturn? (String.ofList descriptor.write) = descriptor.result.map ofField ↔
      ')' ∉ MethodDescriptor.writeResult descriptor.result := by
  constructor
  · intro read present
    exact ofReturn?_write_ne_of_mem descriptor present read
  · exact ofReturn?_write_of_notMem descriptor

/-- A method without parameters that returns an object of the class `a)b`: no type is read for it. -/
theorem ofReturn?_write_parenthesis :
    let name : ClassName := ⟨[['a', ')', 'b']], by simp, by simp, by simp⟩
    let descriptor : MethodDescriptor := ⟨[], some (.object name)⟩
    String.ofList descriptor.write = "()La)b;" ∧
      descriptor.result.map ofField = some (.reference (some "La)b;")) ∧
      ofReturn? "()La)b;" = none := by
  refine ⟨?_, ?_, ?_⟩
  · rfl
  · rfl
  · decide

/-- In the name of a parameter a parenthesis does no harm. -/
example : ofReturn? "(La)b;)I" = some .int := by
  decide

end ConstProp.SlotType
