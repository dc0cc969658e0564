import ConstProp.Bytecode.Descriptor

/-!
# Reading descriptors

A text is the descriptor of at most one type or method, so what it says of parameters and results can be
read off it. A field descriptor says itself where it ends: two of them with anything behind them are the
same text only if they are the same descriptor (`FieldDescriptor.write_append_inj`). A method descriptor
is therefore read parameter by parameter up to its parenthesis (`MethodDescriptor.write_inj`).
-/

namespace ConstProp

theorem BaseType.letter_inj {first second : BaseType} (same : first.letter = second.letter) :
    first = second := by
  cases first <;> cases second <;> first | rfl | cases same

namespace ClassName

/-- The mark at the end of a class descriptor is no part of the name of the class. -/
theorem semicolon_notMem_write (name : ClassName) : ';' ∉ name.write := by
  have apart : ∀ segments : List (List Char), (∀ segment ∈ segments, ';' ∉ segment) →
      ';' ∉ ['/'].intercalate segments := by
    intro segments
    induction segments with
    | nil => simp
    | cons first rest inductionHypothesis =>
      intro absent
      cases rest with
      | nil => simpa using absent
      | cons second others =>
        have later := inductionHypothesis fun segment member =>
          absent segment (List.mem_cons_of_mem first member)
        simpa [List.intercalate_cons_cons, absent first List.mem_cons_self] using later
  refine apart name.segments fun segment member semicolon => ?_
  exact name.separator_not_mem segment member ';' semicolon (by simp)

/-- A class name is read segment by segment. -/
theorem write_inj {first second : ClassName} (same : first.write = second.write) :
    first = second := by
  have separate : ∀ name : ClassName, name.write.splitOn '/' = name.segments := by
    intro name
    refine List.splitOn_intercalate '/' ?_ name.segments_ne_nil
    intro segment member slash
    exact name.separator_not_mem segment member '/' slash (by simp)
  have segments : first.segments = second.segments := by rw [← separate, same, separate]
  cases first
  cases second
  cases segments
  rfl

/-- In a class descriptor the name of the class is read up to the mark at its end. -/
theorem write_append_inj {first second : ClassName} {left right : List Char}
    (same : first.write ++ ';' :: left = second.write ++ ';' :: right) :
    first = second ∧ left = right := by
  have readUpTo : ∀ (name : ClassName) rest,
      (name.write ++ ';' :: rest).takeWhile (· ≠ ';') = name.write := by
    intro name rest
    rw [List.takeWhile_append_of_pos]
    · simp
    · intro char member
      simpa using ne_of_mem_of_not_mem member name.semicolon_notMem_write
  have names : first = second := write_inj (by rw [← readUpTo, same, readUpTo])
  subst names
  exact ⟨rfl, (List.cons.inj (List.append_cancel_left same)).2⟩

end ClassName

namespace FieldDescriptor

/-- A field descriptor says itself where it ends. -/
theorem write_append_inj {first second : FieldDescriptor} {left right : List Char}
    (same : first.write ++ left = second.write ++ right) : first = second ∧ left = right := by
  induction first generalizing second with
  | base type =>
    cases second with
    | base other =>
      obtain ⟨letters, rest⟩ := List.cons.inj same
      exact ⟨congrArg base (BaseType.letter_inj letters), rest⟩
    | object | array => cases type <;> cases same
  | object name =>
    cases second with
    | base other => cases other <;> cases same
    | object other =>
      have names : name.write ++ ';' :: left = other.write ++ ';' :: right := by
        simpa [write] using same
      obtain ⟨sameName, rest⟩ := ClassName.write_append_inj names
      exact ⟨congrArg object sameName, rest⟩
    | array => cases same
  | array element inductionHypothesis =>
    cases second with
    | base other => cases other <;> cases same
    | object => cases same
    | array other =>
      obtain ⟨elements, rest⟩ := inductionHypothesis (List.cons.inj same).2
      exact ⟨congrArg array elements, rest⟩

/-- A field descriptor begins neither with the parenthesis that ends the parameters of a method nor with
the mark of a method without a result. -/
theorem exists_write_eq_cons (descriptor : FieldDescriptor) :
    ∃ first rest, descriptor.write = first :: rest ∧ first ≠ ')' ∧ first ≠ 'V' := by
  cases descriptor with
  | base type => cases type <;> exact ⟨_, _, rfl, by decide, by decide⟩
  | object | array => exact ⟨_, _, rfl, by decide, by decide⟩

theorem write_append_ne_parenthesis (descriptor : FieldDescriptor) (left right : List Char) :
    descriptor.write ++ left ≠ ')' :: right := by
  obtain ⟨first, rest, shape, differs, _⟩ := descriptor.exists_write_eq_cons
  rw [shape]
  intro same
  exact differs (List.cons.inj same).1

theorem write_ne_void (descriptor : FieldDescriptor) : descriptor.write ≠ ['V'] := by
  obtain ⟨first, rest, shape, _, differs⟩ := descriptor.exists_write_eq_cons
  rw [shape]
  intro same
  exact differs (List.cons.inj same).1

theorem write_inj {first second : FieldDescriptor} (same : first.write = second.write) :
    first = second :=
  (write_append_inj (congrArg (· ++ []) same)).1

end FieldDescriptor

namespace MethodDescriptor

/-- The parameters of a method are read one after the other up to the parenthesis. -/
theorem parameters_inj {first second : List FieldDescriptor} {left right : List Char}
    (same : first.flatMap FieldDescriptor.write ++ ')' :: left =
      second.flatMap FieldDescriptor.write ++ ')' :: right) :
    first = second ∧ left = right := by
  induction first generalizing second with
  | nil =>
    cases second with
    | nil => exact ⟨rfl, (List.cons.inj same).2⟩
    | cons parameter others =>
      rw [List.flatMap_cons, List.append_assoc] at same
      exact absurd same.symm (parameter.write_append_ne_parenthesis _ _)
  | cons parameter rest inductionHypothesis =>
    rw [List.flatMap_cons, List.append_assoc] at same
    cases second with
    | nil => exact absurd same (parameter.write_append_ne_parenthesis _ _)
    | cons other others =>
      rw [List.flatMap_cons, List.append_assoc] at same
      obtain ⟨sameParameter, later⟩ := FieldDescriptor.write_append_inj same
      obtain ⟨sameRest, results⟩ := inductionHypothesis later
      exact ⟨by rw [sameParameter, sameRest], results⟩

theorem writeResult_inj {first second : Option FieldDescriptor}
    (same : writeResult first = writeResult second) : first = second := by
  cases first with
  | none =>
    cases second with
    | none => rfl
    | some descriptor => exact absurd same.symm descriptor.write_ne_void
  | some descriptor =>
    cases second with
    | none => exact absurd same descriptor.write_ne_void
    | some other => exact congrArg some (FieldDescriptor.write_inj same)

/-- A text is the descriptor of at most one method. -/
theorem write_inj {first second : MethodDescriptor} (same : first.write = second.write) :
    first = second := by
  obtain ⟨parameters, results⟩ := parameters_inj (List.cons.inj same).2
  have result := writeResult_inj results
  cases first
  cases second
  cases parameters
  cases result
  rfl

end MethodDescriptor

end ConstProp
