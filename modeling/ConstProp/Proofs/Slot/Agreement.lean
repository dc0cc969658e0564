import ConstProp.Slot.Merge
import ConstProp.Slot.Rebuild

/-!
# Agreement of slot values

Agreement compares values by what they are for the analysis, and every operation on a single value
respects it: values that agree are known alike, merged alike, on the stack alike, and rebuilt alike.
Joins respect it on both sides.

A value is merged at a site exactly when it agrees with the unknown that a disagreeing join makes there
(`agrees_mergedAt_iff`). The merged values of one site are therefore one class of agreement, in which a
join at that site stays (`mergeSite?_join_of_left`).
-/

namespace ConstProp.SlotValue

/-- Agreement is symmetric, as an equation between the two comparisons. -/
theorem agrees_comm (left right : SlotValue) : left.agrees right = right.agrees left := by
  rw [Bool.eq_iff_iff]
  exact ⟨agrees_symm, agrees_symm⟩

/-- A value can be replaced on the left of a comparison by one that agrees with it. -/
theorem agrees_congr_left {first second : SlotValue} (same : first.agrees second = true)
    (other : SlotValue) : first.agrees other = second.agrees other := by
  rw [Bool.eq_iff_iff]
  constructor
  · intro agree
    exact agrees_trans (agrees_symm same) agree
  · intro agree
    exact agrees_trans same agree

/-- A value can be replaced on the right of a comparison by one that agrees with it. -/
theorem agrees_congr_right {first second : SlotValue} (same : first.agrees second = true)
    (other : SlotValue) : other.agrees first = other.agrees second := by
  rw [agrees_comm other first, agrees_comm other second, agrees_congr_left same]

/-- Pins do not take part in a comparison. -/
@[simp] theorem agrees_setPin_left (value other : SlotValue) (isPinned : Bool) :
    ({ value with isPinned } : SlotValue).agrees other = value.agrees other := rfl

/-- Values that agree are both known or both unknown. -/
theorem isKnown_eq_of_agrees {left right : SlotValue} (same : left.agrees right = true) :
    left.isKnown = right.isKnown := by
  rcases left with ⟨_, _, first, _⟩
  rcases right with ⟨_, _, second, _⟩
  cases first <;> cases second <;> simp_all [agrees, isKnown]

/-- Values that agree were merged at the same site, or neither was merged. -/
theorem mergeSite?_eq_of_agrees {left right : SlotValue} (same : left.agrees right = true) :
    left.mergeSite? = right.mergeSite? := by
  rcases left with ⟨_, _, first, _⟩
  rcases right with ⟨_, _, second, _⟩
  cases first <;> cases second <;> simp_all [agrees, mergeSite?]

/-- A value agrees with the unknown of a site exactly when it was merged there. -/
theorem agrees_mergedAt_iff (value : SlotValue) (site : MergeSite) (type : SlotType) :
    value.agrees (mergedAt site type) = true ↔ value.mergeSite? = some site := by
  rcases value with ⟨_, _, payload, _⟩
  rcases site with ⟨handle, slot⟩
  cases payload <;> simp [agrees, mergedAt, mergeSite?]

/-- Values merged at one site agree. -/
theorem agrees_of_mergeSite? {left right : SlotValue} {site : MergeSite}
    (leftMerged : left.mergeSite? = some site) (rightMerged : right.mergeSite? = some site) :
    left.agrees right = true := by
  have leftUnknown := (agrees_mergedAt_iff left site .int).mpr leftMerged
  have rightUnknown := (agrees_mergedAt_iff right site .int).mpr rightMerged
  exact agrees_trans leftUnknown (agrees_symm rightUnknown)

/-- A merged value is unknown. -/
theorem isKnown_of_mergeSite? {value : SlotValue} {site : MergeSite}
    (merged : value.mergeSite? = some site) : value.isKnown = false := by
  rcases value with ⟨_, _, payload, _⟩
  cases payload <;> simp_all [mergeSite?, isKnown]

/-- A merged value has no form on the stack. -/
theorem stackValue?_of_mergeSite? {value : SlotValue} {site : MergeSite}
    (merged : value.mergeSite? = some site) : value.stackValue? = none := by
  rcases value with ⟨_, _, payload, _⟩
  cases payload <;> simp_all [mergeSite?, stackValue?]

/-- Values that agree have forms on the stack that are the same value there, or have none. -/
theorem stackValue?_rel_of_agrees {left right : SlotValue} (same : left.agrees right = true) :
    Option.Rel (fun first second => first.computational = second.computational)
      left.stackValue? right.stackValue? := by
  have forms := stackValue?_eq_of_agrees same
  cases leftForm : left.stackValue? with
  | none =>
    rw [leftForm, Option.map_none, eq_comm, Option.map_eq_none_iff] at forms
    rw [forms]
    exact .none
  | some constant =>
    rw [leftForm, Option.map_some, eq_comm, Option.map_eq_some_iff] at forms
    obtain ⟨other, rightForm, equal⟩ := forms
    rw [rightForm]
    exact .some equal.symm

/-- What two values are brought back by is the same for whoever runs it: the same error, the same single
instruction, or single loads of constants that are the same value on the stack. -/
inductive RebuiltAlike : Except Error (List Instruction) → Except Error (List Instruction) → Prop
  | error (error : Error) : RebuiltAlike (.error error) (.error error)
  | instruction (instruction : Instruction) : RebuiltAlike (.ok [instruction]) (.ok [instruction])
  | load {first second : Constant} (same : first.computational = second.computational) :
    RebuiltAlike (.ok [.load first]) (.ok [.load second])

/-- Values that agree are brought back alike. Only a known one may come back as another instruction,
since its load keeps the kinds of the small integers. -/
theorem rebuiltAlike_of_agrees {left right : SlotValue} (same : left.agrees right = true)
    (body : Body) (relabeling : Relabeling) :
    RebuiltAlike (left.rebuild body relabeling) (right.rebuild body relabeling) := by
  have forms := stackValue?_rel_of_agrees same
  cases leftForm : left.stackValue? with
  | some constant =>
    cases rightForm : right.stackValue? with
    | none =>
      rw [leftForm, rightForm] at forms
      cases forms
    | some other =>
      rw [leftForm, rightForm] at forms
      obtain equal | _ := forms
      rw [rebuild_of_stackValue? leftForm, rebuild_of_stackValue? rightForm]
      exact .load equal
  | none =>
    -- Agreement of unknown values does look at the producer, so both have the same one.
    have unknown : left.rebuild body relabeling = right.rebuild body relabeling := by
      rcases left with ⟨_, _, first, _⟩
      rcases right with ⟨_, _, second, _⟩
      cases first <;> cases second <;> simp_all [agrees, stackValue?, rebuild]
    rw [← unknown]
    rcases left with ⟨_, producer, payload, _⟩
    cases payload with
    | number | text => cases leftForm
    | merged slot => exact .error _
    | produced =>
      unfold rebuild
      cases body.fetch producer with
      | error error => exact .error error
      | ok instruction => exact .instruction _

/-- The producer of an unknown value must stay in the code. -/
theorem isRequired_of_isKnown {value : SlotValue} (unknown : value.isKnown = false) :
    value.isRequired = true := by
  simp [isRequired, unknown]

/-- A join agrees with its left value if its values agree. -/
theorem join_agrees_left {left right : SlotValue} (same : left.agrees right = true)
    (site : MergeSite) : (left.join right site).agrees left = true := by
  rw [join_of_agrees same, agrees_setPin_left]
  exact agrees_refl left

/-- A join is merged at its site if its values differ. -/
theorem mergeSite?_join_of_not_agrees {left right : SlotValue}
    (differ : left.agrees right = false) (site : MergeSite) :
    (left.join right site).mergeSite? = some site := by
  rw [join_of_not_agrees differ, mergeSite?_mergedAt]

/-- A join into a value that was merged at the site of the join is merged there too. -/
theorem mergeSite?_join_of_left {left : SlotValue} {site : MergeSite}
    (merged : left.mergeSite? = some site) (right : SlotValue) :
    (left.join right site).mergeSite? = some site := by
  cases agree : left.agrees right with
  | true => rw [mergeSite?_eq_of_agrees (join_agrees_left agree site), merged]
  | false => exact mergeSite?_join_of_not_agrees agree site

/-- A join into an unknown value is unknown. -/
theorem isKnown_join_of_left {left : SlotValue} (unknown : left.isKnown = false)
    (right : SlotValue) (site : MergeSite) : (left.join right site).isKnown = false := by
  cases agree : left.agrees right with
  | true => rw [isKnown_eq_of_agrees (join_agrees_left agree site), unknown]
  | false => rw [join_of_not_agrees agree, isKnown_mergedAt]

/-- A join into a value that is required in the code is required too. -/
theorem isRequired_join_of_left {left : SlotValue} (required : left.isRequired = true)
    (right : SlotValue) (site : MergeSite) : (left.join right site).isRequired = true := by
  rw [isRequired, Bool.or_eq_true] at required
  rcases required with pinned | unknown
  · cases agree : left.agrees right with
    | true => simp [join_of_agrees agree, isRequired, pinned]
    | false => exact isRequired_of_isKnown (by rw [join_of_not_agrees agree, isKnown_mergedAt])
  · exact isRequired_of_isKnown (isKnown_join_of_left (by simpa using unknown) right site)

/-- A join of values that agree is required in the code if either of them is. -/
theorem isRequired_join_of_agrees {left right : SlotValue} (same : left.agrees right = true)
    (site : MergeSite) :
    (left.join right site).isRequired = (left.isRequired || right.isRequired) := by
  have joinKnown := isKnown_eq_of_agrees (join_agrees_left same site)
  have pinned : (left.join right site).isPinned = (left.isPinned || right.isPinned) := by
    rw [join_of_agrees same]
  rw [isRequired, isRequired, isRequired, joinKnown, pinned, ← isKnown_eq_of_agrees same]
  cases left.isPinned <;> cases right.isPinned <;> simp

/-- A join is known exactly if it joins known values that agree. -/
theorem isKnown_join_iff {left right : SlotValue} {site : MergeSite} :
    (left.join right site).isKnown = true ↔ left.agrees right = true ∧ left.isKnown = true := by
  cases agree : left.agrees right with
  | true => simp [isKnown_eq_of_agrees (join_agrees_left agree site)]
  | false => simp [join_of_not_agrees agree]

/-- Joins of values that agree on either side agree. -/
theorem join_congr {left left' right right' : SlotValue} (sameLeft : left.agrees left' = true)
    (sameRight : right.agrees right' = true) (site : MergeSite) :
    (left.join right site).agrees (left'.join right' site) = true := by
  have comparison : left.agrees right = left'.agrees right' := by
    rw [agrees_congr_left sameLeft, agrees_congr_right sameRight]
  cases agree : left.agrees right with
  | true =>
    have leftJoin := join_agrees_left agree site
    have rightJoin := join_agrees_left (comparison ▸ agree) site
    exact agrees_trans leftJoin (agrees_trans sameLeft (agrees_symm rightJoin))
  | false =>
    have leftJoin := mergeSite?_join_of_not_agrees agree site
    have rightJoin := mergeSite?_join_of_not_agrees (comparison ▸ agree) site
    exact agrees_of_mergeSite? leftJoin rightJoin

end ConstProp.SlotValue
