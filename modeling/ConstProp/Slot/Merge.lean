import ConstProp.Event

/-!
# Merging slot values

Where paths meet, the values that they bring to a slot are joined. Values that agree stay as the first
of them, pinned if either was; values that differ become an unknown of their own, which is tied to the
site of the merge.
-/

namespace ConstProp.SlotValue

/-- The unknown that values which differ become at a merge site. -/
def mergedAt (site : MergeSite) (type : SlotType) : SlotValue :=
  ⟨type, site.handle, .merged site.slot, false⟩

/-- The value of a slot where two values meet. -/
def join (left right : SlotValue) (site : MergeSite) : SlotValue :=
  if left.agrees right then { left with isPinned := left.isPinned || right.isPinned }
  else mergedAt site left.type

/-- What is reported of a join: that values of which one is known have become unknown. -/
def joinEvents (left right : SlotValue) (site : MergeSite) : List Event :=
  if !left.agrees right && (left.isKnown || right.isKnown) then [.varyingMerge left right site]
  else []

theorem join_of_agrees {left right : SlotValue} (same : left.agrees right = true)
    (site : MergeSite) :
    left.join right site = { left with isPinned := left.isPinned || right.isPinned } := by
  simp [join, same]

theorem join_of_not_agrees {left right : SlotValue} (differ : left.agrees right = false)
    (site : MergeSite) : left.join right site = mergedAt site left.type := by
  simp [join, differ]

@[simp] theorem mergeSite?_mergedAt (site : MergeSite) (type : SlotType) :
    (mergedAt site type).mergeSite? = some site := rfl

@[simp] theorem isKnown_mergedAt (site : MergeSite) (type : SlotType) :
    (mergedAt site type).isKnown = false := rfl

@[simp] theorem type_join (left right : SlotValue) (site : MergeSite) :
    (left.join right site).type = left.type := by
  unfold join
  split <;> rfl

end ConstProp.SlotValue
