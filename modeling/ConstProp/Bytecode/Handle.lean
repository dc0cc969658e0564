/-!
# Handles

Instructions of a method body are addressed by handles, which keep the low 32 bits of a position. A
merge site is a position in the code together with the slot in which several values meet.
-/

namespace ConstProp

/-- The address of an instruction in its method body. -/
structure Handle where
  index : UInt32
  deriving DecidableEq, Repr, Inhabited

namespace Handle

/-- The handle of a position; positions that differ by a multiple of `2 ^ 32` share it. -/
def ofPosition (position : Nat) : Handle :=
  ⟨position.toUInt32⟩

/-- The position that a handle addresses. -/
def position (handle : Handle) : Nat :=
  handle.index.toNat

/-- The text of a handle. -/
def display (handle : Handle) : String :=
  s!"#{handle.position}"

instance : ToString Handle := ⟨display⟩

/-- A list of handles in ascending order of their positions. -/
def sort (handles : List Handle) : List Handle :=
  handles.mergeSort fun left right => left.index ≤ right.index

@[simp] theorem ofPosition_position (handle : Handle) : ofPosition handle.position = handle := by
  simp [ofPosition, position]

theorem position_ofPosition {position : Nat} (small : position < UInt32.size) :
    (ofPosition position).position = position :=
  UInt32.toNat_ofNat_of_lt' small

end Handle

/-- A place where values from several paths meet: an instruction and the number of a slot. -/
structure MergeSite where
  handle : Handle
  slot : UInt32
  deriving DecidableEq, Repr, Inhabited

namespace MergeSite

/-- The merge site of a slot by number, of which the low 32 bits count. -/
def ofSlot (handle : Handle) (slot : Nat) : MergeSite :=
  ⟨handle, slot.toUInt32⟩

/-- The text of a merge site. -/
def display (site : MergeSite) : String :=
  s!"{site.handle}[{site.slot}]"

instance : ToString MergeSite := ⟨display⟩

end MergeSite

end ConstProp
