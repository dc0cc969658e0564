import ConstProp.Registry

/-!
# Labels and relabelings

Jumps, switches and line records name positions by labels. A relabeling sends the labels of one method
body to those of another, so that an instruction can move between them; a label it does not mention
stays as it is.

Main statement: the last binding of a label decides where it goes (`image_insert`).
-/

namespace ConstProp

/-- A position in a method body, by number. The numbers meant are those below `2 ^ 32 - 1`: each of them and
the one after it fit in 32 bits. -/
structure Label where
  index : Nat
  deriving DecidableEq, Repr, Inhabited

namespace Label

/-- The text of a label. -/
def display (label : Label) : String :=
  s!"L{label.index}"

instance : ToString Label := ⟨display⟩

end Label

/-- New labels for some of the labels of a method body. -/
structure Relabeling where
  targets : Registry Label Label
  deriving DecidableEq

namespace Relabeling

/-- The relabeling that changes nothing. -/
def empty : Relabeling := ⟨.empty⟩

/-- The new label bound to a label. -/
def target? (relabeling : Relabeling) (label : Label) : Option Label :=
  relabeling.targets.find? label

/-- Binds a label to a new one, in place of an earlier binding. -/
def insert (relabeling : Relabeling) (label target : Label) : Relabeling :=
  ⟨relabeling.targets.insert label target⟩

/-- The relabeling with given bindings, of which a later one replaces an earlier one. -/
def ofList (pairs : List (Label × Label)) : Relabeling :=
  pairs.foldl (fun relabeling pair => relabeling.insert pair.1 pair.2) empty

/-- Whether no label is bound. -/
def isEmpty (relabeling : Relabeling) : Bool :=
  relabeling.targets.isEmpty

/-- Where a label goes: to the label bound to it, or to itself. -/
def image (relabeling : Relabeling) (label : Label) : Label :=
  (relabeling.target? label).getD label

@[simp] theorem image_empty (label : Label) : empty.image label = label := rfl

theorem target?_insert (relabeling : Relabeling) (label target other : Label) :
    (relabeling.insert label target).target? other =
      if other = label then some target else relabeling.target? other :=
  relabeling.targets.find?_insert label other target

theorem image_insert (relabeling : Relabeling) (label target other : Label) :
    (relabeling.insert label target).image other =
      if other = label then target else relabeling.image other := by
  simp only [image, target?_insert]
  split <;> rfl

end Relabeling

end ConstProp
