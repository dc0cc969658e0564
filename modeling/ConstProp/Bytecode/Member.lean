/-!
# Members

References to a field or a method of a class, ordered by owner, then name, then descriptor, each by
code points.
-/

namespace ConstProp

/-- A field or method by its owner, its name and its descriptor. -/
structure Member where
  owner : String
  name : String
  descriptor : String
  deriving DecidableEq, Repr, Inhabited

namespace Member

/-- The text of a member. The descriptor follows the name at once, as it does for a method. -/
def display (member : Member) : String :=
  member.owner ++ "." ++ member.name ++ member.descriptor

instance : ToString Member := ⟨display⟩

/-- The order of members: by owner, then by name, then by descriptor. -/
def compare (left right : Member) : Ordering :=
  (Ord.compare left.owner right.owner).then
    ((Ord.compare left.name right.name).then (Ord.compare left.descriptor right.descriptor))

/-- A list of members in ascending order. -/
def sort (members : List Member) : List Member :=
  members.mergeSort fun left right => (compare left right).isLE

end Member

end ConstProp
