/-!
# Descriptors

The grammar of field and method descriptors: what a class file can say of the type of a field, of the
parameters of a method, and of its result. Every descriptor has exactly one text.

Main statement: the text of a field descriptor is never empty (`FieldDescriptor.write_ne_nil`), so an
array always has an element type after its brackets.
-/

namespace ConstProp

/-- The types whose values are not references. -/
inductive BaseType where
  | byte | char | double | float | int | long | short | boolean
  deriving DecidableEq, Repr, Inhabited

/-- The letter of a base type in descriptors. -/
def BaseType.letter : BaseType → Char
  | .byte => 'B'
  | .char => 'C'
  | .double => 'D'
  | .float => 'F'
  | .int => 'I'
  | .long => 'J'
  | .short => 'S'
  | .boolean => 'Z'

/-- The name of a class: the segments of its path, at least one and none of them empty. -/
structure ClassName where
  segments : List (List Char)
  segments_ne_nil : segments ≠ []
  segment_ne_nil : ∀ segment ∈ segments, segment ≠ []
  /-- The characters that separate segments, descriptors and array dimensions occur in no segment. -/
  separator_not_mem : ∀ segment ∈ segments, ∀ char ∈ segment, char ∉ ['.', ';', '[', '/']
  deriving DecidableEq

namespace ClassName

/-- The text of a class name: its segments with slashes between them. -/
def write (name : ClassName) : List Char :=
  ['/'].intercalate name.segments

theorem write_ne_nil (name : ClassName) : name.write ≠ [] := by
  rcases name with ⟨_ | ⟨first, rest⟩, present, nonempty, _⟩
  case nil => exact absurd rfl present
  case cons =>
    intro blank
    have blankFirst : first = [] := by
      cases rest <;> simp_all [write, List.intercalate]
    exact nonempty first List.mem_cons_self blankFirst

end ClassName

/-- The type of a field, a parameter or a result. -/
inductive FieldDescriptor where
  | base (type : BaseType)
  | object (name : ClassName)
  | array (element : FieldDescriptor)
  deriving DecidableEq

namespace FieldDescriptor

/-- The text of a field descriptor. -/
def write : FieldDescriptor → List Char
  | .base type => [type.letter]
  | .object name => 'L' :: (name.write ++ [';'])
  | .array element => '[' :: element.write

theorem write_ne_nil (descriptor : FieldDescriptor) : descriptor.write ≠ [] := by
  cases descriptor <;> simp [write]

end FieldDescriptor

/-- The types of a method's parameters and of its result, if it has one. -/
structure MethodDescriptor where
  parameters : List FieldDescriptor
  result : Option FieldDescriptor
  deriving DecidableEq

namespace MethodDescriptor

/-- The text of what a method returns; a method without a result returns `V`. -/
def writeResult : Option FieldDescriptor → List Char
  | some descriptor => descriptor.write
  | none => ['V']

/-- The text of a method descriptor. -/
def write (descriptor : MethodDescriptor) : List Char :=
  '(' :: (descriptor.parameters.flatMap FieldDescriptor.write ++
    ')' :: writeResult descriptor.result)

end MethodDescriptor

end ConstProp
