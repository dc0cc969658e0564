import ConstProp.Slot.Value

/-!
# Rebuilding values

The instructions that bring a value back, for use in a method body with other labels: a load of a known
value, or the producer of an unknown one. A merged value has no producer to repeat.
-/

namespace ConstProp.SlotValue

/-- The instructions that bring the value back. -/
def rebuild (value : SlotValue) (body : Body) (relabeling : Relabeling) :
    Except Error (List Instruction) :=
  match value.payload with
  | .number number => .ok [.load (.number number.loadable)]
  | .text text => .ok [.load (.text text)]
  | .merged slot => .error (.notMaterializable ⟨value.producer, slot⟩)
  | .produced =>
    match body.fetch value.producer with
    | .ok instruction => .ok [instruction.relabel relabeling]
    | .error error => .error error

/-- A known value is brought back by a load of its stack value, wherever it comes from. -/
theorem rebuild_of_stackValue? {value : SlotValue} {constant : Constant}
    (known : value.stackValue? = some constant) (body : Body) (relabeling : Relabeling) :
    value.rebuild body relabeling = .ok [.load constant] := by
  rcases value with ⟨_, _, payload, _⟩
  cases payload <;> simp_all [stackValue?, rebuild]

/-- A merged value cannot be brought back. -/
theorem rebuild_of_mergeSite? {value : SlotValue} {site : MergeSite}
    (merged : value.mergeSite? = some site) (body : Body) (relabeling : Relabeling) :
    value.rebuild body relabeling = .error (.notMaterializable site) := by
  rcases value with ⟨_, _, payload, _⟩
  cases payload <;> simp_all [mergeSite?, rebuild]

end ConstProp.SlotValue
