import ConstProp.Proofs.Slot.Agreement
import Mathlib.Data.Fintype.Card
import Mathlib.Logic.Function.Basic

/-!
# Settling of frames

An analysis keeps a value for each slot of a frame and joins what arrives into it, at the merge site of
the slot, until nothing changes any more. What arrives may come from anywhere, also from other slots of
the frame as they stand at that moment.

A slot changes at most once: the join that changes it leaves the unknown of its own site
(`mergeSite?_run_of_mem_changes`), and a value merged at the site of a slot is not changed by a join
there (`not_mem_changes_of_mergeSite?`). So a run has at most as many changes as there are slots, in
whatever order its updates come (`nodup_changes`). Knowledge is only lost and requirements are only
gained on the way (`isKnown_run`, `isRequired_run`).
-/

namespace ConstProp

/-- The values of a family of slots. -/
abbrev Frame (count : Nat) := Fin count → SlotValue

namespace Frame

variable {count : Nat}

/-- A value that arrives at a slot, possibly read from the frame as it stands. -/
structure Update (count : Nat) where
  slot : Fin count
  incoming : Frame count → SlotValue

/-- Joins what arrives into its slot, at the merge site of that slot. -/
def step (sites : Fin count → MergeSite) (frame : Frame count) (update : Update count) :
    Frame count :=
  Function.update frame update.slot
    ((frame update.slot).join (update.incoming frame) (sites update.slot))

/-- The frame after a sequence of updates. -/
def run (sites : Fin count → MergeSite) (frame : Frame count) (updates : List (Update count)) :
    Frame count :=
  updates.foldl (step sites) frame

/-- The slots that change along a sequence of updates: one entry for each update after which its slot
does not agree with what was there before. -/
def changes (sites : Fin count → MergeSite) (frame : Frame count) :
    List (Update count) → List (Fin count)
  | [] => []
  | update :: rest =>
    let next := frame.step sites update
    if (next update.slot).agrees (frame update.slot) then changes sites next rest
    else update.slot :: changes sites next rest

section Steps

variable (sites : Fin count → MergeSite) (frame : Frame count) (update : Update count)

/-- The slot of an update holds the join of what was there and what arrives. -/
@[simp] theorem step_slot :
    frame.step sites update update.slot =
      (frame update.slot).join (update.incoming frame) (sites update.slot) := by
  simp [step]

/-- The other slots are as before. -/
theorem step_of_ne {slot : Fin count} (other : slot ≠ update.slot) :
    frame.step sites update slot = frame slot := by
  simp [step, other]

/-- What joins at the site of a slot preserve, updates of the frame preserve there. -/
theorem step_preserves (property : SlotValue → Prop) {slot : Fin count}
    (preserved : ∀ value incoming, property value → property (value.join incoming (sites slot)))
    (holds : property (frame slot)) : property (frame.step sites update slot) := by
  by_cases same : slot = update.slot
  · subst same
    rw [step_slot]
    exact preserved _ _ holds
  · rw [step_of_ne sites frame update same]
    exact holds

end Steps

variable {sites : Fin count → MergeSite}

@[simp] theorem run_nil (frame : Frame count) : frame.run sites [] = frame := rfl

@[simp] theorem run_cons (frame : Frame count) (update : Update count)
    (rest : List (Update count)) :
    frame.run sites (update :: rest) = (frame.step sites update).run sites rest := rfl

@[simp] theorem run_append (frame : Frame count) (earlier later : List (Update count)) :
    frame.run sites (earlier ++ later) = (frame.run sites earlier).run sites later := by
  simp [run]

/-- What joins at the site of a slot preserve holds there after every run. -/
theorem run_preserves (property : SlotValue → Prop) {slot : Fin count}
    (preserved : ∀ value incoming, property value → property (value.join incoming (sites slot)))
    {frame : Frame count} (holds : property (frame slot)) (updates : List (Update count)) :
    property (frame.run sites updates slot) := by
  induction updates generalizing frame with
  | nil => exact holds
  | cons update rest inductionHypothesis =>
    exact inductionHypothesis (step_preserves sites frame update property preserved holds)

/-- A slot that holds a value merged at its site does so after every run. -/
theorem mergeSite?_run {frame : Frame count} {slot : Fin count}
    (merged : (frame slot).mergeSite? = some (sites slot)) (updates : List (Update count)) :
    (frame.run sites updates slot).mergeSite? = some (sites slot) :=
  run_preserves (fun value => value.mergeSite? = some (sites slot))
    (fun _ incoming merged => SlotValue.mergeSite?_join_of_left merged incoming) merged updates

/-- A slot whose value is not known never holds a known one again. -/
theorem isKnown_run {frame : Frame count} {slot : Fin count}
    (unknown : (frame slot).isKnown = false) (updates : List (Update count)) :
    (frame.run sites updates slot).isKnown = false :=
  run_preserves (fun value => value.isKnown = false)
    (fun _ incoming unknown => SlotValue.isKnown_join_of_left unknown incoming _) unknown updates

/-- A slot whose value is required in the code never holds one that is not. -/
theorem isRequired_run {frame : Frame count} {slot : Fin count}
    (required : (frame slot).isRequired = true) (updates : List (Update count)) :
    (frame.run sites updates slot).isRequired = true :=
  run_preserves (fun value => value.isRequired = true)
    (fun _ incoming required => SlotValue.isRequired_join_of_left required incoming _) required
    updates

/-- A slot that holds a value merged at its site does not change. -/
theorem not_mem_changes_of_mergeSite? {frame : Frame count} {slot : Fin count}
    (merged : (frame slot).mergeSite? = some (sites slot)) (updates : List (Update count)) :
    slot ∉ changes sites frame updates := by
  induction updates generalizing frame with
  | nil => simp [changes]
  | cons update rest inductionHypothesis =>
    have later := inductionHypothesis (mergeSite?_run merged [update])
    rw [changes]
    split
    case isTrue => exact later
    case isFalse changed =>
      have other : slot ≠ update.slot := by
        rintro rfl
        have after := mergeSite?_run merged [update]
        exact changed (SlotValue.agrees_of_mergeSite? after merged)
      rw [List.mem_cons, not_or]
      exact ⟨other, later⟩

/-- An update that changes its slot leaves the unknown of the site of the slot there. -/
theorem mergeSite?_step_of_not_agrees {frame : Frame count} {update : Update count}
    (changed : ¬ (frame.step sites update update.slot).agrees (frame update.slot) = true) :
    (frame.step sites update update.slot).mergeSite? = some (sites update.slot) := by
  rw [step_slot] at changed ⊢
  refine SlotValue.mergeSite?_join_of_not_agrees ?_ _
  rw [← Bool.not_eq_true]
  intro agree
  exact changed (SlotValue.join_agrees_left agree _)

/-- A slot that has changed holds a value merged at its site. -/
theorem mergeSite?_run_of_mem_changes {frame : Frame count} {slot : Fin count}
    {updates : List (Update count)} (changed : slot ∈ changes sites frame updates) :
    (frame.run sites updates slot).mergeSite? = some (sites slot) := by
  induction updates generalizing frame with
  | nil => simp [changes] at changed
  | cons update rest inductionHypothesis =>
    rw [changes] at changed
    rw [run_cons]
    split at changed
    case isTrue => exact inductionHypothesis changed
    case isFalse now =>
      rcases List.mem_cons.mp changed with rfl | later
      · exact mergeSite?_run (mergeSite?_step_of_not_agrees now) rest
      · exact inductionHypothesis later

/-- No slot changes twice. -/
theorem nodup_changes (frame : Frame count) (updates : List (Update count)) :
    (changes sites frame updates).Nodup := by
  induction updates generalizing frame with
  | nil => simp [changes]
  | cons update rest inductionHypothesis =>
    rw [changes]
    split
    case isTrue => exact inductionHypothesis _
    case isFalse now =>
      rw [List.nodup_cons]
      exact ⟨not_mem_changes_of_mergeSite? (mergeSite?_step_of_not_agrees now) rest,
        inductionHypothesis _⟩

/-- A run has at most as many changes as there are slots. -/
theorem length_changes_le (frame : Frame count) (updates : List (Update count)) :
    (changes sites frame updates).length ≤ count := by
  have nodup : (changes sites frame updates).Nodup := nodup_changes frame updates
  simpa using nodup.length_le_card

/-- However updates interleave, each slot changes at most once, so that there are at most as many changes
as slots. A slot that has changed holds from then on an unknown value merged at its own site; one that is
not known stays so, and one that is required in the code stays so. -/
theorem run_settles (sites : Fin count → MergeSite) (frame : Frame count)
    (updates : List (Update count)) :
    (changes sites frame updates).Nodup ∧
    (changes sites frame updates).length ≤ count ∧
    ∀ slot : Fin count,
      (slot ∈ changes sites frame updates → ∀ later,
        (frame.run sites (updates ++ later) slot).isKnown = false ∧
          (frame.run sites (updates ++ later) slot).mergeSite? = some (sites slot)) ∧
      ((frame.run sites updates slot).isKnown = false → ∀ later,
        (frame.run sites (updates ++ later) slot).isKnown = false) ∧
      ((frame.run sites updates slot).isRequired = true → ∀ later,
        (frame.run sites (updates ++ later) slot).isRequired = true) := by
  refine ⟨nodup_changes frame updates, length_changes_le frame updates, ?_⟩
  intro slot
  refine ⟨?_, ?_, ?_⟩
  · intro changed later
    rw [run_append]
    have merged := mergeSite?_run (mergeSite?_run_of_mem_changes changed) later
    exact ⟨SlotValue.isKnown_of_mergeSite? merged, merged⟩
  · intro unknown later
    rw [run_append]
    exact isKnown_run unknown later
  · intro required later
    rw [run_append]
    exact isRequired_run required later

/-- Of two slots that hold the same number, the first meets another number, and the second meets what the
first holds then. Both have changed, and both stay merged at their own sites when the first meets the
second again. -/
theorem run_settles_feedback :
    let sites : Fin 2 → MergeSite := fun slot => MergeSite.ofSlot ⟨7⟩ slot
    let frame : Frame 2 := fun _ => SlotValue.ofNumber .int ⟨0⟩ (.int 3)
    let updates : List (Update 2) :=
      [⟨0, fun _ => SlotValue.ofNumber .int ⟨1⟩ (.int 4)⟩, ⟨1, fun frame => frame 0⟩]
    let later : List (Update 2) := [⟨0, fun frame => frame 1⟩]
    0 ∈ changes sites frame updates ∧ 1 ∈ changes sites frame updates ∧
      (frame.run sites (updates ++ later) 0).mergeSite? = some (sites 0) ∧
      (frame.run sites (updates ++ later) 1).mergeSite? = some (sites 1) ∧
      (frame.run sites (updates ++ later) 1).isKnown = false ∧
      (frame.run sites (updates ++ later) 1).isRequired = true := by
  intro sites frame updates later
  have firstChanged : 0 ∈ changes sites frame updates := by decide
  have secondChanged : 1 ∈ changes sites frame updates := by decide
  obtain ⟨_, _, settled⟩ := run_settles sites frame updates
  obtain ⟨firstSettles, _, _⟩ := settled 0
  obtain ⟨secondSettles, staysUnknown, staysRequired⟩ := settled 1
  exact ⟨firstChanged, secondChanged, (firstSettles firstChanged later).2,
    (secondSettles secondChanged later).2, staysUnknown (by decide) later,
    staysRequired (by decide) later⟩

end Frame

end ConstProp
