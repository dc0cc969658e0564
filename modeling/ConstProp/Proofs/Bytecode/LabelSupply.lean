import ConstProp.Bytecode.Body
import Mathlib.Data.Nat.Init
import Mathlib.Order.MinMax

/-!
# The supply of labels

A method body that starts from given instructions takes its new labels from above the labels that these
place (`Body.lt_nextLabel_ofList_iff`), and never takes one twice. The labels that they only refer to are
not looked at. So a new label is one that no instruction mentions if the given instructions refer to no
label above all those that they place (`Body.Accounts.newLabel_notMem_labels`), and otherwise the supply
comes to such a label in the end (`Body.Grown.exists_nextLabel_eq`). Whatever is added later mentions
known labels only, and does no harm.
-/

namespace ConstProp

/-- Only a label that an instruction places counts for its bound. -/
theorem Instruction.lt_labelBound_iff {index : Nat} (instruction : Instruction) :
    index < instruction.labelBound ↔
      ∃ placed, instruction = .mark placed ∧ index ≤ placed.index := by
  cases instruction with
  | mark label =>
    constructor
    · intro below
      exact ⟨label, rfl, Nat.le_of_lt_succ below⟩
    · rintro ⟨placed, same, above⟩
      cases same
      exact Nat.lt_succ_of_le above
  | _ => simp [labelBound]

namespace Body

/-- The labels that an addition to a body may mention: those that the given instructions mention, and those
taken from the supply. -/
def knownLabels (given : List Instruction) (issued : List Label) : List Label :=
  given.flatMap Instruction.labels ++ issued

/-- A body that has grown from given instructions, together with the labels taken from its supply in
their order. Each addition mentions only labels that are known by then. -/
inductive Grown (given : List Instruction) : Body → List Label → Prop where
  | start : Grown given (.ofList given) []
  | push {body : Body} {issued : List Label} {instruction : Instruction}
      (grown : Grown given body issued) (known : instruction.labels ⊆ knownLabels given issued) :
      Grown given (body.push instruction) issued
  | newLabel {body : Body} {issued : List Label} (grown : Grown given body issued) :
      Grown given body.newLabel.2 (issued ++ [body.newLabel.1])

/-- Instructions that refer to no label above all labels that they place. -/
def LabelsCovered (given : List Instruction) : Prop :=
  ∀ label ∈ given.flatMap Instruction.labels,
    ∃ placed, Instruction.mark placed ∈ given ∧ label.index ≤ placed.index

theorem lt_foldl_labelBound_iff {index bound : Nat} (given : List Instruction) :
    index < given.foldl (fun bound instruction => max bound instruction.labelBound) bound ↔
      index < bound ∨ ∃ placed, Instruction.mark placed ∈ given ∧ index ≤ placed.index := by
  induction given generalizing bound with
  | nil => simp
  | cons instruction rest inductionHypothesis =>
    rw [List.foldl_cons, inductionHypothesis, lt_max_iff, instruction.lt_labelBound_iff, or_assoc]
    simp only [List.mem_cons, or_and_right, exists_or, eq_comm]

/-- The supply starts above the labels that are placed, and above no others. -/
theorem lt_nextLabel_ofList_iff {index : Nat} (given : List Instruction) :
    index < (ofList given).nextLabel ↔
      ∃ placed, Instruction.mark placed ∈ given ∧ index ≤ placed.index := by
  rw [ofList, lt_foldl_labelBound_iff]
  simp

/-- What is known of the labels of a body: those taken lie below the supply, which only goes up, and no
instruction mentions others than known ones. -/
structure Accounts (given : List Instruction) (body : Body) (issued : List Label) : Prop where
  issued_lt : ∀ label ∈ issued, label.index < body.nextLabel
  supply_le : (ofList given).nextLabel ≤ body.nextLabel
  mentioned : ∀ instruction ∈ body.instructions, instruction.labels ⊆ knownLabels given issued

namespace Accounts

variable {given : List Instruction} {body : Body} {issued : List Label}

theorem start (given : List Instruction) : Accounts given (ofList given) [] where
  issued_lt := by simp
  supply_le := Nat.le_refl _
  mentioned := by
    intro instruction present label mentions
    have within : instruction ∈ given := by simpa [ofList] using present
    exact List.mem_append_left _ (List.mem_flatMap.mpr ⟨instruction, within, mentions⟩)

theorem push (accounts : Accounts given body issued) {added : Instruction}
    (known : added.labels ⊆ knownLabels given issued) :
    Accounts given (body.push added) issued where
  issued_lt := accounts.issued_lt
  supply_le := accounts.supply_le
  mentioned := by
    intro instruction present
    rcases Array.mem_push.mp present with earlier | rfl
    · exact accounts.mentioned instruction earlier
    · exact known

theorem newLabel (accounts : Accounts given body issued) :
    Accounts given body.newLabel.2 (issued ++ [body.newLabel.1]) where
  issued_lt := by
    intro label taken
    rcases List.mem_append.mp taken with earlier | last
    · exact Nat.lt_succ_of_lt (accounts.issued_lt label earlier)
    · cases List.mem_singleton.mp last
      exact Nat.lt_succ_self body.nextLabel
  supply_le := Nat.le_succ_of_le accounts.supply_le
  mentioned := by
    intro instruction present label mentions
    have known := accounts.mentioned instruction present mentions
    rw [knownLabels, ← List.append_assoc]
    exact List.mem_append_left _ known

/-- The next label was not taken before. -/
theorem newLabel_notMem (accounts : Accounts given body issued) : body.newLabel.1 ∉ issued :=
  fun taken => Nat.lt_irrefl _ (accounts.issued_lt _ taken)

/-- The next label is mentioned nowhere if the supply started above all given labels. -/
theorem newLabel_notMem_labels (accounts : Accounts given body issued)
    (covered : LabelsCovered given) {instruction : Instruction}
    (present : instruction ∈ body.instructions) : body.newLabel.1 ∉ instruction.labels := by
  intro mentions
  rcases List.mem_append.mp (accounts.mentioned instruction present mentions) with known | taken
  · have below := (lt_nextLabel_ofList_iff given).mpr (covered _ known)
    exact Nat.lt_irrefl _ (Nat.lt_of_lt_of_le below accounts.supply_le)
  · exact accounts.newLabel_notMem taken

end Accounts

namespace Grown

variable {given : List Instruction}

/-- However a body has grown, its labels are accounted for. -/
theorem accounts {body : Body} {issued : List Label} (grown : Grown given body issued) :
    Accounts given body issued := by
  induction grown with
  | start => exact .start given
  | push _ known inductionHypothesis => exact inductionHypothesis.push known
  | newLabel _ inductionHypothesis => exact inductionHypothesis.newLabel

/-- Labels can be taken from the supply until any later one is the next. -/
theorem exists_nextLabel_eq (given : List Instruction) {index : Nat}
    (later : (ofList given).nextLabel ≤ index) :
    ∃ issued, Grown given ⟨given.toArray, index⟩ issued := by
  induction index, later using Nat.le_induction with
  | base => exact ⟨[], .start⟩
  | succ index _ inductionHypothesis =>
    obtain ⟨issued, grown⟩ := inductionHypothesis
    exact ⟨_, grown.newLabel⟩

end Grown

/-- A new label was never taken before. It is mentioned by no instruction, however the body has grown,
exactly if the instructions from which it grew refer to no label above all those that they place. -/
theorem newLabel_new_iff (given : List Instruction) :
    (∀ body issued, Grown given body issued → body.newLabel.1 ∉ issued) ∧
    ((∀ body issued, Grown given body issued →
        ∀ instruction ∈ body.instructions, body.newLabel.1 ∉ instruction.labels) ↔
      LabelsCovered given) := by
  refine ⟨fun body issued grown => grown.accounts.newLabel_notMem, ?_, ?_⟩
  · intro new label mentioned
    rw [← lt_nextLabel_ofList_iff]
    by_contra above
    -- Once all labels below it are taken, the next one is the label that is only referred to.
    obtain ⟨issued, grown⟩ := Grown.exists_nextLabel_eq given (Nat.le_of_not_lt above)
    obtain ⟨instruction, present, mentions⟩ := List.mem_flatMap.mp mentioned
    exact new _ issued grown instruction (by simpa using present) mentions
  · intro covered body issued grown instruction present
    exact grown.accounts.newLabel_notMem_labels covered present

/-- Instructions that place one label and refer to a lower one that they do not place, and a switch between
a label taken from the supply and a given one: the next label is new. -/
theorem newLabel_new_iff_switch :
    let given : List Instruction := [.mark ⟨3⟩, .line 7 ⟨1⟩, .jump .goto ⟨3⟩]
    let body := (ofList given).newLabel.2.push (.lookupSwitch ⟨4⟩ [0] [⟨3⟩])
    LabelsCovered given ∧ Grown given body [⟨4⟩] ∧ body.newLabel.1 = ⟨5⟩ ∧
      body.newLabel.1 ∉ [⟨4⟩] ∧
      ∀ instruction ∈ body.instructions, body.newLabel.1 ∉ instruction.labels := by
  intro given body
  have below : ∀ label ∈ given.flatMap Instruction.labels, label.index ≤ 3 := by decide
  have covered : LabelsCovered given := fun label mentioned =>
    ⟨⟨3⟩, List.mem_cons_self, below label mentioned⟩
  have grown : Grown given body [⟨4⟩] := .push (.newLabel .start) (by decide)
  obtain ⟨notTaken, new_iff⟩ := newLabel_new_iff given
  exact ⟨covered, grown, rfl, notTaken body _ grown, new_iff.mpr covered body _ grown⟩

/-- A jump to a label that is not placed with it: the first label from the supply is its target. -/
theorem newLabel_target_of_jump :
    let given : List Instruction := [.jump .goto ⟨0⟩]
    Grown given (.ofList given) [] ∧ (ofList given).newLabel.1 = ⟨0⟩ ∧
      ∃ instruction ∈ (ofList given).instructions,
        (ofList given).newLabel.1 ∈ instruction.labels := by
  intro given
  refine ⟨.start, rfl, .jump .goto ⟨0⟩, ?_, ?_⟩
  · simp [ofList, given]
  · decide

end Body

end ConstProp
