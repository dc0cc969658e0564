import ConstProp.Proofs.Text.CodeUnit
import ConstProp.Text.CaseMapping

/-!
# Case mappings stay within a code unit

A case mapping gives one code unit for a character or nothing. It gives something only for the characters
of the first plane, and what it gives is the code of a character of the first plane again, so no code is cut
off and no surrogate arises (`CaseMapping.encodes_of_unit?`).
-/

namespace ConstProp.Text

/-- A run moves its ends to codes on one side of the surrogates in the first plane. -/
def CaseRun.KeepsPlane (run : CaseRun) : Prop :=
  0 ≤ run.first + run.shift ∧ run.last + run.shift < 0xd800 ∨
    0xe000 ≤ run.first + run.shift ∧ run.last + run.shift < 0x10000

instance (run : CaseRun) : Decidable run.KeepsPlane :=
  inferInstanceAs (Decidable (_ ∨ _))

theorem CaseRun.KeepsPlane.isWholeUnit_of_covers {run : CaseRun} (keeps : run.KeepsPlane) {code : Nat}
    (covers : run.covers code = true) : IsWholeUnit (code + run.shift) := by
  simp only [CaseRun.covers, Bool.and_eq_true, decide_eq_true_eq] at covers
  unfold CaseRun.KeepsPlane at keeps
  unfold IsWholeUnit
  omega

namespace CaseMapping

/-- Every run of a mapping keeps to the first plane. -/
def KeepsPlane (mapping : CaseMapping) : Prop :=
  ∀ run ∈ mapping.runs, run.KeepsPlane

theorem keepsPlane_upper : upper.KeepsPlane := by
  unfold KeepsPlane
  decide +kernel

theorem keepsPlane_lower : lower.KeepsPlane := by
  unfold KeepsPlane
  decide +kernel

variable {mapping : CaseMapping} (keeps : mapping.KeepsPlane)

include keeps

theorem isWholeUnit_image {code : Nat} (whole : IsWholeUnit code) :
    IsWholeUnit (mapping.image code) := by
  unfold image
  split
  case h_1 run found =>
    have covers : run.covers code = true := by simpa using List.find?_some found
    have moved := (keeps run (List.mem_of_find?_eq_some found)).isWholeUnit_of_covers covers
    rwa [Int.toNat_of_nonneg moved.1]
  case h_2 => exact whole

/-- Only a character of the first plane has a unit that it maps to, and that is a character again. -/
theorem encodes_of_unit? {char : Char} {unit : UInt16} (mapped : mapping.unit? char = some unit) :
    IsWholeUnit char.toNat ∧ ∃ image, Encodes image [unit] := by
  unfold unit? at mapped
  split at mapped
  case isTrue => cases mapped
  case isFalse inside =>
    have range := toNat_range char
    have whole : IsWholeUnit char.toNat := by
      simp only [Bool.or_eq_true, decide_eq_true_eq, not_or] at inside
      unfold IsWholeUnit
      omega
    cases Option.some.inj mapped
    exact ⟨whole, exists_encodes_of_isWholeUnit (isWholeUnit_image keeps whole)⟩

end CaseMapping

end ConstProp.Text
