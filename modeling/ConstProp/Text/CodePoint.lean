/-!
# Code points

The characters among the natural numbers. Surrogates and numbers above the last plane are codes of no
character.

Main statement: a number is the code of at most one character, and every character has a code
(`ofCode?_eq_some_iff`).
-/

namespace ConstProp.Text

/-- The character with a given code. -/
def ofCode? (code : Nat) : Option Char :=
  if code.isValidChar then some (Char.ofNat code) else none

theorem ofCode?_eq_some_iff {code : Nat} {char : Char} :
    ofCode? code = some char ↔ char.toNat = code := by
  constructor
  · intro found
    simp only [ofCode?] at found
    split at found
    case isTrue valid =>
      cases Option.some.inj found
      rw [Char.ofNat, dif_pos valid]
      rfl
    case isFalse => simp at found
  · rintro rfl
    have valid : char.toNat.isValidChar := char.valid
    simp [ofCode?, valid, Char.ofNat_toNat]

@[simp] theorem ofCode?_toNat (char : Char) : ofCode? char.toNat = some char :=
  ofCode?_eq_some_iff.mpr rfl

end ConstProp.Text
