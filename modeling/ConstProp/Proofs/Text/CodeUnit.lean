import ConstProp.Text.CodePoint
import ConstProp.Text.CodeUnit
import Mathlib.Algebra.BigOperators.Fin
import Mathlib.Data.Int.ModEq
import Mathlib.Tactic.Ring

/-!
# Sequences of code units

The code units of a text are its encoding in UTF-16, given here as a relation (`Encodes`) apart from the
function that computes it. An encoded character can be told from whatever follows it, so no two texts have
the same code units (`units_injective`). The polynomial hash of a sequence of units is a sum of powers of 31
modulo the number of 32-bit integers (`toInt_unitsHash`), which gives the hash of a concatenation.
-/

namespace ConstProp.Text

/-- The encodings of a character: the unit of its code, which is no surrogate, or a high and a low surrogate
that hold ten bits each of how far its code is beyond the first plane. -/
inductive Encodes (char : Char) : List UInt16 → Prop where
  | unit (unit : UInt16) (noSurrogate : unit.toNat < 0xd800 ∨ 0xe000 ≤ unit.toNat)
      (code : char.toNat = unit.toNat) : Encodes char [unit]
  | pair (high low : UInt16) (highFrom : 0xd800 ≤ high.toNat) (highTo : high.toNat < 0xdc00)
      (lowFrom : 0xdc00 ≤ low.toNat) (lowTo : low.toNat < 0xe000)
      (code : char.toNat = 0x10000 + (high.toNat - 0xd800) * 0x400 + (low.toNat - 0xdc00)) :
      Encodes char [high, low]

/-- The code of a character is no surrogate and in one of the seventeen planes. -/
theorem toNat_range (char : Char) :
    char.toNat < 0xd800 ∨ 0xe000 ≤ char.toNat ∧ char.toNat < 0x110000 := by
  have valid : char.toNat.isValidChar := char.valid
  unfold Nat.isValidChar at valid
  omega

theorem encodes_charUnits (char : Char) : Encodes char (charUnits char) := by
  have range := toNat_range char
  unfold charUnits
  split
  case isTrue firstPlane =>
    have code : char.toNat.toUInt16.toNat = char.toNat := UInt16.toNat_ofNat_of_lt' firstPlane
    exact .unit _ (by omega) code.symm
  case isFalse beyond =>
    have high : (0xd800 + (char.toNat - 0x10000) / 0x400).toUInt16.toNat =
        0xd800 + (char.toNat - 0x10000) / 0x400 :=
      UInt16.toNat_ofNat_of_lt' (by simp only [UInt16.size]; omega)
    have low : (0xdc00 + (char.toNat - 0x10000) % 0x400).toUInt16.toNat =
        0xdc00 + (char.toNat - 0x10000) % 0x400 :=
      UInt16.toNat_ofNat_of_lt' (by simp only [UInt16.size]; omega)
    exact .pair _ _ (by omega) (by omega) (by omega) (by omega) (by omega)

/-- What an encoded character is followed by does not matter to what it is. -/
theorem Encodes.eq_of_append {first second : Char} {left right leftRest rightRest : List UInt16}
    (leftEncodes : Encodes first left) (rightEncodes : Encodes second right)
    (same : left ++ leftRest = right ++ rightRest) :
    first = second ∧ left = right ∧ leftRest = rightRest := by
  -- The first unit tells whether there is a second one, as only high surrogates have one.
  cases leftEncodes with
  | unit unit noSurrogate code =>
    cases rightEncodes with
    | unit unit' _ code' =>
      obtain ⟨rfl, rfl⟩ := List.cons.inj same
      exact ⟨Char.toNat_inj.mp (code.trans code'.symm), rfl, rfl⟩
    | pair high low =>
      obtain ⟨rfl, _⟩ := List.cons.inj same
      omega
  | pair high low _ _ _ _ code =>
    cases rightEncodes with
    | unit =>
      obtain ⟨rfl, _⟩ := List.cons.inj same
      omega
    | pair high' low' _ _ _ _ code' =>
      obtain ⟨rfl, rest⟩ := List.cons.inj same
      obtain ⟨rfl, rfl⟩ := List.cons.inj rest
      exact ⟨Char.toNat_inj.mp (code.trans code'.symm), rfl, rfl⟩

/-- A character has no two encodings. -/
theorem Encodes.unique {char : Char} {left right : List UInt16} (leftEncodes : Encodes char left)
    (rightEncodes : Encodes char right) : left = right := by
  cases leftEncodes with
  | unit unit _ code =>
    have firstPlane := unit.toNat_lt
    cases rightEncodes with
    | unit unit' _ code' => rw [UInt16.toNat_inj.mp (code.symm.trans code')]
    | pair => omega
  | pair high low =>
    cases rightEncodes with
    | unit unit' =>
      have firstPlane := unit'.toNat_lt
      omega
    | pair high' low' =>
      have sameHigh : high = high' := UInt16.toNat_inj.mp (by omega)
      have sameLow : low = low' := UInt16.toNat_inj.mp (by omega)
      rw [sameHigh, sameLow]

/-- The code units of a character are its encoding. -/
theorem encodes_iff {char : Char} {encoding : List UInt16} :
    Encodes char encoding ↔ encoding = charUnits char := by
  constructor
  · intro encodes
    exact encodes.unique (encodes_charUnits char)
  · rintro rfl
    exact encodes_charUnits char

theorem charUnits_ne_nil (char : Char) : charUnits char ≠ [] := by
  intro empty
  have encodes := encodes_charUnits char
  rw [empty] at encodes
  cases encodes

/-- A code that is a whole code unit: of the first plane, and no surrogate. -/
def IsWholeUnit (code : Int) : Prop :=
  0 ≤ code ∧ code < 0x10000 ∧ ¬ (0xd800 ≤ code ∧ code < 0xe000)

instance (code : Int) : Decidable (IsWholeUnit code) :=
  inferInstanceAs (Decidable (_ ∧ _ ∧ _))

/-- A character is encoded by one unit exactly if its code is a whole unit. -/
theorem encodes_singleton_iff {char : Char} {unit : UInt16} :
    Encodes char [unit] ↔ IsWholeUnit char.toNat ∧ unit.toNat = char.toNat := by
  have range := toNat_range char
  unfold IsWholeUnit
  constructor
  · rintro (⟨_, noSurrogate, code⟩ | _)
    have bounded := unit.toNat_lt
    omega
  · rintro ⟨_, same⟩
    exact .unit unit (by omega) same.symm

/-- A code that is a whole unit is the code of a character with this unit. -/
theorem exists_encodes_of_isWholeUnit {code : Nat} (whole : IsWholeUnit code) :
    ∃ char, Encodes char [code.toUInt16] := by
  unfold IsWholeUnit at whole
  have valid : code.isValidChar := by
    unfold Nat.isValidChar
    omega
  have found : ofCode? code = some (.ofNat code) := if_pos valid
  have exact : code.toUInt16.toNat = code :=
    UInt16.toNat_ofNat_of_lt' (by simp only [UInt16.size]; omega)
  refine ⟨.ofNat code, encodes_singleton_iff.mpr ?_⟩
  rw [exact, ofCode?_eq_some_iff.mp found]
  exact ⟨whole, rfl⟩

/-- A character is one unit or two, and one exactly if its code is a whole unit. -/
theorem length_charUnits (char : Char) :
    (charUnits char).length = if IsWholeUnit char.toNat then 1 else 2 := by
  have encodes := encodes_charUnits char
  generalize charUnits char = encoding at encodes
  cases encodes with
  | unit unit noSurrogate code =>
    have whole := (encodes_singleton_iff.mp (.unit unit noSurrogate code)).1
    simp [whole]
  | pair high low _ _ _ _ code =>
    have apart : ¬ IsWholeUnit char.toNat := by
      unfold IsWholeUnit
      omega
    simp [apart]

/-- No two texts have the same code units. -/
theorem units_injective : Function.Injective units := by
  intro first
  induction first with
  | nil =>
    intro second same
    cases second with
    | nil => rfl
    | cons char rest => exact absurd same.symm (by simp [charUnits_ne_nil])
  | cons char rest inductionHypothesis =>
    intro second same
    cases second with
    | nil => exact absurd same (by simp [charUnits_ne_nil])
    | cons char' rest' =>
      rw [units_cons, units_cons] at same
      obtain ⟨rfl, _, others⟩ := (encodes_charUnits char).eq_of_append (encodes_charUnits char') same
      rw [inductionHypothesis others]

/-- The sum of the units, each times the power of 31 that counts the units after it. -/
def hashSum (units : List UInt16) : Int :=
  ∑ index : Fin units.length, (units[index].toNat : Int) * 31 ^ (units.length - 1 - index)

theorem hashSum_cons (unit : UInt16) (rest : List UInt16) :
    hashSum (unit :: rest) = unit.toNat * 31 ^ rest.length + hashSum rest := by
  simp [hashSum, Fin.sum_univ_succ, Nat.sub_sub, Nat.add_comm]

theorem hashSum_append (first second : List UInt16) :
    hashSum (first ++ second) = hashSum first * 31 ^ second.length + hashSum second := by
  induction first with
  | nil => simp [hashSum]
  | cons unit rest inductionHypothesis =>
    rw [List.cons_append, hashSum_cons, hashSum_cons, inductionHypothesis, List.length_append, pow_add]
    ring

/-- One step of the hash multiplies and adds, up to wrapping. -/
theorem toInt_hashStep (hash : Int32) (unit : UInt16) :
    (hashStep hash unit).toInt ≡ hash.toInt * 31 + unit.toNat [ZMOD 2 ^ 32] := by
  have small : (Int32.ofNat unit.toNat).toInt = unit.toNat :=
    Int32.toInt_ofNat_of_lt (by have := unit.toNat_lt; omega)
  have wraps : (hashStep hash unit).toInt = (hash.toInt * 31 + unit.toNat).bmod (2 ^ 32) := by
    rw [hashStep, Int32.toInt_add, Int32.toInt_mul, small, Int.bmod_add_bmod, Int.mul_comm]
    rfl
  rw [wraps]
  exact Int.bmod_emod

/-- The hash from any start is the start shifted beyond the units, plus their sum, up to wrapping. -/
theorem toInt_foldl_hashStep (hash : Int32) (units : List UInt16) :
    (units.foldl hashStep hash).toInt ≡
      hash.toInt * 31 ^ units.length + hashSum units [ZMOD 2 ^ 32] := by
  induction units generalizing hash with
  | nil => simp [hashSum]
  | cons unit rest inductionHypothesis =>
    calc ((unit :: rest).foldl hashStep hash).toInt
      _ ≡ (hashStep hash unit).toInt * 31 ^ rest.length + hashSum rest [ZMOD 2 ^ 32] :=
        inductionHypothesis (hashStep hash unit)
      _ ≡ (hash.toInt * 31 + unit.toNat) * 31 ^ rest.length + hashSum rest [ZMOD 2 ^ 32] :=
        ((toInt_hashStep hash unit).mul_right _).add_right _
      _ = hash.toInt * 31 ^ (unit :: rest).length + hashSum (unit :: rest) := by
        rw [hashSum_cons, List.length_cons, pow_succ]
        ring

/-- The hash of a sequence of units is its sum up to wrapping. -/
theorem toInt_unitsHash (units : List UInt16) :
    (unitsHash units).toInt ≡ hashSum units [ZMOD 2 ^ 32] := by
  simpa [unitsHash] using toInt_foldl_hashStep 0 units

/-- The hash of a concatenation is that of its first part, shifted beyond the second, plus that of the
second, up to wrapping. -/
theorem toInt_unitsHash_append (first second : List UInt16) :
    (unitsHash (first ++ second)).toInt ≡
      (unitsHash first).toInt * 31 ^ second.length + (unitsHash second).toInt [ZMOD 2 ^ 32] := by
  have whole := toInt_unitsHash (first ++ second)
  rw [hashSum_append] at whole
  exact whole.trans
    (((toInt_unitsHash first).mul_right _).add (toInt_unitsHash second)).symm

end ConstProp.Text
