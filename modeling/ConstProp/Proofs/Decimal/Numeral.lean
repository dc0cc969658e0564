import ConstProp.Decimal.Integer
import Mathlib.Data.List.Basic
import Mathlib.Data.List.Induction
import Mathlib.Data.Nat.Digits.Defs

/-!
# Numerals

The texts that stand for integers: one or more decimal digits, with or without a sign in front. They are
exactly the texts that are read as integers (`Numeral.read?_eq_some_iff`), and among the numerals of an
integer the written one is that without a plus sign, needless zeros and a minus sign in front of zero
(`Numeral.write_value_eq_write_iff`).
-/

namespace ConstProp.Decimal

/-- What can stand in front of the digits. -/
inductive Sign where
  | plus | minus
  deriving DecidableEq, Repr

/-- The character of a sign. -/
def Sign.char : Sign → Char
  | .plus => '+'
  | .minus => '-'

/-- The characters of digits. -/
def writeDigits (digits : List (Fin 10)) : List Char :=
  digits.map fun digit : Fin 10 => Nat.digitChar digit

/-- The number that digits stand for; the last one counts once, and each of the others ten times as much as
the one behind it. -/
def magnitude (digits : List (Fin 10)) : Nat :=
  Nat.ofDigits 10 (digits.reverse.map Fin.val)

/-- Digits, at least one of them, with or without a sign in front. -/
structure Numeral where
  sign : Option Sign
  digits : List (Fin 10)
  digits_ne_nil : digits ≠ []
  deriving DecidableEq

namespace Numeral

/-- The text of a numeral. -/
def write (numeral : Numeral) : List Char :=
  (numeral.sign.map Sign.char).toList ++ writeDigits numeral.digits

/-- The integer that a numeral stands for. -/
def value (numeral : Numeral) : Int :=
  match numeral.sign with
  | some .minus => -(magnitude numeral.digits : Int)
  | some .plus | none => magnitude numeral.digits

/-- A numeral without anything that could be left out. -/
structure IsCanonical (numeral : Numeral) : Prop where
  sign_ne_plus : numeral.sign ≠ some .plus
  /-- A zero in front of other digits can be left out. -/
  eq_nil_of_zero_cons : ∀ rest, numeral.digits = 0 :: rest → rest = []
  digits_ne_zero_of_minus : numeral.sign = some .minus → numeral.digits ≠ [0]

end Numeral

section Digits

@[simp] theorem writeDigits_concat (digits : List (Fin 10)) (last : Fin 10) :
    writeDigits (digits ++ [last]) = writeDigits digits ++ [Nat.digitChar last] := by
  simp [writeDigits]

@[simp] theorem magnitude_concat (digits : List (Fin 10)) (last : Fin 10) :
    magnitude (digits ++ [last]) = 10 * magnitude digits + last := by
  simp [magnitude, Nat.ofDigits_cons, Nat.add_comm]

theorem magnitude_lt (digits : List (Fin 10)) : magnitude digits < 10 ^ digits.length := by
  induction digits using List.reverseRecOn with
  | nil => decide
  | append_singleton digits last inductionHypothesis =>
    rw [magnitude_concat, List.length_append, List.length_singleton, pow_succ]
    omega

/-- A zero in front does not count. -/
theorem magnitude_zero_cons (digits : List (Fin 10)) : magnitude (0 :: digits) = magnitude digits := by
  simp [magnitude, Nat.ofDigits_append]

/-- Different digits have different characters. -/
theorem writeDigits_injective : Function.Injective writeDigits := by
  have apart : ∀ first second : Fin 10,
      Nat.digitChar first = Nat.digitChar second → first = second := by decide
  exact List.map_injective_iff.mpr fun first second => apart first second

/-- The characters of digits are read back. -/
theorem ofDigitChars_writeDigits (digits : List (Fin 10)) :
    Nat.ofDigitChars 10 (writeDigits digits) 0 = magnitude digits := by
  induction digits using List.reverseRecOn with
  | nil => rfl
  | append_singleton digits last inductionHypothesis =>
    rw [writeDigits_concat, Nat.ofDigitChars_append, inductionHypothesis, magnitude_concat,
      Nat.ofDigitChars_cons_digitChar_of_lt_ten last.isLt, Nat.ofDigitChars_nil]

theorem isDigit_of_mem_writeDigits {digits : List (Fin 10)} {char : Char}
    (member : char ∈ writeDigits digits) : char.isDigit = true := by
  obtain ⟨digit, _, rfl⟩ := List.mem_map.mp member
  rw [Nat.isDigit_digitChar]
  simp

/-- A text of digit characters is that of some digits. -/
theorem exists_writeDigits_eq {text : List Char} (all : ∀ char ∈ text, char.isDigit = true) :
    ∃ digits, writeDigits digits = text := by
  induction text with
  | nil => exact ⟨[], rfl⟩
  | cons first rest inductionHypothesis =>
    obtain ⟨digits, rfl⟩ := inductionHypothesis fun char member =>
      all char (List.mem_cons_of_mem first member)
    have bounds : 48 ≤ first.toNat ∧ first.toNat ≤ 57 := by
      simpa [Char.isDigit, UInt32.le_iff_toNat_le] using all first List.mem_cons_self
    have small : first.toNat - 48 < 10 := by omega
    have same : Nat.digitChar (first.toNat - 48) = first := by
      apply Char.toNat_inj.mp
      rw [Nat.toNat_digitChar_of_lt_ten small]
      omega
    exact ⟨⟨first.toNat - 48, small⟩ :: digits, congrArg (· :: writeDigits digits) same⟩

/-- A sign is no digit. -/
theorem sign_notMem_writeDigits (sign : Sign) (digits : List (Fin 10)) :
    sign.char ∉ writeDigits digits := by
  intro member
  have digit := isDigit_of_mem_writeDigits member
  cases sign <;> exact absurd digit (by decide)

/-- One or more digit characters are read as the number that their digits stand for, and no other text is
read. -/
theorem readNat?_eq_some_iff {text : List Char} {value : Nat} :
    readNat? text = some value ↔
      ∃ digits, digits ≠ [] ∧ writeDigits digits = text ∧ magnitude digits = value := by
  unfold readNat?
  constructor
  · intro read
    split at read
    case isTrue digitText =>
      obtain ⟨digits, rfl⟩ := exists_writeDigits_eq (List.all_eq_true.mp digitText.2)
      rw [ofDigitChars_writeDigits, Option.some.injEq] at read
      refine ⟨digits, ?_, rfl, read⟩
      rintro rfl
      exact digitText.1 rfl
    case isFalse => cases read
  · rintro ⟨digits, present, rfl, rfl⟩
    have nonempty : writeDigits digits ≠ [] := by simpa [writeDigits] using present
    have all : (writeDigits digits).all Char.isDigit = true :=
      List.all_eq_true.mpr fun _ member => isDigit_of_mem_writeDigits member
    rw [if_pos ⟨nonempty, all⟩, ofDigitChars_writeDigits]

theorem exists_digits_of_ne_none {text : List Char} (read : readNat? text ≠ none) :
    ∃ digits, digits ≠ [] ∧ writeDigits digits = text := by
  obtain ⟨value, found⟩ := Option.ne_none_iff_exists'.mp read
  obtain ⟨digits, present, written, _⟩ := readNat?_eq_some_iff.mp found
  exact ⟨digits, present, written⟩

/-- Digits without a zero in front are those in which their number is written. -/
theorem toDigits_magnitude_of_head_ne_zero {digits : List (Fin 10)} (present : digits ≠ [])
    (leading : digits.head? ≠ some 0) : Nat.toDigits 10 (magnitude digits) = writeDigits digits := by
  induction digits using List.reverseRecOn with
  | nil => exact absurd rfl present
  | append_singleton digits last inductionHypothesis =>
    rw [magnitude_concat, writeDigits_concat]
    by_cases first : digits = []
    · subst first
      have single : 10 * magnitude [] + last.val = last.val := by simp [magnitude]
      rw [single, Nat.toDigits_of_lt_base last.isLt]
      rfl
    · have leadingBefore : digits.head? ≠ some 0 := by
        rwa [List.head?_append_of_ne_nil _ first] at leading
      have written := inductionHypothesis first leadingBefore
      have positive : 0 < magnitude digits := by
        refine Nat.pos_of_ne_zero fun zero => leadingBefore ?_
        have single : writeDigits [0] = writeDigits digits := by rw [← written, zero]; rfl
        rw [← writeDigits_injective single]
        rfl
      rw [← written, ← Nat.toDigits_append_toDigits (by decide) positive last.isLt,
        Nat.toDigits_of_lt_base last.isLt]

/-- The digits in which a number is written are those without a needless zero in front. -/
theorem toDigits_magnitude_iff {digits : List (Fin 10)} (present : digits ≠ []) :
    Nat.toDigits 10 (magnitude digits) = writeDigits digits ↔
      ∀ rest, digits = 0 :: rest → rest = [] := by
  constructor
  · rintro written rest rfl
    by_contra more
    have fewer : (Nat.toDigits 10 (magnitude (0 :: rest))).length ≤ rest.length := by
      rw [magnitude_zero_cons]
      exact Nat.toDigits_length 10 _ _ (List.length_pos_iff.mpr more) (magnitude_lt rest)
    rw [written, writeDigits, List.length_map, List.length_cons] at fewer
    omega
  · intro needless
    by_cases leading : digits.head? = some 0
    · obtain ⟨rest, rfl⟩ := List.head?_eq_some_iff.mp leading
      rw [needless rest rfl]
      rfl
    · exact toDigits_magnitude_of_head_ne_zero present leading

end Digits

namespace Numeral

@[simp] theorem write_unsigned (digits : List (Fin 10)) (present : digits ≠ []) :
    write ⟨none, digits, present⟩ = writeDigits digits :=
  rfl

@[simp] theorem write_signed (sign : Sign) (digits : List (Fin 10)) (present : digits ≠ []) :
    write ⟨some sign, digits, present⟩ = sign.char :: writeDigits digits :=
  rfl

/-- A text is that of at most one numeral. -/
theorem write_inj {first second : Numeral} (same : first.write = second.write) : first = second := by
  rcases first with ⟨_ | sign, firstDigits, firstPresent⟩ <;>
    rcases second with ⟨_ | other, secondDigits, secondPresent⟩ <;>
    simp only [write_unsigned, write_signed] at same
  · cases writeDigits_injective same
    rfl
  · exact absurd (same ▸ List.mem_cons_self) (sign_notMem_writeDigits other firstDigits)
  · exact absurd (same ▸ List.mem_cons_self) (sign_notMem_writeDigits sign secondDigits)
  · obtain ⟨chars, digits⟩ := List.cons.inj same
    cases writeDigits_injective digits
    cases sign <;> cases other <;> first | rfl | cases chars

/-- A numeral is read as the integer that it stands for. -/
theorem read?_write (numeral : Numeral) : read? numeral.write = some numeral.value := by
  rcases numeral with ⟨sign, digits, present⟩
  have read : readNat? (writeDigits digits) = some (magnitude digits) :=
    readNat?_eq_some_iff.mpr ⟨digits, present, rfl, rfl⟩
  rcases sign with _ | _ | _
  case none =>
    cases shape : writeDigits digits with
    | nil => exact absurd (List.map_eq_nil_iff.mp shape) present
    | cons first rest =>
      have unsigned : ∀ sign : Sign, first ≠ sign.char := by
        rintro sign rfl
        exact sign_notMem_writeDigits sign digits (shape ▸ List.mem_cons_self)
      rw [write_unsigned, shape, read?_of_unsigned (unsigned .minus) (unsigned .plus), ← shape, read]
      rfl
  case some.plus => rw [write_signed, Sign.char, read?, read]; rfl
  case some.minus => rw [write_signed, Sign.char, read?, read]; rfl

/-- What is read as an integer is read as digits behind the sign. -/
theorem exists_sign_of_read?_ne_none {text : List Char} (read : read? text ≠ none) :
    ∃ (sign : Option Sign) (rest : List Char),
      text = (sign.map Sign.char).toList ++ rest ∧ readNat? rest ≠ none := by
  unfold read? at read
  split at read
  case h_1 rest => exact ⟨some .minus, rest, rfl, fun refused => read (by rw [refused]; rfl)⟩
  case h_2 rest => exact ⟨some .plus, rest, rfl, fun refused => read (by rw [refused]; rfl)⟩
  case h_3 => exact ⟨none, text, rfl, fun refused => read (by rw [refused]; rfl)⟩

/-- Exactly the texts of numerals are read as integers. -/
theorem read?_eq_some_iff {text : List Char} {value : Int} :
    read? text = some value ↔ ∃ numeral : Numeral, numeral.write = text ∧ numeral.value = value := by
  constructor
  · intro read
    obtain ⟨sign, rest, rfl, readRest⟩ := exists_sign_of_read?_ne_none (by rw [read]; simp)
    obtain ⟨digits, present, rfl⟩ := exists_digits_of_ne_none readRest
    let numeral : Numeral := ⟨sign, digits, present⟩
    exact ⟨numeral, rfl, Option.some.inj (numeral.read?_write.symm.trans read)⟩
  · rintro ⟨numeral, rfl, rfl⟩
    exact numeral.read?_write

/-- A text is read as a 32-bit integer if it is that of a numeral of the integer. -/
theorem readInt32?_eq_some_iff {text : List Char} {value : Int32} :
    readInt32? text = some value ↔
      ∃ numeral : Numeral, numeral.write = text ∧ numeral.value = value.toInt := by
  rw [← read?_eq_some_iff]
  unfold readInt32?
  constructor
  · intro read
    split at read
    case h_1 whole found =>
      split at read
      case isTrue inRange =>
        have below : whole < 2 ^ 31 := Int.lt_of_le_of_lt inRange.2 (by decide)
        rw [found, ← Option.some.inj read, Int32.toInt_ofInt_of_le inRange.1 below]
      case isFalse => cases read
    case h_2 => cases read
  · intro read
    have inRange := And.intro value.minValue_le_toInt value.toInt_le
    simp only [read, inRange, and_self, if_true, Int32.ofInt_toInt]

/-- A numeral is what is written for its integer exactly if it is canonical. -/
theorem write_value_eq_write_iff (numeral : Numeral) :
    Decimal.write numeral.value = numeral.write ↔ numeral.IsCanonical := by
  rcases numeral with ⟨sign, digits, present⟩
  have written := toDigits_magnitude_iff present
  rcases sign with _ | _ | _
  case none =>
    show Nat.toDigits 10 (magnitude digits) = writeDigits digits ↔ _
    rw [written]
    constructor
    · intro needless
      exact ⟨by simp, needless, by simp⟩
    · intro canonical
      exact canonical.eq_nil_of_zero_cons
  case some.plus =>
    obtain ⟨first, rest, shape, _, plus⟩ := toDigits_eq_cons (magnitude digits)
    constructor
    · intro same
      exact absurd (List.cons.inj (shape.symm.trans same)).1 plus
    · intro canonical
      exact absurd rfl canonical.sign_ne_plus
  case some.minus =>
    show Decimal.write (-(magnitude digits : Int)) = '-' :: writeDigits digits ↔ _
    cases size : magnitude digits with
    | zero =>
      constructor
      · intro same
        cases (List.cons.inj same).1
      · intro canonical
        have zero : writeDigits [0] = writeDigits digits := by
          rw [← written.mpr canonical.eq_nil_of_zero_cons, size]
          rfl
        exact absurd (writeDigits_injective zero).symm (canonical.digits_ne_zero_of_minus rfl)
    | succ below =>
      show '-' :: Nat.toDigits 10 (below + 1) = '-' :: writeDigits digits ↔ _
      rw [List.cons_inj_right, ← size, written]
      constructor
      · intro needless
        refine ⟨by simp, needless, ?_⟩
        rintro _ rfl
        cases size
      · intro canonical
        exact canonical.eq_nil_of_zero_cons

end Numeral

end ConstProp.Decimal
