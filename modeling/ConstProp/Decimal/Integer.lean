/-!
# Decimal integers

Integers written in base ten: a minus sign for a negative number, then digits with no padding. The
reader accepts more than the writer produces: one sign of either kind, and leading zeros.

Main statements: the digits of a number read back to it (`readNat?_toDigits`), and so does a written
integer (`read?_write`).
-/

namespace ConstProp.Decimal

/-- The written form of an integer. -/
def write : Int → List Char
  | .ofNat magnitude => Nat.toDigits 10 magnitude
  | .negSucc below => '-' :: Nat.toDigits 10 (below + 1)

/-- Reads one or more decimal digits. -/
def readNat? (digits : List Char) : Option Nat :=
  if digits ≠ [] ∧ digits.all Char.isDigit then some (Nat.ofDigitChars 10 digits 0) else none

/-- Reads an optional sign followed by one or more decimal digits. -/
def read? : List Char → Option Int
  | '-' :: digits => (readNat? digits).map fun magnitude => -(magnitude : Int)
  | '+' :: digits => (readNat? digits).map fun magnitude => (magnitude : Int)
  | digits => (readNat? digits).map fun magnitude => (magnitude : Int)

/-- Reads an integer of the signed 32-bit range. -/
def readInt32? (text : List Char) : Option Int32 :=
  match read? text with
  | some value =>
    if Int32.minValue.toInt ≤ value ∧ value ≤ Int32.maxValue.toInt then some (Int32.ofInt value)
    else none
  | none => none

@[simp] theorem readNat?_toDigits (value : Nat) : readNat? (Nat.toDigits 10 value) = some value := by
  have digits : (Nat.toDigits 10 value).all Char.isDigit = true :=
    List.all_eq_true.mpr fun _ member =>
      Nat.isDigit_of_mem_toDigits (by decide) (by decide) member
  simp only [readNat?, digits, and_true, ne_eq, Nat.toDigits_ne_nil, not_false_eq_true, if_true,
    Nat.ofDigitChars_ten_toDigits]

/-- The digits of a number start with a digit, so with neither sign. -/
theorem toDigits_eq_cons (value : Nat) :
    ∃ first rest, Nat.toDigits 10 value = first :: rest ∧ first ≠ '-' ∧ first ≠ '+' := by
  cases shape : Nat.toDigits 10 value with
  | nil => exact absurd shape Nat.toDigits_ne_nil
  | cons first rest =>
    have digit : first.isDigit = true :=
      Nat.isDigit_of_mem_toDigits (b := 10) (n := value) (by decide) (by decide)
        (shape ▸ List.mem_cons_self)
    refine ⟨first, rest, rfl, ?_, ?_⟩ <;> rintro rfl <;> exact absurd digit (by decide)

/-- A text that starts with neither sign is read as digits. -/
theorem read?_of_unsigned {first : Char} {rest : List Char} (minus : first ≠ '-')
    (plus : first ≠ '+') :
    read? (first :: rest) = (readNat? (first :: rest)).map fun magnitude => (magnitude : Int) := by
  unfold read?
  split
  case h_1 shape => exact absurd (List.cons.inj shape).1 minus
  case h_2 shape => exact absurd (List.cons.inj shape).1 plus
  case h_3 => rfl

/-- A written integer is read back. -/
@[simp] theorem read?_write (value : Int) : read? (write value) = some value := by
  cases value with
  | ofNat magnitude =>
    obtain ⟨first, rest, shape, minus, plus⟩ := toDigits_eq_cons magnitude
    rw [write, shape, read?_of_unsigned minus plus, ← shape, readNat?_toDigits]
    rfl
  | negSucc below =>
    rw [write, read?, readNat?_toDigits]
    rfl

/-- A written 32-bit integer is read back. -/
@[simp] theorem readInt32?_write (value : Int32) : readInt32? (write value.toInt) = some value := by
  have inRange := And.intro value.minValue_le_toInt value.toInt_le
  simp only [readInt32?, read?_write, inRange, and_self, if_true, Int32.ofInt_toInt]

end ConstProp.Decimal
