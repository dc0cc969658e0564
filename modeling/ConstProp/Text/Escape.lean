import ConstProp.Text.CodePoint

/-!
# Escaped text

A form of text that uses printable ASCII characters alone, for writing arbitrary characters inside
quotes. Tabs, line ends, both quotes and the backslash are written as a backslash and one character,
other printable ASCII characters as themselves, and everything else as its braced hexadecimal code.

Main statements: an escaped text is printable (`isPrintable_of_mem_encode`), and undoing the escapes
gives the text back (`decode_encode`).
-/

namespace ConstProp.Text.Escape

/-- The printable ASCII characters. -/
def isPrintable (char : Char) : Bool :=
  0x20 ≤ char.toNat && char.toNat ≤ 0x7e

/-- The characters written as a backslash and one letter, each with its letter. -/
def shortEscapes : List (Char × Char) :=
  [('\t', 't'), ('\r', 'r'), ('\n', 'n'), ('\x27', '\x27'), ('\x22', '\x22'), ('\x5c', '\x5c')]

/-- The letter of a character's short escape. -/
def shortEscape? (char : Char) : Option Char :=
  (shortEscapes.find? fun pair => pair.1 = char).map (·.2)

/-- The character that a letter after a backslash stands for. -/
def shortValue? (letter : Char) : Option Char :=
  (shortEscapes.find? fun pair => pair.2 = letter).map (·.1)

theorem mem_shortEscapes {char letter : Char} (short : shortEscape? char = some letter) :
    (char, letter) ∈ shortEscapes := by
  obtain ⟨⟨first, second⟩, found, rfl⟩ := Option.map_eq_some_iff.mp short
  have same : first = char := by simpa using List.find?_some found
  exact same ▸ List.mem_of_find?_eq_some found

/-- The code of a character in lowercase hexadecimal digits, without padding. -/
def hexDigits (char : Char) : List Char :=
  Nat.toDigits 16 char.toNat

/-- The escaped form of one character. -/
def encodeChar (char : Char) : List Char :=
  match shortEscape? char with
  | some letter => ['\x5c', letter]
  | none =>
    if isPrintable char then [char]
    else '\x5c' :: 'u' :: '\x7b' :: (hexDigits char ++ ['\x7d'])

/-- The escaped form of a text. -/
def encode (text : List Char) : List Char :=
  text.flatMap encodeChar

@[simp] theorem encode_nil : encode [] = [] := rfl

@[simp] theorem encode_cons (char : Char) (text : List Char) :
    encode (char :: text) = encodeChar char ++ encode text := by
  simp [encode]

/-- The value of a lowercase hexadecimal digit. -/
def hexValue? (char : Char) : Option Nat :=
  if '0' ≤ char ∧ char ≤ '9' then some (char.toNat - '0'.toNat)
  else if 'a' ≤ char ∧ char ≤ 'f' then some (char.toNat - 'a'.toNat + 10)
  else none

/-- How far a reader has come into an escape. -/
inductive Progress where
  /-- Outside any escape. -/
  | plain
  /-- After a backslash. -/
  | backslash
  /-- After a backslash and `u`, before the brace. -/
  | brace
  /-- Inside the braces, with the value of the digits read. -/
  | digits (value : Nat)
  deriving DecidableEq, Repr

/-- Undoes the escapes of a text whose reading has come to a given point. -/
def decodeFrom : Progress → List Char → Option (List Char)
  | .plain, [] => some []
  | _, [] => none
  | .plain, char :: rest =>
    if char = '\x5c' then decodeFrom .backslash rest
    else (decodeFrom .plain rest).map (char :: ·)
  | .backslash, char :: rest =>
    if char = 'u' then decodeFrom .brace rest
    else
      match shortValue? char with
      | some value => (decodeFrom .plain rest).map (value :: ·)
      | none => none
  | .brace, char :: rest =>
    if char = '\x7b' then decodeFrom (.digits 0) rest else none
  | .digits value, char :: rest =>
    if char = '\x7d' then
      match ofCode? value with
      | some read => (decodeFrom .plain rest).map (read :: ·)
      | none => none
    else
      match hexValue? char with
      | some digit => decodeFrom (.digits (16 * value + digit)) rest
      | none => none

/-- Undoes the escapes of a text. -/
def decode (text : List Char) : Option (List Char) :=
  decodeFrom .plain text

theorem shortValue?_of_shortEscape? {char letter : Char} (short : shortEscape? char = some letter) :
    letter ≠ 'u' ∧ shortValue? letter = some char := by
  have each : ∀ pair ∈ shortEscapes, pair.2 ≠ 'u' ∧ shortValue? pair.2 = some pair.1 := by decide
  exact each _ (mem_shortEscapes short)

theorem ne_backslash_of_shortEscape?_eq_none {char : Char} (long : shortEscape? char = none) :
    char ≠ '\x5c' := by
  rintro rfl
  exact absurd long (by decide)

/-- The value of a digit is read off its character. -/
theorem hexValue?_digitChar {digit : Nat} (small : digit < 16) :
    hexValue? (Nat.digitChar digit) = some digit := by
  have each : ∀ digit : Fin 16, hexValue? (Nat.digitChar digit) = some digit.val := by decide
  exact each ⟨digit, small⟩

/-- A run of hexadecimal digits is read to its value. -/
theorem decodeFrom_toDigits (value : Nat) (rest : List Char) :
    decodeFrom (.digits 0) (Nat.toDigits 16 value ++ rest) = decodeFrom (.digits value) rest := by
  have inside : ∀ digit : Fin 16, Nat.digitChar digit ≠ '\x7d' := by decide
  induction value using Nat.strongRecOn generalizing rest with
  | ind value inductionHypothesis =>
    rw [Nat.toDigits_eq_if (by decide)]
    split
    case isTrue small =>
      simp [decodeFrom, inside ⟨value, small⟩, hexValue?_digitChar small]
    case isFalse large =>
      have small : value % 16 < 16 := Nat.mod_lt _ (by decide)
      have joined : 16 * (value / 16) + value % 16 = value := Nat.div_add_mod value 16
      rw [List.append_assoc, inductionHypothesis (value / 16) (by omega)]
      simp [decodeFrom, inside ⟨value % 16, small⟩, hexValue?_digitChar small, joined]

/-- One escaped character is read back, whatever follows it. -/
theorem decodeFrom_encodeChar (char : Char) (rest : List Char) :
    decodeFrom .plain (encodeChar char ++ rest) = (decodeFrom .plain rest).map (char :: ·) := by
  unfold encodeChar
  split
  case h_1 letter short =>
    obtain ⟨ordinary, value⟩ := shortValue?_of_shortEscape? short
    simp [decodeFrom, ordinary, value]
  case h_2 long =>
    split
    · simp [decodeFrom, ne_backslash_of_shortEscape?_eq_none long]
    · simp only [List.cons_append, List.append_assoc, decodeFrom, hexDigits, decodeFrom_toDigits,
        if_true, List.nil_append, ofCode?_toNat]

/-- Undoing the escapes gives the text back. -/
theorem decode_encode (text : List Char) : decode (encode text) = some text := by
  unfold decode
  induction text with
  | nil => rfl
  | cons char rest inductionHypothesis =>
    rw [encode_cons, decodeFrom_encodeChar, inductionHypothesis]
    rfl

/-- The characters of a hexadecimal number are those of digits. -/
theorem exists_digitChar_eq_of_mem_toDigits {value : Nat} {char : Char}
    (member : char ∈ Nat.toDigits 16 value) : ∃ digit < 16, Nat.digitChar digit = char := by
  induction value using Nat.strongRecOn with
  | ind value inductionHypothesis =>
    rw [Nat.toDigits_eq_if (by decide)] at member
    split at member
    case isTrue small => exact ⟨value, small, (List.mem_singleton.mp member).symm⟩
    case isFalse large =>
      rcases List.mem_append.mp member with earlier | last
      · exact inductionHypothesis (value / 16) (by omega) earlier
      · exact ⟨value % 16, Nat.mod_lt _ (by decide), (List.mem_singleton.mp last).symm⟩

theorem isPrintable_of_mem_toDigits {value : Nat} {char : Char}
    (member : char ∈ Nat.toDigits 16 value) : isPrintable char = true := by
  have printable : ∀ digit : Fin 16, isPrintable (Nat.digitChar digit) = true := by decide
  obtain ⟨digit, small, rfl⟩ := exists_digitChar_eq_of_mem_toDigits member
  exact printable ⟨digit, small⟩

/-- An escaped text is printable. -/
theorem isPrintable_of_mem_encode {text : List Char} {char : Char} (member : char ∈ encode text) :
    isPrintable char = true := by
  have letters : ∀ pair ∈ shortEscapes, isPrintable pair.2 = true := by decide
  obtain ⟨source, _, within⟩ := List.mem_flatMap.mp member
  unfold encodeChar at within
  split at within
  case h_1 letter short =>
    rcases List.mem_cons.mp within with rfl | last
    · decide
    · cases List.mem_singleton.mp last
      exact letters _ (mem_shortEscapes short)
  case h_2 =>
    split at within
    case isTrue plain => exact List.mem_singleton.mp within ▸ plain
    case isFalse =>
      simp only [List.mem_cons, List.mem_append, List.not_mem_nil, or_false] at within
      rcases within with rfl | rfl | rfl | present | rfl
      · decide
      · decide
      · decide
      · exact isPrintable_of_mem_toDigits present
      · decide

end ConstProp.Text.Escape
