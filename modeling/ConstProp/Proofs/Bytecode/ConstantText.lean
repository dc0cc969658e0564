import ConstProp.Bytecode.Constant
import ConstProp.Text.CodeUnit
import Mathlib.Data.List.Basic

/-!
# Reading constants

The text of a constant says which constant it is. Its last character is a mark of the kind
(`Constant.kindOf?_write`): a suffix letter, a digit, a quote, or the end of a word. What stands before the
mark is read by kind: decimal digits, a class name as it is, and between quotes a text or a code unit with
its escapes undone. So every constant is read back from its text (`Constant.read?_write`), but for the
floating-point ones: all patterns that are not a number share one text.
-/

namespace ConstProp

namespace Decimal

/-- A written integer ends in a digit. -/
theorem exists_getLast?_write (value : Int) :
    ∃ last, (write value).getLast? = some last ∧ last.isDigit = true := by
  -- The sign of a negative number stands in front and does not matter.
  have endsInDigit : ∀ (front : List Char) (magnitude : Nat), ∃ last,
      (front ++ Nat.toDigits 10 magnitude).getLast? = some last ∧ last.isDigit = true := by
    intro front magnitude
    have present : Nat.toDigits 10 magnitude ≠ [] := Nat.toDigits_ne_nil
    refine ⟨(Nat.toDigits 10 magnitude).getLast present, ?_, ?_⟩
    · rw [List.getLast?_append_of_ne_nil _ present, List.getLast?_eq_some_getLast]
    · exact Nat.isDigit_of_mem_toDigits (by decide) (by decide) (List.getLast_mem present)
  cases value with
  | ofNat magnitude => exact endsInDigit [] magnitude
  | negSucc below => exact endsInDigit ['-'] (below + 1)

/-- Reads an integer of a type into which the integers wrap; one outside its range is not read. -/
def readWrapped? {α : Type} (ofInt : Int → α) (toInt : α → Int) (text : List Char) : Option α :=
  match read? text with
  | some value => if toInt (ofInt value) = value then some (ofInt value) else none
  | none => none

/-- A written integer of a type is read back. -/
theorem readWrapped?_write {α : Type} {ofInt : Int → α} {toInt : α → Int}
    (exact : ∀ value, ofInt (toInt value) = value) (value : α) :
    readWrapped? ofInt toInt (write (toInt value)) = some value := by
  simp [readWrapped?, exact]

end Decimal

namespace Text

/-- The number that hexadecimal digits denote. -/
def readHex? (digits : List Char) : Option Nat :=
  digits.foldlM (fun value digit => (Escape.hexValue? digit).map (16 * value + ·)) 0

/-- The digits of a number are read to it. -/
theorem readHex?_toDigits (value : Nat) : readHex? (Nat.toDigits 16 value) = some value := by
  induction value using Nat.strongRecOn with
  | ind value inductionHypothesis =>
    rw [Nat.toDigits_eq_if (by decide)]
    split
    case isTrue small => simp [readHex?, Escape.hexValue?_digitChar small]
    case isFalse large =>
      have small : value % 16 < 16 := Nat.mod_lt _ (by decide)
      have before := inductionHypothesis (value / 16) (by omega)
      have joined : 16 * (value / 16) + value % 16 = value := Nat.div_add_mod value 16
      unfold readHex? at before ⊢
      rw [List.foldlM_append, before]
      simp [Escape.hexValue?_digitChar small, joined]

/-- A code of half a character. -/
def IsSurrogate (code : Nat) : Prop :=
  0xd800 ≤ code ∧ code < 0xe000

instance (code : Nat) : Decidable (IsSurrogate code) :=
  inferInstanceAs (Decidable (_ ∧ _))

/-- A code unit that is no character is a surrogate. -/
theorem isSurrogate_of_ofCode?_eq_none {unit : UInt16} (lone : ofCode? unit.toNat = none) :
    IsSurrogate unit.toNat := by
  have bounded := unit.toNat_lt
  have invalid : ¬ unit.toNat.isValidChar := by simpa [ofCode?] using lone
  unfold Nat.isValidChar at invalid
  unfold IsSurrogate
  omega

/-- The code of a surrogate has four hexadecimal digits. -/
theorem length_toDigits_of_isSurrogate {code : Nat} (surrogate : IsSurrogate code) :
    (Nat.toDigits 16 code).length = 4 := by
  unfold IsSurrogate at surrogate
  have four : (Nat.toDigits 16 code).length ≤ 4 :=
    (Nat.length_toDigits_le_iff (by decide) (by decide)).mpr (by omega)
  have more : ¬ (Nat.toDigits 16 code).length ≤ 3 := by
    rw [Nat.length_toDigits_le_iff (by decide) (by decide)]
    omega
  omega

/-- A character whose code is a code unit is this unit alone. -/
theorem charUnits_of_toNat_eq {char : Char} {unit : UInt16} (code : char.toNat = unit.toNat) :
    charUnits char = [unit] := by
  have firstPlane : char.toNat < 0x10000 := code ▸ unit.toNat_lt
  rw [charUnits, if_pos firstPlane, code, Nat.toUInt16_eq, UInt16.ofNat_toNat]

namespace Escape

/-- Undoes the escape of a lone surrogate, which has the four digits of its code without braces. -/
def decodeSurrogate? : List Char → Option UInt16
  | '\x5c' :: 'u' :: digits =>
    match readHex? digits with
    | some code => if digits.length = 4 ∧ IsSurrogate code then some code.toUInt16 else none
    | none => none
  | _ => none

/-- Undoes the escape of one code unit, which is that of a character or of a lone surrogate. -/
def decodeUnit? (text : List Char) : Option UInt16 :=
  match (decode text).map units with
  | some [unit] => some unit
  | some _ => none
  | none => decodeSurrogate? text

/-- The two hexadecimal escapes do not overlap: without its braces a code is not read as that of a
character. -/
theorem decode_unbraced (code : Nat) : decode ('\x5c' :: 'u' :: Nat.toDigits 16 code) = none := by
  cases shape : Nat.toDigits 16 code with
  | nil => exact absurd shape Nat.toDigits_ne_nil
  | cons first rest =>
    have apart : ∀ digit : Fin 16, Nat.digitChar digit ≠ '\x7b' := by decide
    obtain ⟨digit, small, rfl⟩ :=
      exists_digitChar_eq_of_mem_toDigits (shape ▸ List.mem_cons_self)
    simp [decode, decodeFrom, apart ⟨digit, small⟩]

/-- The escape of a code unit is undone. -/
theorem decodeUnit?_unitText (unit : UInt16) : decodeUnit? (Number.unitText unit) = some unit := by
  unfold Number.unitText
  split
  case h_1 scalar found =>
    have alone : charUnits scalar = [unit] := charUnits_of_toNat_eq (ofCode?_eq_some_iff.mp found)
    have undone : decode (encodeChar scalar) = some [scalar] := by
      simpa using decode_encode [scalar]
    simp [decodeUnit?, undone, alone]
  case h_2 lone =>
    have surrogate := isSurrogate_of_ofCode?_eq_none lone
    have four := length_toDigits_of_isSurrogate surrogate
    simp [decodeUnit?, decode_unbraced, decodeSurrogate?, readHex?_toDigits, four, surrogate]

example : decodeUnit? ['\x5c', 'u', 'd', '8', '0', '0'] = some 0xd800 := by decide

/-- The escape of a code unit is printable. -/
theorem isPrintable_of_mem_unitText {unit : UInt16} {char : Char}
    (member : char ∈ Number.unitText unit) : isPrintable char = true := by
  unfold Number.unitText at member
  split at member
  case h_1 scalar _ =>
    have encoded : char ∈ encode [scalar] := by simpa using member
    exact isPrintable_of_mem_encode encoded
  case h_2 =>
    rcases List.mem_cons.mp member with rfl | member
    · decide
    · rcases List.mem_cons.mp member with rfl | member
      · decide
      · exact isPrintable_of_mem_toDigits member

end Escape

end Text

namespace Constant

/-- The kind of the constants whose texts end in a character. -/
def Kind.ofMark? (mark : Char) : Option Kind :=
  if mark.isDigit then some .int
  else
    match mark with
    | 'B' => some .byte
    | 'S' => some .short
    | 'L' => some .long
    | 'F' => some .float
    | 'D' => some .double
    | 'e' => some .boolean
    | 's' => some .type
    | '\x27' => some .char
    | '\x22' => some .string
    | _ => none

/-- The kind of the constant with a text. -/
def kindOf? (text : List Char) : Option Kind :=
  text.getLast?.bind Kind.ofMark?

@[simp] theorem kindOf?_concat (front : List Char) (mark : Char) :
    kindOf? (front ++ [mark]) = Kind.ofMark? mark := by
  simp [kindOf?]

/-- The last character of a constant's text tells the kind. -/
theorem kindOf?_write (constant : Constant) : kindOf? constant.write = some constant.kind := by
  cases constant with
  | number value =>
    cases value with
    | int value =>
      obtain ⟨last, found, digit⟩ := Decimal.exists_getLast?_write value.toInt
      simp [kindOf?, write, Number.write, found, Kind.ofMark?, digit, kind, Number.kind]
    | boolean value => cases value <;> rfl
    | byte | short | long | float | double => exact kindOf?_concat _ _
    | char unit => exact kindOf?_concat ('\x27' :: Number.unitText unit) _
  | text value => exact kindOf?_concat ('\x22' :: Text.Escape.encode value.toList) _
  | classLiteral name =>
    have front : write (.classLiteral name) = name.toList ++ ['.', 'c', 'l', 'a', 's'] ++ ['s'] := by
      simp [write]
    rw [front, kindOf?_concat]
    rfl

/-- What stands between two quotes. -/
def unquote? (quote : Char) : List Char → Option (List Char)
  | first :: rest => if first = quote then rest.dropSuffix? [quote] else none
  | [] => none

theorem dropSuffix?_append (front suffix : List Char) :
    (front ++ suffix).dropSuffix? suffix = some front :=
  List.dropSuffix?_eq_some_iff.mpr ⟨suffix, rfl, beq_self_eq_true suffix⟩

@[simp] theorem unquote?_quoted (quote : Char) (inner : List Char) :
    unquote? quote (quote :: (inner ++ [quote])) = some inner := by
  simp [unquote?, dropSuffix?_append]

/-- Reads a text in double quotes. -/
def readText? (text : List Char) : Option String :=
  ((unquote? '\x22' text).bind Text.Escape.decode).map String.ofList

/-- Reads a code unit in single quotes. -/
def readUnit? (text : List Char) : Option UInt16 :=
  (unquote? '\x27' text).bind Text.Escape.decodeUnit?

/-- Reads a constant of a known kind, unless that is a floating-point one. -/
def readAs? (text : List Char) : Kind → Option Constant
  | .byte =>
    (Decimal.readWrapped? Int8.ofInt Int8.toInt text.dropLast).map fun value => .number (.byte value)
  | .short =>
    (Decimal.readWrapped? Int16.ofInt Int16.toInt text.dropLast).map fun value => .number (.short value)
  | .int => (Decimal.readInt32? text).map fun value => .number (.int value)
  | .long =>
    (Decimal.readWrapped? Int64.ofInt Int64.toInt text.dropLast).map fun value => .number (.long value)
  | .float | .double => none
  | .char => (readUnit? text).map fun unit => .number (.char unit)
  | .boolean =>
    if text = ['t', 'r', 'u', 'e'] then some (.number (.boolean true))
    else if text = ['f', 'a', 'l', 's', 'e'] then some (.number (.boolean false))
    else none
  | .string => (readText? text).map .text
  | .type =>
    (text.dropSuffix? ['.', 'c', 'l', 'a', 's', 's']).map fun name => .classLiteral (String.ofList name)

/-- Reads a constant that is no floating-point number. -/
def read? (text : List Char) : Option Constant :=
  (kindOf? text).bind (readAs? text)

theorem readText?_write (value : String) : readText? (write (.text value)) = some value := by
  simp [readText?, write, Text.Escape.decode_encode]

theorem readUnit?_write (unit : UInt16) :
    readUnit? (write (.number (.char unit))) = some unit := by
  simp [readUnit?, write, Number.write, Text.Escape.decodeUnit?_unitText]

/-- A constant is read back from its text if it is no floating-point number. -/
theorem read?_write {constant : Constant} (noFloat : constant.kind ≠ .float)
    (noDouble : constant.kind ≠ .double) : read? constant.write = some constant := by
  rw [read?, kindOf?_write, Option.bind_some]
  cases constant with
  | number value =>
    cases value with
    | float => exact absurd rfl noFloat
    | double => exact absurd rfl noDouble
    | boolean value => cases value <;> rfl
    | char unit => simp [kind, Number.kind, readAs?, readUnit?_write]
    | int value => simp [kind, Number.kind, readAs?, write, Number.write]
    | byte | short | long =>
      simp [kind, Number.kind, readAs?, write, Number.write, Decimal.readWrapped?_write]
  | text value => simp [kind, readAs?, readText?_write]
  | classLiteral name => simp [kind, readAs?, write, dropSuffix?_append]

/-- Constants with the same text are of the same kind. -/
theorem kind_eq_of_write_eq {first second : Constant} (same : first.write = second.write) :
    first.kind = second.kind := by
  have kinds : some first.kind = some second.kind := by
    rw [← kindOf?_write, same, kindOf?_write]
  exact Option.some.inj kinds

/-- Constants with the same text are equal if one of them is no floating-point number. -/
theorem eq_of_write_eq {first second : Constant} (same : first.write = second.write)
    (noFloat : first.kind ≠ .float) (noDouble : first.kind ≠ .double) : first = second := by
  have kinds := kind_eq_of_write_eq same
  have readFirst := read?_write noFloat noDouble
  have readSecond : read? second.write = some second :=
    read?_write (kinds ▸ noFloat) (kinds ▸ noDouble)
  rw [same, readSecond] at readFirst
  exact (Option.some.inj readFirst).symm

/-- A printable text stays printable between quotes. -/
theorem isPrintable_of_mem_quoted {quote char : Char} {inner : List Char}
    (quotePrintable : Text.Escape.isPrintable quote = true)
    (innerPrintable : ∀ char ∈ inner, Text.Escape.isPrintable char = true)
    (member : char ∈ quote :: (inner ++ [quote])) : Text.Escape.isPrintable char = true := by
  rcases List.mem_cons.mp member with rfl | member
  · exact quotePrintable
  · rcases List.mem_append.mp member with within | last
    · exact innerPrintable char within
    · exact List.mem_singleton.mp last ▸ quotePrintable

theorem toList_display (constant : Constant) : constant.display.toList = constant.write :=
  String.toList_ofList

/-- The text of a constant determines its kind, and the constant itself unless that is a floating-point
number. The texts of text and character constants are printable, and undoing their escapes gives the text
and the code unit back. -/
theorem display_determines :
    (∀ first second : Constant, first.display = second.display →
      first.kind = second.kind ∧
        (first.kind ≠ .float → first.kind ≠ .double → first = second)) ∧
    (∀ value : String,
      (∀ char ∈ (text value).display.toList, Text.Escape.isPrintable char = true) ∧
        readText? (text value).display.toList = some value) ∧
    ∀ unit : UInt16,
      (∀ char ∈ (number (.char unit)).display.toList, Text.Escape.isPrintable char = true) ∧
        readUnit? (number (.char unit)).display.toList = some unit := by
  simp only [toList_display]
  refine ⟨?_, ?_, ?_⟩
  · intro first second same
    have written : first.write = second.write := String.ofList_injective same
    exact ⟨kind_eq_of_write_eq written, eq_of_write_eq written⟩
  · intro value
    refine ⟨fun char member => ?_, readText?_write value⟩
    have escaped : ∀ char ∈ Text.Escape.encode value.toList, Text.Escape.isPrintable char = true :=
      fun _ => Text.Escape.isPrintable_of_mem_encode
    exact isPrintable_of_mem_quoted (by decide) escaped member
  · intro unit
    refine ⟨fun char member => ?_, readUnit?_write unit⟩
    have escaped : ∀ char ∈ Number.unitText unit, Text.Escape.isPrintable char = true :=
      fun _ => Text.Escape.isPrintable_of_mem_unitText
    exact isPrintable_of_mem_quoted (by decide) escaped member

/-- Two patterns that are not a number share the kind that their text shows, and nothing more; a lone
surrogate is told from its text. -/
theorem display_determines_nan :
    ((number (.float 0x7fc00000)).display = (number (.float 0x7fc00001)).display ∧
      (number (.float 0x7fc00000)).kind = (number (.float 0x7fc00001)).kind ∧
      number (.float 0x7fc00000) ≠ number (.float 0x7fc00001)) ∧
    ((number (.char 0xd800)).display = (number (.char (0xd7ff + 1))).display ∧
      (number (.char 0xd800)).kind ≠ .float ∧ (number (.char 0xd800)).kind ≠ .double ∧
      number (.char 0xd800) = number (.char (0xd7ff + 1))) := by
  have nan : (number (.float 0x7fc00000)).display = (number (.float 0x7fc00001)).display := by decide
  have lone : (number (.char 0xd800)).display = (number (.char (0xd7ff + 1))).display := by decide
  exact ⟨⟨nan, (display_determines.1 _ _ nan).1, by decide⟩,
    lone, by decide, by decide, (display_determines.1 _ _ lone).2 (by decide) (by decide)⟩

end Constant

end ConstProp
