import ConstProp.Proofs.Decimal.Numeral
import ConstProp.Proofs.Oracle.Folding

/-!
# Conversions between integers and texts

The intrinsic methods that write an integer give its canonical numeral, and the one that reads an integer
takes every numeral of it, so reading undoes writing, and writing undoes reading on canonical numerals
(`Intrinsic.decimal_folds_inverse`).
-/

namespace ConstProp.Intrinsic

open Decimal

/-- An integer is written as its canonical numeral. -/
theorem exists_decimalText_eq (value : Int) :
    ∃ numeral : Numeral, numeral.IsCanonical ∧ numeral.value = value ∧
      decimalText value = String.ofList numeral.write := by
  obtain ⟨numeral, written, rfl⟩ := Numeral.read?_eq_some_iff.mp (read?_write value)
  exact ⟨numeral, numeral.write_value_eq_write_iff.mp written.symm, rfl, congrArg String.ofList written.symm⟩

/-- Different integers are written as different texts. -/
theorem decimalText_injective : Function.Injective decimalText := by
  intro first second same
  have written : write first = write second := String.ofList_injective same
  exact Option.some.inj (by rw [← read?_write first, written, read?_write])

section Unary

variable (type : SlotType) {argument : SlotValue}

/-- An integer argument is written in decimal by both methods that do so. -/
theorem answer_ofInt {value : Int32} (known : Query.argumentKey argument = some (.number (.int value))) :
    answer (.call type integerText.member [argument]) = some (.text (decimalText value.toInt)) ∧
      answer (.call type textOfInt.member [argument]) = some (.text (decimalText value.toInt)) :=
  ⟨answer_of_known_singleton integerText type known, answer_of_known_singleton textOfInt type known⟩

/-- A long argument is written in decimal by both methods that do so. -/
theorem answer_ofLong {value : Int64} (known : Query.argumentKey argument = some (.number (.long value))) :
    answer (.call type longText.member [argument]) = some (.text (decimalText value.toInt)) ∧
      answer (.call type textOfLong.member [argument]) = some (.text (decimalText value.toInt)) :=
  ⟨answer_of_known_singleton longText type known, answer_of_known_singleton textOfLong type known⟩

/-- A text argument is read as the integer whose numeral it is. -/
theorem answer_parseInt_eq_some_iff {text : String} {result : Constant}
    (known : Query.argumentKey argument = some (.text text)) :
    answer (.call type parseInt.member [argument]) = some result ↔
      ∃ (numeral : Numeral) (value : Int32), String.ofList numeral.write = text ∧
        numeral.value = value.toInt ∧ result = .number (.int value) := by
  rw [answer_of_known_singleton parseInt type known, evaluate, Option.map_eq_some_iff]
  constructor
  · rintro ⟨value, read, rfl⟩
    obtain ⟨numeral, written, same⟩ := Numeral.readInt32?_eq_some_iff.mp read
    exact ⟨numeral, value, by rw [written, String.ofList_toList], same, rfl⟩
  · rintro ⟨numeral, value, rfl, same, rfl⟩
    exact ⟨value, Numeral.readInt32?_eq_some_iff.mpr ⟨numeral, String.toList_ofList.symm, same⟩, rfl⟩

end Unary

/-- Writing and reading integers undo each other. Every 32-bit integer is written, by both methods, as its
canonical numeral, which is read as the same integer; every 64-bit integer is written by both methods as one
text that no other has. A text is read exactly if it is a numeral of a 32-bit integer, and as that integer;
writing the integer gives the text back exactly if the numeral is canonical. -/
theorem decimal_folds_inverse (type : SlotType) :
    (∀ value : Int32, ∃ numeral : Numeral, numeral.IsCanonical ∧ numeral.value = value.toInt ∧
      ∀ argument, Query.argumentKey argument = some (.number (.int value)) →
        answer (.call type integerText.member [argument]) =
          some (.text (String.ofList numeral.write)) ∧
        answer (.call type textOfInt.member [argument]) =
          some (.text (String.ofList numeral.write)) ∧
        ∀ read, Query.argumentKey read = some (.text (String.ofList numeral.write)) →
          answer (.call type parseInt.member [read]) = some (.number (.int value))) ∧
    (∃ write : Int64 → String, Function.Injective write ∧
      ∀ value argument, Query.argumentKey argument = some (.number (.long value)) →
        answer (.call type longText.member [argument]) = some (.text (write value)) ∧
        answer (.call type textOfLong.member [argument]) = some (.text (write value))) ∧
    ∀ text argument, Query.argumentKey argument = some (.text text) →
      ((answer (.call type parseInt.member [argument])).isSome = true ↔
        ∃ numeral : Numeral, String.ofList numeral.write = text ∧
          -2 ^ 31 ≤ numeral.value ∧ numeral.value ≤ 2 ^ 31 - 1) ∧
      ∀ result, answer (.call type parseInt.member [argument]) = some result →
        ∃ (numeral : Numeral) (value : Int32), String.ofList numeral.write = text ∧
          result = .number (.int value) ∧ value.toInt = numeral.value ∧
          ∀ written, Query.argumentKey written = some result →
            (answer (.call type integerText.member [written]) = some (.text text) ↔
              numeral.IsCanonical) := by
  refine ⟨?_, ?_, ?_⟩
  · intro value
    obtain ⟨numeral, canonical, same, text⟩ := exists_decimalText_eq value.toInt
    refine ⟨numeral, canonical, same, fun argument known => ?_⟩
    obtain ⟨integer, valueOf⟩ := answer_ofInt type known
    rw [text] at integer valueOf
    refine ⟨integer, valueOf, fun read knownRead => ?_⟩
    exact (answer_parseInt_eq_some_iff type knownRead).mpr ⟨numeral, value, rfl, same, rfl⟩
  · refine ⟨fun value => decimalText value.toInt, ?_, fun value argument => answer_ofLong type⟩
    exact decimalText_injective.comp fun first second => Int64.toInt_inj.mp
  · intro text argument known
    have resolves : ∀ result, answer (.call type parseInt.member [argument]) = some result ↔ _ :=
      fun _ => answer_parseInt_eq_some_iff type known
    refine ⟨⟨?_, ?_⟩, ?_⟩
    · intro resolved
      obtain ⟨result, answered⟩ := Option.isSome_iff_exists.mp resolved
      obtain ⟨numeral, value, written, same, _⟩ := (resolves result).mp answered
      refine ⟨numeral, written, ?_⟩
      rw [same]
      exact ⟨value.le_toInt, Int.le_sub_one_of_lt value.toInt_lt⟩
    · rintro ⟨numeral, written, low, high⟩
      have same := Int32.toInt_ofInt_of_le low (Int.lt_of_le_sub_one high)
      exact Option.isSome_iff_exists.mpr
        ⟨_, (resolves _).mpr ⟨numeral, .ofInt numeral.value, written, same.symm, rfl⟩⟩
    · intro result answered
      obtain ⟨numeral, value, rfl, same, rfl⟩ := (resolves result).mp answered
      refine ⟨numeral, value, rfl, rfl, same.symm, fun written knownWritten => ?_⟩
      rw [(answer_ofInt type knownWritten).1, ← numeral.write_value_eq_write_iff, same, decimalText]
      simp only [Option.some.injEq, Constant.text.injEq]
      exact ⟨fun text => String.ofList_injective text, congrArg String.ofList⟩

/-- The least integer is written with its sign and read again; a numeral with a plus sign and padding is read
as seven, but not written for it. -/
theorem decimal_folds_inverse_least :
    let least := SlotValue.ofNumber .int ⟨0⟩ (.int (-2147483648))
    let shown := SlotValue.ofText .string ⟨1⟩ "-2147483648"
    let padded := SlotValue.ofText .string ⟨2⟩ "+007"
    let seven := SlotValue.ofNumber .int ⟨3⟩ (.byte 7)
    let long := SlotValue.ofNumber .long ⟨4⟩ (.long (-7))
    Query.argumentKey least = some (.number (.int (-2147483648))) ∧
      answer (.call .int textOfInt.member [least]) = some (.text "-2147483648") ∧
      Query.argumentKey shown = some (.text "-2147483648") ∧
      answer (.call .int parseInt.member [shown]) = some (.number (.int (-2147483648))) ∧
      Query.argumentKey long = some (.number (.long (-7))) ∧
      answer (.call .int longText.member [long]) = answer (.call .int textOfLong.member [long]) ∧
      Query.argumentKey padded = some (.text "+007") ∧
      answer (.call .int parseInt.member [padded]) = some (.number (.int 7)) ∧
      Query.argumentKey seven = some (.number (.int 7)) ∧
      answer (.call .int integerText.member [seven]) ≠ some (.text "+007") := by
  intro least shown padded seven long
  obtain ⟨ints, ⟨write, _, longs⟩, texts⟩ := decimal_folds_inverse .int
  obtain ⟨numeral, _, _, folds⟩ := ints (-2147483648)
  obtain ⟨integer, valueOf, reads⟩ := folds least rfl
  have digits : answer (.call .int integerText.member [least]) = some (.text "-2147483648") := by
    decide
  have text : String.ofList numeral.write = "-2147483648" :=
    Constant.text.inj (Option.some.inj (integer.symm.trans digits))
  rw [text] at valueOf reads
  obtain ⟨ofLong, ofLongAgain⟩ := longs (-7) long rfl
  have parsed : answer (.call .int parseInt.member [padded]) = some (.number (.int 7)) := by decide
  obtain ⟨signed, _, written, _, _, restores⟩ := (texts "+007" padded rfl).2 _ parsed
  have plus : signed = ⟨some .plus, [0, 0, 7], by simp⟩ :=
    Numeral.write_inj (String.ofList_injective (written.trans (by decide)))
  refine ⟨rfl, valueOf, rfl, reads shown rfl, rfl, ofLong.trans ofLongAgain.symm, rfl, parsed, rfl, ?_⟩
  intro restored
  have canonical := (restores seven rfl).mp restored
  exact canonical.sign_ne_plus (by rw [plus])

end ConstProp.Intrinsic
