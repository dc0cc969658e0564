import ConstProp.Proofs.Oracle.Folding
import ConstProp.Proofs.Text.CodeUnit

/-!
# Folding of questions about texts

The intrinsic methods that measure, hash and compare texts see the code units of the texts and nothing else
(`Intrinsic.text_folds_by_units`).
-/

namespace ConstProp.Intrinsic

open Text

/-- A count below the bound of the 32-bit integers is one of them. -/
theorem exists_toInt_eq {count : Nat} (countable : count ≤ 2 ^ 31 - 1) :
    ∃ length : Int32, length.toInt = count :=
  ⟨.ofNat count, Int32.toInt_ofNat_of_lt (Nat.lt_of_le_pred (by decide) countable)⟩

/-- The length of a text is the number of its code units, and is missing only if no 32-bit integer is that
number. -/
theorem lengthOf?_eq_some_iff {text : String} {length : Int32} :
    lengthOf? text = some length ↔ length.toInt = unitCount text.toList := by
  simp only [lengthOf?]
  split
  case isTrue countable =>
    have exact : (Int32.ofNat (unitCount text.toList)).toInt = unitCount text.toList :=
      Int32.toInt_ofNat_of_lt countable
    rw [Option.some_inj, ← Int32.toInt_inj, exact]
    exact eq_comm
  case isFalse uncountable =>
    have bounded := length.toInt_lt
    simp only [reduceCtorEq, false_iff]
    omega

/-- The hash of a text is the sum over its code units, up to wrapping. -/
theorem toInt_hashOf (text : String) :
    (hashOf text).toInt ≡ hashSum (units text.toList) [ZMOD 2 ^ 32] :=
  toInt_unitsHash (units text.toList)

/-- The hash of a concatenation is that of its first part, shifted beyond the second, plus that of the
second, up to wrapping. -/
theorem toInt_hashOf_append (first second : String) :
    (hashOf (first ++ second)).toInt ≡
      (hashOf first).toInt * 31 ^ (units second.toList).length + (hashOf second).toInt
        [ZMOD 2 ^ 32] := by
  simpa [hashOf] using toInt_unitsHash_append (units first.toList) (units second.toList)

/-- Texts are equal exactly if their code units are. -/
theorem units_toList_inj {first second : String} :
    units first.toList = units second.toList ↔ first = second :=
  units_injective.eq_iff.trans String.toList_inj

section Folds

variable (type : SlotType) {left right : SlotValue} {first second : String}

/-- A known text is measured. -/
theorem answer_stringLength (known : Query.argumentKey left = some (.text first)) :
    answer (.call type stringLength.member [left]) = (lengthOf? first).map (.number <| .int ·) :=
  answer_of_known_singleton stringLength type known

/-- A known text is measured by its code units. -/
theorem answer_stringLength_eq_some_iff {length : Int32}
    (known : Query.argumentKey left = some (.text first)) :
    answer (.call type stringLength.member [left]) = some (.number (.int length)) ↔
      length.toInt = unitCount first.toList := by
  rw [answer_stringLength type known, ← lengthOf?_eq_some_iff]
  simp

/-- A concatenation is measured exactly if its parts are and their lengths have a sum in range. -/
theorem answer_stringLength_append_iff {whole : SlotValue} {length : Int32}
    (knownLeft : Query.argumentKey left = some (.text first))
    (knownRight : Query.argumentKey right = some (.text second))
    (knownWhole : Query.argumentKey whole = some (.text (first ++ second))) :
    answer (.call type stringLength.member [whole]) = some (.number (.int length)) ↔
      ∃ leftLength rightLength : Int32,
        answer (.call type stringLength.member [left]) = some (.number (.int leftLength)) ∧
        answer (.call type stringLength.member [right]) = some (.number (.int rightLength)) ∧
        length.toInt = leftLength.toInt + rightLength.toInt := by
  simp only [answer_stringLength_eq_some_iff type knownLeft,
    answer_stringLength_eq_some_iff type knownRight, answer_stringLength_eq_some_iff type knownWhole,
    String.toList_append, unitCount_append, Nat.cast_add]
  constructor
  · intro total
    have bounded := length.toInt_lt
    obtain ⟨leftLength, leftExact⟩ : ∃ length : Int32, length.toInt = unitCount first.toList :=
      exists_toInt_eq (by omega)
    obtain ⟨rightLength, rightExact⟩ : ∃ length : Int32, length.toInt = unitCount second.toList :=
      exists_toInt_eq (by omega)
    exact ⟨leftLength, rightLength, leftExact, rightExact, by rw [total, leftExact, rightExact]⟩
  · rintro ⟨leftLength, rightLength, leftExact, rightExact, total⟩
    rw [total, leftExact, rightExact]

/-- A known text is hashed. -/
theorem answer_stringHash (known : Query.argumentKey left = some (.text first)) :
    answer (.call type stringHash.member [left]) = some (.number (.int (hashOf first))) :=
  answer_of_known_singleton stringHash type known

/-- Known texts are compared by their code units. -/
theorem answer_stringEquals (knownLeft : Query.argumentKey left = some (.text first))
    (knownRight : Query.argumentKey right = some (.text second)) :
    answer (.call type stringEquals.member [left, right]) =
      some (.number (.boolean (decide (units first.toList = units second.toList)))) := by
  have keys : [left, right].map Query.argumentKey =
      [Constant.text first, Constant.text second].map some := by
    simp [knownLeft, knownRight]
  rw [answer_of_known stringEquals type keys, evaluate]
  simp [units_toList_inj, beq_eq_decide]

end Folds

/-- Questions about known texts are answered by their code units. The length is the number of the units, as
long as a 32-bit integer can count them, and the hash is their polynomial in 31 up to wrapping. The length of
a concatenation is the sum of the lengths of its parts, and its hash is that of the first part times the
power of 31 for the units of the second, plus that of the second, up to wrapping. Two texts are equal exactly
if their units are, and then they have the same length and the same hash. -/
theorem text_folds_by_units (type : SlotType) :
    (∀ text argument, Query.argumentKey argument = some (.text text) →
      ((units text.toList).length ≤ 2 ^ 31 - 1 →
        ∃ length : Int32, length.toInt = (units text.toList).length ∧
          answer (.call type stringLength.member [argument]) = some (.number (.int length))) ∧
      ∃ hash : Int32, hash.toInt ≡ hashSum (units text.toList) [ZMOD 2 ^ 32] ∧
        answer (.call type stringHash.member [argument]) = some (.number (.int hash))) ∧
    ∀ first second left right whole,
      Query.argumentKey left = some (.text first) → Query.argumentKey right = some (.text second) →
      Query.argumentKey whole = some (.text (first ++ second)) →
        (∀ length : Int32,
          answer (.call type stringLength.member [whole]) = some (.number (.int length)) ↔
            ∃ leftLength rightLength : Int32,
              answer (.call type stringLength.member [left]) = some (.number (.int leftLength)) ∧
              answer (.call type stringLength.member [right]) = some (.number (.int rightLength)) ∧
              length.toInt = leftLength.toInt + rightLength.toInt) ∧
        (∃ leftHash rightHash hash : Int32,
          answer (.call type stringHash.member [left]) = some (.number (.int leftHash)) ∧
          answer (.call type stringHash.member [right]) = some (.number (.int rightHash)) ∧
          answer (.call type stringHash.member [whole]) = some (.number (.int hash)) ∧
          hash.toInt ≡ leftHash.toInt * 31 ^ (units second.toList).length + rightHash.toInt
            [ZMOD 2 ^ 32]) ∧
        answer (.call type stringEquals.member [left, right]) =
          some (.number (.boolean (decide (units first.toList = units second.toList)))) ∧
        (units first.toList = units second.toList →
          answer (.call type stringLength.member [left]) =
            answer (.call type stringLength.member [right]) ∧
          answer (.call type stringHash.member [left]) =
            answer (.call type stringHash.member [right])) := by
  refine ⟨?_, ?_⟩
  · intro text argument known
    refine ⟨fun countable => ?_, hashOf text, toInt_hashOf text, answer_stringHash type known⟩
    obtain ⟨length, exact⟩ := exists_toInt_eq countable
    exact ⟨length, exact, (answer_stringLength_eq_some_iff type known).mpr exact⟩
  · intro first second left right whole knownLeft knownRight knownWhole
    refine ⟨fun length => ?_, ?_, answer_stringEquals type knownLeft knownRight, fun same => ?_⟩
    · exact answer_stringLength_append_iff type knownLeft knownRight knownWhole
    · exact ⟨_, _, _, answer_stringHash type knownLeft, answer_stringHash type knownRight,
        answer_stringHash type knownWhole, toInt_hashOf_append first second⟩
    · obtain rfl : first = second := units_toList_inj.mp same
      rw [answer_stringLength type knownLeft, answer_stringLength type knownRight,
        answer_stringHash type knownLeft, answer_stringHash type knownRight]
      exact ⟨rfl, rfl⟩

/-- Two characters beyond the first plane are four units. With a letter after them they are five units, whose
hash is out of the range of the integers and wraps. -/
theorem text_folds_by_units_supplementary :
    let left := SlotValue.ofText .string ⟨0⟩ "😀😀"
    let right := SlotValue.ofText .string ⟨1⟩ "b"
    let whole := SlotValue.ofText .string ⟨2⟩ "😀😀b"
    Query.argumentKey left = some (.text "😀😀") ∧ Query.argumentKey right = some (.text "b") ∧
      Query.argumentKey whole = some (.text ("😀😀" ++ "b")) ∧
      answer (.call .int stringLength.member [left]) = some (.number (.int 4)) ∧
      answer (.call .int stringLength.member [whole]) = some (.number (.int 5)) ∧
      answer (.call .int stringHash.member [whole]) = some (.number (.int 1331786524)) ∧
      (1331786524 : Int32).toInt ≡
        (1705528838 : Int32).toInt * 31 ^ (units "b".toList).length + (98 : Int32).toInt [ZMOD 2 ^ 32] ∧
      answer (.call .int stringEquals.member [left, right]) = some (.number (.boolean false)) := by
  intro left right whole
  obtain ⟨each, pairs⟩ := text_folds_by_units .int
  have knownLeft : Query.argumentKey left = some (.text "😀😀") := rfl
  have knownRight : Query.argumentKey right = some (.text "b") := rfl
  have knownWhole : Query.argumentKey whole = some (.text ("😀😀" ++ "b")) := by decide
  obtain ⟨lengths, hashes, equal, _⟩ := pairs "😀😀" "b" left right whole knownLeft knownRight knownWhole
  obtain ⟨length, exact, measured⟩ := (each "😀😀" left knownLeft).1 (by decide)
  have four : length = 4 := Int32.toInt_inj.mp (exact.trans (by decide))
  rw [four] at measured
  have one : answer (.call .int stringLength.member [right]) = some (.number (.int 1)) := by decide
  have five := (lengths 5).mpr ⟨4, 1, measured, one, by decide⟩
  obtain ⟨leftHash, rightHash, hash, ofLeft, ofRight, ofWhole, shifted⟩ := hashes
  have folds : answer (.call .int stringHash.member [left]) = some (.number (.int 1705528838)) ∧
      answer (.call .int stringHash.member [right]) = some (.number (.int 98)) ∧
      answer (.call .int stringHash.member [whole]) = some (.number (.int 1331786524)) := by
    decide
  obtain rfl : leftHash = 1705528838 := by simpa using ofLeft.symm.trans folds.1
  obtain rfl : rightHash = 98 := by simpa using ofRight.symm.trans folds.2.1
  obtain rfl : hash = 1331786524 := by simpa using ofWhole.symm.trans folds.2.2
  exact ⟨knownLeft, knownRight, knownWhole, measured, five, ofWhole, shifted, equal.trans (by decide)⟩

end ConstProp.Intrinsic
