import ConstProp.Proofs.Oracle.TextFolding
import ConstProp.Proofs.Text.CaseMapping

/-!
# Folding of calls with a character

A character is held on the stack as an integer, which can be any. The methods that map its case are folded
only for an integer that is a whole code unit, and give one. The method that writes it as a text is folded
for the code of any character, also for one that takes two units: its result is the text of a character of
the virtual machine exactly for the codes that are whole units (`Intrinsic.char_folds_resolve_iff`).
-/

namespace ConstProp.Intrinsic

open Text

theorem charOf?_eq_some_iff {code : Int32} {char : Char} :
    charOf? code = some char ↔ code.toInt = char.toNat := by
  unfold charOf?
  split
  case isTrue nonnegative =>
    rw [ofCode?_eq_some_iff]
    omega
  case isFalse negative =>
    simp only [reduceCtorEq, false_iff]
    omega

theorem mapCase?_eq_some_iff {mapping : CaseMapping} {code : Int32} {unit : UInt16} :
    mapCase? mapping code = some unit ↔
      ∃ char : Char, code.toInt = char.toNat ∧ mapping.unit? char = some unit := by
  unfold mapCase?
  simp only [← charOf?_eq_some_iff]
  cases charOf? code <;> simp

/-- A call of an intrinsic is folded exactly if its arguments are known and it can be evaluated for them. -/
theorem answer_eq_some_iff (intrinsic : Intrinsic) {type : SlotType} {arguments : List SlotValue}
    {result : Constant} :
    answer (.call type intrinsic.member arguments) = some result ↔
      ∃ known, arguments.map Query.argumentKey = known.map some ∧
        intrinsic.evaluate known = some result := by
  constructor
  · intro answered
    obtain ⟨_, known, found, all, evaluated⟩ := exists_of_answer answered
    cases (ofMember?_member intrinsic).symm.trans found
    exact ⟨known, eq_map_some_of_allKnown? all, evaluated⟩
  · rintro ⟨known, keys, evaluated⟩
    rw [answer_of_known intrinsic type keys, evaluated]

/-- The integer that is the only one of a list of constants, if it is one. -/
def onlyInt? : List Constant → Option Int32
  | [.number (.int code)] => some code
  | _ => none

theorem onlyInt?_eq_some_iff {known : List Constant} {code : Int32} :
    onlyInt? known = some code ↔ known = [.number (.int code)] := by
  unfold onlyInt?
  split <;> simp_all

/-- The case mapping that a method applies. -/
def caseMapping? : Intrinsic → Option CaseMapping
  | .upperCase => some .upper
  | .lowerCase => some .lower
  | _ => none

theorem evaluate_textOfChar (known : List Constant) :
    textOfChar.evaluate known =
      (onlyInt? known).bind fun code => (charOf? code).map fun char => .text (String.ofList [char]) := by
  unfold onlyInt?
  split
  case h_1 => rfl
  case h_2 => unfold evaluate; split <;> simp_all

theorem evaluate_of_caseMapping? {intrinsic : Intrinsic} {mapping : CaseMapping}
    (maps : intrinsic.caseMapping? = some mapping) (known : List Constant) :
    intrinsic.evaluate known =
      (onlyInt? known).bind fun code => (mapCase? mapping code).map fun unit => .number (.char unit) := by
  unfold caseMapping? at maps
  unfold onlyInt?
  split at maps <;> cases maps
  all_goals
    split
    case h_1 => rfl
    case h_2 => unfold evaluate; split <;> simp_all

/-- The case mappings of methods keep to the first plane. -/
theorem keepsPlane_of_caseMapping? {intrinsic : Intrinsic} {mapping : CaseMapping}
    (maps : intrinsic.caseMapping? = some mapping) : mapping.KeepsPlane := by
  unfold caseMapping? at maps
  split at maps <;> cases maps
  · exact CaseMapping.keepsPlane_upper
  · exact CaseMapping.keepsPlane_lower

section Characters

variable {type : SlotType} {arguments : List SlotValue} {result : Constant}

/-- A method of one integer is folded for one known integer for which it can be evaluated. -/
theorem answer_eq_some_iff_of_onlyInt? {intrinsic : Intrinsic} {ofInt : Int32 → Option Constant}
    (evaluates : ∀ known, intrinsic.evaluate known = (onlyInt? known).bind ofInt) :
    answer (.call type intrinsic.member arguments) = some result ↔
      ∃ code : Int32, arguments.map Query.argumentKey = [some (.number (.int code))] ∧
        ofInt code = some result := by
  rw [answer_eq_some_iff]
  simp only [evaluates, Option.bind_eq_some_iff, onlyInt?_eq_some_iff]
  constructor
  · rintro ⟨_, keys, code, rfl, evaluated⟩
    exact ⟨code, keys, evaluated⟩
  · rintro ⟨code, keys, evaluated⟩
    exact ⟨[.number (.int code)], keys, code, rfl, evaluated⟩

/-- An integer is written as a character exactly if it is the code of one. -/
theorem answer_textOfChar_iff :
    answer (.call type textOfChar.member arguments) = some result ↔
      ∃ (code : Int32) (char : Char), arguments.map Query.argumentKey = [some (.number (.int code))] ∧
        code.toInt = char.toNat ∧ result = .text (String.ofList [char]) := by
  rw [answer_eq_some_iff_of_onlyInt? evaluate_textOfChar]
  constructor
  · rintro ⟨code, keys, written⟩
    obtain ⟨char, found, rfl⟩ := Option.map_eq_some_iff.mp written
    exact ⟨code, char, keys, charOf?_eq_some_iff.mp found, rfl⟩
  · rintro ⟨code, char, keys, same, rfl⟩
    refine ⟨code, keys, ?_⟩
    rw [charOf?_eq_some_iff.mpr same, Option.map_some]

/-- The case of an integer is mapped exactly if it is the code of a character with one unit to map to. -/
theorem answer_iff_of_caseMapping? {intrinsic : Intrinsic} {mapping : CaseMapping}
    (maps : intrinsic.caseMapping? = some mapping) :
    answer (.call type intrinsic.member arguments) = some result ↔
      ∃ (code : Int32) (char : Char) (unit : UInt16),
        arguments.map Query.argumentKey = [some (.number (.int code))] ∧ code.toInt = char.toNat ∧
          mapping.unit? char = some unit ∧ result = .number (.char unit) := by
  rw [answer_eq_some_iff_of_onlyInt? (evaluate_of_caseMapping? maps)]
  constructor
  · rintro ⟨code, keys, mapped⟩
    obtain ⟨unit, found, rfl⟩ := Option.map_eq_some_iff.mp mapped
    obtain ⟨char, same, image⟩ := mapCase?_eq_some_iff.mp found
    exact ⟨code, char, unit, keys, same, image, rfl⟩
  · rintro ⟨code, char, unit, keys, same, image, rfl⟩
    refine ⟨code, keys, ?_⟩
    rw [mapCase?_eq_some_iff.mpr ⟨char, same, image⟩, Option.map_some]

/-- The text of one character is measured by the units of the character. -/
theorem answer_stringLength_of_char {shown : SlotValue} {char : Char}
    (known : Query.argumentKey shown = some (.text (String.ofList [char]))) :
    answer (.call type stringLength.member [shown]) =
      some (.number (.int (if IsWholeUnit char.toNat then 1 else 2))) := by
  rw [answer_stringLength_eq_some_iff type known]
  simp only [unitCount, String.toList_ofList, units_cons, units_nil, List.append_nil, length_charUnits]
  split <;> rfl

end Characters

/-- A call with a character is folded only for one known integer. It is written as a text exactly if it is
the code of a character, and as the text of this one; that is measured as one unit if the code is a whole
one, and otherwise as two. Its case is mapped only if it is the code of a whole unit, and to one unit, which
is a character too. -/
theorem char_folds_resolve_iff (type : SlotType) (arguments : List SlotValue) :
    (∀ result, answer (.call type textOfChar.member arguments) = some result ↔
      ∃ (code : Int32) (char : Char), arguments.map Query.argumentKey = [some (.number (.int code))] ∧
        code.toInt = char.toNat ∧ result = .text (String.ofList [char])) ∧
    (∀ result shown, answer (.call type textOfChar.member arguments) = some result →
      Query.argumentKey shown = some result →
        ∃ code : Int32, arguments.map Query.argumentKey = [some (.number (.int code))] ∧
          answer (.call .int stringLength.member [shown]) =
            some (.number (.int (if IsWholeUnit code.toInt then 1 else 2)))) ∧
    ∀ intrinsic ∈ [upperCase, lowerCase], ∀ result,
      answer (.call type intrinsic.member arguments) = some result →
        ∃ (code : Int32) (char : Char) (unit : UInt16),
          arguments.map Query.argumentKey = [some (.number (.int code))] ∧ IsWholeUnit code.toInt ∧
            result = .number (.char unit) ∧ Encodes char [unit] := by
  refine ⟨fun _ => answer_textOfChar_iff, ?_, ?_⟩
  · intro result shown answered known
    obtain ⟨code, char, keys, same, rfl⟩ := answer_textOfChar_iff.mp answered
    refine ⟨code, keys, ?_⟩
    rw [answer_stringLength_of_char known, same]
  · intro intrinsic member result answered
    obtain ⟨mapping, maps⟩ : ∃ mapping, intrinsic.caseMapping? = some mapping := by
      rcases List.mem_pair.mp member with rfl | rfl
      · exact ⟨.upper, rfl⟩
      · exact ⟨.lower, rfl⟩
    obtain ⟨code, char, unit, keys, same, image, rfl⟩ := (answer_iff_of_caseMapping? maps).mp answered
    obtain ⟨whole, mapped, encodes⟩ :=
      CaseMapping.encodes_of_unit? (keepsPlane_of_caseMapping? maps) image
    exact ⟨code, mapped, unit, keys, same ▸ whole, rfl, encodes⟩

/-- An accented letter is written as one unit, and its case is mapped; a letter beyond the first plane is
written as two units, and its case is not mapped. -/
theorem char_folds_resolve_iff_letters :
    let accented := SlotValue.ofNumber .int ⟨0⟩ (.char 0xe9)
    let shown := SlotValue.ofText .string ⟨1⟩ "é"
    let beyond := SlotValue.ofNumber .int ⟨2⟩ (.int 0x10428)
    answer (.call .string textOfChar.member [accented]) = some (.text "é") ∧
      Query.argumentKey shown = some (.text "é") ∧
      answer (.call .int stringLength.member [shown]) = some (.number (.int 1)) ∧
      upperCase ∈ [upperCase, lowerCase] ∧
      answer (.call .int upperCase.member [accented]) = some (.number (.char 0xc9)) ∧
      (∃ char, Encodes char [0xc9]) ∧
      answer (.call .string textOfChar.member [beyond]) = some (.text "𐐨") ∧
      answer (.call .int upperCase.member [beyond]) = none := by
  intro accented shown beyond
  obtain ⟨written, measured, mapped⟩ := char_folds_resolve_iff .string [accented]
  obtain ⟨writtenBeyond, _, _⟩ := char_folds_resolve_iff .string [beyond]
  obtain ⟨_, _, mappedBeyond⟩ := char_folds_resolve_iff .int [beyond]
  have text := (written (.text "é")).mpr ⟨0xe9, 'é', rfl, rfl, rfl⟩
  have textBeyond := (writtenBeyond (.text "𐐨")).mpr ⟨0x10428, '𐐨', rfl, rfl, rfl⟩
  have known : Query.argumentKey shown = some (.text "é") := rfl
  have upper : answer (.call .string upperCase.member [accented]) = some (.number (.char 0xc9)) := by
    decide +kernel
  obtain ⟨code, keys, length⟩ := measured _ shown text known
  obtain ⟨_, char, unit, _, _, same, encodes⟩ := mapped upperCase List.mem_cons_self _ upper
  cases keys
  cases same
  refine ⟨text, known, length, List.mem_cons_self, upper, ⟨char, encodes⟩, textBeyond, ?_⟩
  rw [Option.eq_none_iff_forall_ne_some]
  intro result answered
  obtain ⟨code, _, _, keysBeyond, whole, _⟩ := mappedBeyond upperCase List.mem_cons_self _ answered
  cases keysBeyond
  revert whole
  decide

/-- A character beyond the first plane is no unit, and yet it is written as a text, which has two units. -/
theorem textOfChar_two_units :
    let argument := SlotValue.ofNumber .int ⟨0⟩ (.int 0x1f600)
    let shown := SlotValue.ofText .string ⟨1⟩ "😀"
    Query.argumentKey argument = some (.number (.int 0x1f600)) ∧
      ¬ IsWholeUnit (0x1f600 : Int32).toInt ∧
      answer (.call .string textOfChar.member [argument]) = some (.text "😀") ∧
      Query.argumentKey shown = some (.text "😀") ∧
      answer (.call .int stringLength.member [shown]) = some (.number (.int 2)) := by
  decide

end ConstProp.Intrinsic
