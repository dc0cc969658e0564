import ConstProp.Event
import ConstProp.Text.CaseMapping
import ConstProp.Text.CodeUnit

/-!
# Intrinsic methods

Methods of the standard library that can be evaluated ahead of time: their results depend on their
arguments alone, and they have no other effect. A call is evaluated only if its member is exactly that
of an intrinsic and every argument is known, with its kind on the stack as the intrinsic expects.
-/

namespace ConstProp

/-- A method that can be evaluated ahead of time. -/
inductive Intrinsic where
  | stringLength
  | stringHash
  | stringEquals
  | textOfInt
  | textOfLong
  | textOfChar
  | textOfBoolean
  | parseInt
  | integerText
  | longText
  | absInt
  | absLong
  | minInt
  | maxInt
  | minLong
  | maxLong
  | upperCase
  | lowerCase
  deriving DecidableEq, Repr

namespace Intrinsic

/-- Every intrinsic once. -/
def all : List Intrinsic :=
  [.stringLength, .stringHash, .stringEquals, .textOfInt, .textOfLong, .textOfChar, .textOfBoolean,
   .parseInt, .integerText, .longText, .absInt, .absLong, .minInt, .maxInt, .minLong, .maxLong,
   .upperCase, .lowerCase]

/-- The method of an intrinsic. -/
def member : Intrinsic → Member
  | .stringLength => ⟨"java/lang/String", "length", "()I"⟩
  | .stringHash => ⟨"java/lang/String", "hashCode", "()I"⟩
  | .stringEquals => ⟨"java/lang/String", "equals", "(Ljava/lang/Object;)Z"⟩
  | .textOfInt => ⟨"java/lang/String", "valueOf", "(I)Ljava/lang/String;"⟩
  | .textOfLong => ⟨"java/lang/String", "valueOf", "(J)Ljava/lang/String;"⟩
  | .textOfChar => ⟨"java/lang/String", "valueOf", "(C)Ljava/lang/String;"⟩
  | .textOfBoolean => ⟨"java/lang/String", "valueOf", "(Z)Ljava/lang/String;"⟩
  | .parseInt => ⟨"java/lang/Integer", "parseInt", "(Ljava/lang/String;)I"⟩
  | .integerText => ⟨"java/lang/Integer", "toString", "(I)Ljava/lang/String;"⟩
  | .longText => ⟨"java/lang/Long", "toString", "(J)Ljava/lang/String;"⟩
  | .absInt => ⟨"java/lang/Math", "abs", "(I)I"⟩
  | .absLong => ⟨"java/lang/Math", "abs", "(J)J"⟩
  | .minInt => ⟨"java/lang/Math", "min", "(II)I"⟩
  | .maxInt => ⟨"java/lang/Math", "max", "(II)I"⟩
  | .minLong => ⟨"java/lang/Math", "min", "(JJ)J"⟩
  | .maxLong => ⟨"java/lang/Math", "max", "(JJ)J"⟩
  | .upperCase => ⟨"java/lang/Character", "toUpperCase", "(C)C"⟩
  | .lowerCase => ⟨"java/lang/Character", "toLowerCase", "(C)C"⟩

/-- The intrinsic of a method. -/
def ofMember? (member : Member) : Option Intrinsic :=
  all.find? fun intrinsic => intrinsic.member = member

/-- The number of code units of a text, if a 32-bit integer can count them. -/
def lengthOf? (text : String) : Option Int32 :=
  let count := Text.unitCount text.toList
  if count < 0x80000000 then some (Int32.ofNat count) else none

/-- The hash of a text over its code units. -/
def hashOf (text : String) : Int32 :=
  Text.unitsHash (Text.units text.toList)

/-- The decimal text of an integer. -/
def decimalText (value : Int) : String :=
  String.ofList (Decimal.write value)

/-- The character with a code held as an integer. -/
def charOf? (code : Int32) : Option Char :=
  if 0 ≤ code.toInt then Text.ofCode? code.toInt.toNat else none

/-- The character that a case mapping gives for a code held as an integer. -/
def mapCase? (mapping : Text.CaseMapping) (code : Int32) : Option UInt16 :=
  match charOf? code with
  | some char => mapping.unit? char
  | none => none

/-- The absolute value, where the least integer stays as it is. -/
def absInt32 (value : Int32) : Int32 :=
  if value < 0 then -value else value

/-- The absolute value, where the least integer stays as it is. -/
def absInt64 (value : Int64) : Int64 :=
  if value < 0 then -value else value

/-- The result of an intrinsic for arguments in their form on the stack. -/
def evaluate : Intrinsic → List Constant → Option Constant
  | .stringLength, [.text text] => (lengthOf? text).map (.number <| .int ·)
  | .stringHash, [.text text] => some (.number (.int (hashOf text)))
  | .stringEquals, [.text left, .text right] => some (.number (.boolean (left == right)))
  | .textOfInt, [.number (.int value)] => some (.text (decimalText value.toInt))
  | .textOfLong, [.number (.long value)] => some (.text (decimalText value.toInt))
  | .textOfChar, [.number (.int value)] => (charOf? value).map fun char => .text (String.ofList [char])
  | .textOfBoolean, [.number (.int value)] => some (.text (if value = 0 then "false" else "true"))
  | .parseInt, [.text text] => (Decimal.readInt32? text.toList).map (.number <| .int ·)
  | .integerText, [.number (.int value)] => some (.text (decimalText value.toInt))
  | .longText, [.number (.long value)] => some (.text (decimalText value.toInt))
  | .absInt, [.number (.int value)] => some (.number (.int (absInt32 value)))
  | .absLong, [.number (.long value)] => some (.number (.long (absInt64 value)))
  | .minInt, [.number (.int left), .number (.int right)] =>
    some (.number (.int (if left ≤ right then left else right)))
  | .maxInt, [.number (.int left), .number (.int right)] =>
    some (.number (.int (if left ≤ right then right else left)))
  | .minLong, [.number (.long left), .number (.long right)] =>
    some (.number (.long (if left ≤ right then left else right)))
  | .maxLong, [.number (.long left), .number (.long right)] =>
    some (.number (.long (if left ≤ right then right else left)))
  | .upperCase, [.number (.int value)] => (mapCase? .upper value).map (.number <| .char ·)
  | .lowerCase, [.number (.int value)] => (mapCase? .lower value).map (.number <| .char ·)
  | _, _ => none

/-- The arguments of a call, if all of them are known. -/
def allKnown? : List (Option Constant) → Option (List Constant)
  | [] => some []
  | some known :: rest => (allKnown? rest).map (known :: ·)
  | none :: _ => none

/-- The result of a method for arguments of which each is known or not. -/
def fold (method : Member) (arguments : List (Option Constant)) : Resolution :=
  match ofMember? method, allKnown? arguments with
  | some intrinsic, some known => intrinsic.evaluate known
  | _, _ => none

/-- The answer to a query: the result of a call that can be evaluated. -/
def answer : Query → Resolution
  | .field .. => none
  | .call _ member arguments => fold member (arguments.map Query.argumentKey)

/-- What is reported of a query: the evaluation, if there was one. -/
def events (query : Query) : List Event :=
  match answer query with
  | some value => [.folded query.member value]
  | none => []

end Intrinsic

end ConstProp
