import ConstProp.Slot.Value

/-!
# Fingerprints

The sequence of typed items that stands for a constant or a slot value where only its identity matters,
and how many different ones a list holds. Two things are counted as one if both their fingerprints and
they themselves are equal.

Main statements: constants are equal if and only if their fingerprints are
(`Constant.fingerprint_inj`), and slot values agree if and only if theirs are
(`SlotValue.fingerprint_inj`).
-/

namespace ConstProp

/-- An item of a fingerprint. -/
inductive Atom where
  | tag (index : Nat)
  | int8 (value : Int8)
  | int16 (value : Int16)
  | int32 (value : Int32)
  | int64 (value : Int64)
  | word16 (value : UInt16)
  | word32 (value : UInt32)
  | word64 (value : UInt64)
  | flag (value : Bool)
  | text (value : String)
  deriving DecidableEq, Repr

/-- The payload of a number as an item. -/
def Number.atom : Number → Atom
  | .byte value => .int8 value
  | .short value => .int16 value
  | .int value => .int32 value
  | .long value => .int64 value
  | .float bits => .word32 bits
  | .double bits => .word64 bits
  | .char unit => .word16 unit
  | .boolean value => .flag value

/-- The number of a kind in the order of the kinds. -/
def Constant.Kind.index : Constant.Kind → Nat
  | .byte => 0
  | .short => 1
  | .int => 2
  | .long => 3
  | .float => 4
  | .double => 5
  | .char => 6
  | .boolean => 7
  | .string => 8
  | .type => 9

/-- The fingerprint of a constant: its kind and its payload. -/
def Constant.fingerprint (constant : Constant) : List Atom :=
  let payload :=
    match constant with
    | .number value => value.atom
    | .text value => .text value
    | .classLiteral name => .text name
  [.tag constant.kind.index, payload]

/-- The fingerprint of a slot value: of a known one its form on the stack, of an unknown one where it
comes from. -/
def SlotValue.fingerprint (value : SlotValue) : List Atom :=
  match value.payload with
  | .number number => .tag 0 :: (Constant.number number.computational).fingerprint
  | .text text => [.tag 1, .text text]
  | .produced => [.tag 2, .word32 value.producer.index, .tag 0]
  | .merged slot => [.tag 2, .word32 value.producer.index, .tag 1, .word32 slot]

/-- Adds an element to a collection unless it is there already by its fingerprint and by comparison. -/
def insertDistinct {α : Type} (fingerprint : α → List Atom) (same : α → α → Bool)
    (collected : List α) (element : α) : List α :=
  if collected.any fun present =>
      fingerprint present == fingerprint element && same present element
  then collected
  else element :: collected

/-- The number of different constants in a list. -/
def Constant.countDistinct (constants : List Constant) : Nat :=
  (constants.foldl (insertDistinct Constant.fingerprint (· == ·)) []).length

/-- The number of slot values in a list of which no two agree. -/
def SlotValue.countDistinct (values : List SlotValue) : Nat :=
  (values.foldl (insertDistinct SlotValue.fingerprint SlotValue.agrees) []).length

/-- Constants are equal if and only if their fingerprints are. -/
theorem Constant.fingerprint_inj {left right : Constant} :
    left.fingerprint = right.fingerprint ↔ left = right := by
  refine ⟨fun same => ?_, fun same => same ▸ rfl⟩
  rcases left with (_ | _ | _ | _ | _ | _ | _ | _) | _ | _ <;>
    rcases right with (_ | _ | _ | _ | _ | _ | _ | _) | _ | _ <;>
    simp_all [fingerprint, kind, Number.kind, Kind.index, Number.atom]

/-- Slot values agree if and only if their fingerprints are equal. -/
theorem SlotValue.fingerprint_inj {left right : SlotValue} :
    left.fingerprint = right.fingerprint ↔ left.agrees right = true := by
  rcases left with ⟨_, ⟨_⟩, first, _⟩
  rcases right with ⟨_, ⟨_⟩, second, _⟩
  cases first <;> cases second <;> simp [fingerprint, agrees, Constant.fingerprint_inj]

end ConstProp
