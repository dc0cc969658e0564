import ConstProp.Text.CaseTable

/-!
# Case mapping of code units

The case mapping of one character whose counterpart is one code unit. A character whose mapping is a
sequence has no such counterpart, and neither has a character outside the first plane, since its
mapping lies outside it too.
-/

namespace ConstProp.Text

/-- Whether a run holds a code. -/
def CaseRun.covers (run : CaseRun) (code : Nat) : Bool :=
  run.first ≤ code && code ≤ run.last && (code - run.first) % run.stride == 0

namespace CaseMapping

/-- Whether a code maps to a sequence of several characters. -/
def expands (mapping : CaseMapping) (code : Nat) : Bool :=
  mapping.expanding.any fun span => span.1 ≤ code && code ≤ span.2

/-- The code that a code of the first plane maps to; a code in no run maps to itself. -/
def image (mapping : CaseMapping) (code : Nat) : Nat :=
  match mapping.runs.find? fun run => run.covers code with
  | some run => (code + run.shift).toNat
  | none => code

/-- The code unit that a character maps to. -/
def unit? (mapping : CaseMapping) (char : Char) : Option UInt16 :=
  if 0x10000 ≤ char.toNat || mapping.expands char.toNat then none
  else some (mapping.image char.toNat).toUInt16

end CaseMapping

end ConstProp.Text
