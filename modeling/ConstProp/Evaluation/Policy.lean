import ConstProp.Oracle.Ask

/-!
# Policies

How far an analysis trusts what it is told.
-/

namespace ConstProp

/-- The choices of an analysis. -/
structure Policy where
  /-- Fields and calls are looked up in the oracle. -/
  consultOracle : Bool
  /-- Calls of intrinsic methods are evaluated. -/
  foldIntrinsics : Bool
  /-- A call whose result the oracle knows may be dropped from the code. -/
  assumePureCalls : Bool
  /-- Answers of the oracle are cached. -/
  cacheAnswers : Bool
  deriving DecidableEq, Repr

namespace Policy

/-- Everything is looked up and evaluated, but calls stay in the code. -/
def conservative : Policy := ⟨true, true, false, true⟩

/-- Everything is looked up and evaluated, and calls may be dropped. -/
def aggressive : Policy := ⟨true, true, true, true⟩

/-- Nothing is looked up or evaluated. -/
def disabled : Policy := ⟨false, false, false, false⟩

instance : Inhabited Policy := ⟨conservative⟩

/-- The oracle that an analysis asks: the given one, behind a new cache without limit if answers are
cached. -/
def install {σ : Type} (policy : Policy) (oracle : Oracle σ) (store : Store σ) :
    Oracle σ × Store σ :=
  if policy.cacheAnswers then
    let (cell, store) := store.addCache none
    (.cached cell oracle, store)
  else (oracle, store)

end Policy

end ConstProp
