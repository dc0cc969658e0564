import ConstProp.Fingerprint
import Mathlib.Data.Finset.Card
import Mathlib.Data.Finset.Image

/-!
# Counting different constants and values

A set keeps an element unless it holds one with the same digest that compares as equal. What is equal has
the same fingerprint, hence the same digest, so the digest decides nothing by itself: such a set has one
element for each class of equal ones, whatever the digest, the order and the repetitions
(`length_foldl_insertDistinct`). Among constants the classes are the constants themselves, among slot values
they are the classes of agreement.

The form of a constant on the stack is a function of its form in a load, and this one of the constant, so
neither form tells more constants apart (`counts_by_equality`).
-/

namespace ConstProp

section Sets

variable {α β : Type} [DecidableEq β] {classOf : α → β} {print : α → List Atom} {same : α → α → Bool}
  (same_iff : ∀ left right, same left right = true ↔ classOf left = classOf right)
  (print_eq : ∀ left right, classOf left = classOf right → print left = print right)

include same_iff print_eq

/-- An element is added exactly if no element of its class is there. -/
theorem insertDistinct_eq (collected : List α) (element : α) :
    insertDistinct print same collected element =
      if classOf element ∈ collected.map classOf then collected else element :: collected := by
  have present_iff : (collected.any fun present =>
      print present == print element && same present element) = true ↔
        classOf element ∈ collected.map classOf := by
    rw [List.any_eq_true, List.mem_map]
    refine exists_congr fun present => and_congr_right fun _ => ?_
    rw [Bool.and_eq_true, beq_iff_eq, same_iff]
    exact ⟨And.right, fun equal => ⟨print_eq _ _ equal, equal⟩⟩
  simp only [insertDistinct, present_iff]

theorem nodup_insertDistinct {collected : List α} (distinct : (collected.map classOf).Nodup)
    (element : α) : ((insertDistinct print same collected element).map classOf).Nodup := by
  rw [insertDistinct_eq same_iff print_eq]
  split
  case isTrue => exact distinct
  case isFalse absent =>
    rw [List.map_cons]
    exact List.nodup_cons.mpr ⟨absent, distinct⟩

theorem mem_insertDistinct_iff (collected : List α) (element : α) (cls : β) :
    cls ∈ (insertDistinct print same collected element).map classOf ↔
      cls = classOf element ∨ cls ∈ collected.map classOf := by
  rw [insertDistinct_eq same_iff print_eq]
  split
  case isTrue present => exact ⟨Or.inr, fun found => found.elim (fun new => new ▸ present) id⟩
  case isFalse => rw [List.map_cons, List.mem_cons]

/-- A set never holds two elements of one class. -/
theorem nodup_foldl_insertDistinct (elements : List α) {collected : List α}
    (distinct : (collected.map classOf).Nodup) :
    ((elements.foldl (insertDistinct print same) collected).map classOf).Nodup := by
  induction elements generalizing collected with
  | nil => exact distinct
  | cons element rest inductionHypothesis =>
    exact inductionHypothesis (nodup_insertDistinct same_iff print_eq distinct element)

/-- A set holds an element of each class that came, and of no other. -/
theorem mem_foldl_insertDistinct_iff (elements collected : List α) (cls : β) :
    cls ∈ (elements.foldl (insertDistinct print same) collected).map classOf ↔
      cls ∈ elements.map classOf ∨ cls ∈ collected.map classOf := by
  induction elements generalizing collected with
  | nil => simp
  | cons element rest inductionHypothesis =>
    rw [List.foldl_cons, inductionHypothesis, mem_insertDistinct_iff same_iff print_eq, List.map_cons,
      List.mem_cons, or_left_comm, or_assoc]

/-- A set has as many elements as there are classes. -/
theorem length_foldl_insertDistinct (elements : List α) :
    (elements.foldl (insertDistinct print same) []).length = (elements.map classOf).toFinset.card := by
  have blank : (([] : List α).map classOf).Nodup := List.nodup_nil
  have distinct := nodup_foldl_insertDistinct same_iff print_eq elements blank
  have members := mem_foldl_insertDistinct_iff same_iff print_eq elements []
  calc (elements.foldl (insertDistinct print same) []).length
    _ = ((elements.foldl (insertDistinct print same) []).map classOf).length := (List.length_map _).symm
    _ = ((elements.foldl (insertDistinct print same) []).map classOf).toFinset.card :=
      (List.toFinset_card_of_nodup distinct).symm
    _ = (elements.map classOf).toFinset.card := by
      congr 1
      ext cls
      simpa using members cls

end Sets

namespace Constant

/-- The number of constants in a set of those in a list that goes by a digest of their fingerprints. -/
def countHashed (digest : List Atom → List Atom) (constants : List Constant) : Nat :=
  (constants.foldl (insertDistinct (digest ∘ fingerprint) (· == ·)) []).length

/-- Whatever the digest, a set holds each constant once. -/
theorem countHashed_eq (digest : List Atom → List Atom) (constants : List Constant) :
    countHashed digest constants = constants.toFinset.card := by
  have same_iff (left right : Constant) : (left == right) = true ↔ id left = id right := beq_iff_eq
  have print_eq (left right : Constant) (equal : id left = id right) :
      (digest ∘ fingerprint) left = (digest ∘ fingerprint) right := congrArg _ equal
  have count := length_foldl_insertDistinct same_iff print_eq constants
  rwa [List.map_id] at count

theorem countDistinct_eq (constants : List Constant) :
    countDistinct constants = constants.toFinset.card :=
  countHashed_eq id constants

/-- A form of constants tells no more of them apart. -/
theorem countDistinct_map_le (form : Constant → Constant) (constants : List Constant) :
    countDistinct (constants.map form) ≤ countDistinct constants := by
  have image : (constants.map form).toFinset = constants.toFinset.image form := by
    ext constant
    simp
  rw [countDistinct_eq, countDistinct_eq, image]
  exact Finset.card_image_le

end Constant

namespace SlotValue

/-- The equivalence of slot values that agree. -/
def agreement : Setoid SlotValue where
  r left right := left.agrees right = true
  iseqv := ⟨agrees_refl, agrees_symm, agrees_trans⟩

instance : DecidableRel agreement.r :=
  fun left right => inferInstanceAs (Decidable (left.agrees right = true))

/-- The values that agree with a value. -/
def toClass (value : SlotValue) : Quotient agreement :=
  Quotient.mk agreement value

instance : DecidableEq (Quotient agreement) :=
  Quotient.decidableEq

theorem toClass_eq_iff {left right : SlotValue} :
    left.toClass = right.toClass ↔ left.agrees right = true :=
  Quotient.eq

/-- The number of values in a set of those in a list that goes by a digest of their fingerprints. -/
def countHashed (digest : List Atom → List Atom) (values : List SlotValue) : Nat :=
  (values.foldl (insertDistinct (digest ∘ fingerprint) agrees) []).length

/-- Whatever the digest, a set holds one value of each class. -/
theorem countHashed_eq (digest : List Atom → List Atom) (values : List SlotValue) :
    countHashed digest values = (values.map toClass).toFinset.card := by
  have same_iff (left right : SlotValue) : left.agrees right = true ↔ left.toClass = right.toClass :=
    toClass_eq_iff.symm
  have print_eq (left right : SlotValue) (equal : left.toClass = right.toClass) :
      (digest ∘ fingerprint) left = (digest ∘ fingerprint) right :=
    congrArg digest (fingerprint_inj.mpr (toClass_eq_iff.mp equal))
  exact length_foldl_insertDistinct same_iff print_eq values

theorem countDistinct_eq (values : List SlotValue) :
    countDistinct values = (values.map toClass).toFinset.card :=
  countHashed_eq id values

/-- A list whose values each agree with one of another list has no more different values. -/
theorem countDistinct_le {first second : List SlotValue}
    (covered : ∀ value ∈ first, ∃ other ∈ second, value.agrees other = true) :
    countDistinct first ≤ countDistinct second := by
  rw [countDistinct_eq, countDistinct_eq]
  refine Finset.card_le_card fun cls member => ?_
  rw [List.mem_toFinset, List.mem_map] at member ⊢
  obtain ⟨value, present, rfl⟩ := member
  obtain ⟨other, otherPresent, agree⟩ := covered value present
  exact ⟨other, otherPresent, (toClass_eq_iff.mpr agree).symm⟩

end SlotValue

/-- Constants are equal, and slot values agree, exactly if their fingerprints are equal. So whatever the
digest of the fingerprints, a set has as many constants as there are different ones in a list, and as many
slot values as there are classes of values that agree; it has no more of them than that of any list in which
each of them is found again, in whatever order and however often. The forms on the stack are no more than the
forms in a load, and these no more than the constants. The form on the stack is one in a load too, each form
is its own, and the form on the stack of a form in a load is that of the constant. Neither form changes the
type or which types accept the constant. -/
theorem counts_by_equality :
    (∀ left right : Constant, (left == right) = true ↔ left.fingerprint = right.fingerprint) ∧
    (∀ left right : SlotValue, left.agrees right = true ↔ left.fingerprint = right.fingerprint) ∧
    (∀ digest constants, Constant.countHashed digest constants = constants.toFinset.card) ∧
    (∀ digest values,
      SlotValue.countHashed digest values = (values.map SlotValue.toClass).toFinset.card) ∧
    (∀ constants, Constant.countDistinct constants = constants.toFinset.card) ∧
    (∀ values, SlotValue.countDistinct values = (values.map SlotValue.toClass).toFinset.card) ∧
    (∀ first second : List Constant, first ⊆ second →
      Constant.countDistinct first ≤ Constant.countDistinct second) ∧
    (∀ first second : List SlotValue,
      (∀ value ∈ first, ∃ other ∈ second, value.agrees other = true) →
        SlotValue.countDistinct first ≤ SlotValue.countDistinct second) ∧
    (∀ constants : List Constant,
      Constant.countDistinct (constants.map .computational) ≤
        Constant.countDistinct (constants.map .loadable) ∧
      Constant.countDistinct (constants.map .loadable) ≤ Constant.countDistinct constants) ∧
    ∀ constant : Constant,
      constant.computational.computational = constant.computational ∧
      constant.loadable.computational = constant.computational ∧
      constant.computational.loadable = constant.computational ∧
      SlotType.ofConstant constant.computational = SlotType.ofConstant constant ∧
      SlotType.ofConstant constant.loadable = SlotType.ofConstant constant ∧
      ∀ type : SlotType, type.accepts constant.computational = type.accepts constant ∧
        type.accepts constant.loadable = type.accepts constant := by
  refine ⟨?_, fun _ _ => SlotValue.fingerprint_inj.symm, Constant.countHashed_eq,
    SlotValue.countHashed_eq, Constant.countDistinct_eq, SlotValue.countDistinct_eq, ?_,
    fun _ _ => SlotValue.countDistinct_le, ?_, ?_⟩
  · intro left right
    rw [beq_iff_eq, Constant.fingerprint_inj]
  · intro first second within
    rw [Constant.countDistinct_eq, Constant.countDistinct_eq]
    refine Finset.card_le_card fun constant member => ?_
    exact List.mem_toFinset.mpr (within (List.mem_toFinset.mp member))
  · intro constants
    refine ⟨?_, Constant.countDistinct_map_le .loadable constants⟩
    have forms := Constant.countDistinct_map_le .computational (constants.map .loadable)
    simpa [Function.comp_def] using forms
  · intro constant
    refine ⟨by simp, by simp, by simp, by simp, by simp, fun type => ⟨?_, ?_⟩⟩
    · exact type.accepts_congr (SlotType.ofConstant_computational constant)
    · exact type.accepts_congr (SlotType.ofConstant_loadable constant)

/-- A letter as a character, an integer and a byte beside a pattern that is no number: four constants, of
which three are left in loads and two on the stack. Of slot values for them, a character pinned and in a slot
of another type is no different from the byte. -/
theorem counts_by_equality_letter :
    let letter : Constant := .number (.char 65)
    let noNumber : Constant := .number (.float 0x7fc00001)
    let second : List Constant := [.number (.byte 65), letter, noNumber, .number (.int 65), noNumber]
    let pinned := (SlotValue.ofNumber .long ⟨3⟩ (.char 65)).pin
    let values := [SlotValue.ofNumber .int ⟨0⟩ (.byte 65), SlotValue.ofText .string ⟨1⟩ "A"]
    [noNumber, letter, noNumber] ⊆ second ∧
      Constant.countDistinct [noNumber, letter, noNumber] ≤ Constant.countDistinct second ∧
      Constant.countDistinct second = 4 ∧
      Constant.countDistinct (second.map .loadable) = 3 ∧
      Constant.countDistinct (second.map .computational) = 2 ∧
      (∀ value ∈ [pinned, pinned], ∃ other ∈ values, value.agrees other = true) ∧
      SlotValue.countDistinct [pinned, pinned] ≤ SlotValue.countDistinct values ∧
      SlotValue.countHashed (fun _ => []) values = SlotValue.countDistinct values := by
  intro letter noNumber second pinned values
  obtain ⟨_, _, _, hashed, count, classes, subsets, covers, _, _⟩ := counts_by_equality
  have within : [noNumber, letter, noNumber] ⊆ second := by decide
  have covered : ∀ value ∈ [pinned, pinned], ∃ other ∈ values, value.agrees other = true := by
    decide
  refine ⟨within, subsets _ _ within, (count second).trans (by decide), (count _).trans (by decide),
    (count _).trans (by decide), covered, covers _ _ covered, ?_⟩
  rw [hashed, classes]

end ConstProp
