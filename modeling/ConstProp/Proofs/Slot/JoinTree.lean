import ConstProp.Proofs.Slot.Agreement

/-!
# Joins over many paths

Where more than two paths meet, their values are joined two by two. A join tree says which joins are
made: its leaves are the incoming values, and each inner node joins what its branches give, all at one
site.

What comes out depends on the incoming values alone and not on their order or on the shape of the tree.
Unanimous values leave the leftmost of them, pinned if any of them is (`eval_of_unanimous`); all others
leave the unknown of the site (`mergeSite?_eval_of_not_unanimous`), even if some of the incoming values
were merged before, at this site or elsewhere.
-/

namespace ConstProp

/-- The joins that bring the values of several paths together. -/
inductive JoinTree where
  | leaf (value : SlotValue)
  | node (left right : JoinTree)

namespace JoinTree

/-- The incoming values from left to right. -/
def leaves : JoinTree → List SlotValue
  | leaf value => [value]
  | node left right => left.leaves ++ right.leaves

/-- The leftmost incoming value. -/
def first : JoinTree → SlotValue
  | leaf value => value
  | node left _ => left.first

/-- The value that the joins give at a site. -/
def eval (site : MergeSite) : JoinTree → SlotValue
  | leaf value => value
  | node left right => (left.eval site).join (right.eval site) site

/-- Any two of the values agree. -/
def Unanimous (values : List SlotValue) : Prop :=
  ∀ left ∈ values, ∀ right ∈ values, left.agrees right = true

instance (values : List SlotValue) : Decidable (Unanimous values) :=
  inferInstanceAs (Decidable (∀ left ∈ values, ∀ right ∈ values, left.agrees right = true))

theorem Unanimous.of_subset {values others : List SlotValue} (unanimous : Unanimous values)
    (subset : others ⊆ values) : Unanimous others := by
  intro left leftMember right rightMember
  exact unanimous left (subset leftMember) right (subset rightMember)

/-- Values that all agree with one value are unanimous. -/
theorem Unanimous.of_forall_agrees {values : List SlotValue} (common : SlotValue)
    (agree : ∀ value ∈ values, common.agrees value = true) : Unanimous values := by
  intro left leftMember right rightMember
  exact SlotValue.agrees_trans (SlotValue.agrees_symm (agree left leftMember))
    (agree right rightMember)

theorem first_mem_leaves (tree : JoinTree) : tree.first ∈ tree.leaves := by
  induction tree with
  | leaf value => simp [first, leaves]
  | node left right leftHypothesis _ => simp [first, leaves, leftHypothesis]

/-- The joins keep the type of the leftmost value. -/
@[simp] theorem type_eval (tree : JoinTree) (site : MergeSite) :
    (tree.eval site).type = tree.first.type := by
  induction tree with
  | leaf value => rfl
  | node left right leftHypothesis _ => simp [eval, first, leftHypothesis]

/-- Unanimous values leave the leftmost of them, pinned if any of them is. -/
theorem eval_of_unanimous {tree : JoinTree} (unanimous : Unanimous tree.leaves)
    (site : MergeSite) :
    tree.eval site = { tree.first with isPinned := tree.leaves.any (·.isPinned) } := by
  induction tree with
  | leaf value => simp [eval, first, leaves]
  | node left right leftHypothesis rightHypothesis =>
    have leftValue := leftHypothesis (unanimous.of_subset (List.subset_append_left _ _))
    have rightValue := rightHypothesis (unanimous.of_subset (List.subset_append_right _ _))
    have agree : left.first.agrees right.first = true :=
      unanimous _ (List.mem_append_left _ left.first_mem_leaves)
        _ (List.mem_append_right _ right.first_mem_leaves)
    have agreeValues : (left.eval site).agrees (right.eval site) = true := by
      rw [leftValue, rightValue]
      exact agree
    rw [eval, SlotValue.join_of_agrees agreeValues, leftValue, rightValue]
    simp [first, leaves]

/-- Unanimous values leave a value that agrees with each of them. -/
theorem eval_agrees_of_unanimous {tree : JoinTree} (unanimous : Unanimous tree.leaves)
    (site : MergeSite) {value : SlotValue} (member : value ∈ tree.leaves) :
    (tree.eval site).agrees value = true := by
  rw [eval_of_unanimous unanimous, SlotValue.agrees_setPin_left]
  exact unanimous _ tree.first_mem_leaves value member

/-- Values that are not unanimous leave the unknown of the site. -/
theorem mergeSite?_eval_of_not_unanimous {tree : JoinTree} (differ : ¬ Unanimous tree.leaves)
    (site : MergeSite) : (tree.eval site).mergeSite? = some site := by
  induction tree with
  | leaf value =>
    refine absurd ?_ differ
    simp [Unanimous, leaves]
  | node left right leftHypothesis rightHypothesis =>
    rw [eval]
    cases agree : (left.eval site).agrees (right.eval site) with
    | false => exact SlotValue.mergeSite?_join_of_not_agrees agree site
    | true =>
      -- The branches agree, so one of them is merged at the site: were both unanimous, the values
      -- of both would agree with what the left branch gives.
      by_cases leftUnanimous : Unanimous left.leaves
      · by_cases rightUnanimous : Unanimous right.leaves
        · refine absurd (Unanimous.of_forall_agrees (left.eval site) ?_) differ
          intro value member
          rcases List.mem_append.mp member with inLeft | inRight
          · exact eval_agrees_of_unanimous leftUnanimous site inLeft
          · exact SlotValue.agrees_trans agree
              (eval_agrees_of_unanimous rightUnanimous site inRight)
        · have rightMerged := rightHypothesis rightUnanimous
          have leftMerged := (SlotValue.mergeSite?_eq_of_agrees agree).trans rightMerged
          exact SlotValue.mergeSite?_join_of_left leftMerged _
      · exact SlotValue.mergeSite?_join_of_left (leftHypothesis leftUnanimous) _

/-- The producer of what unanimous values leave must stay in the code exactly when that of one of them
must. -/
theorem isRequired_eval_of_unanimous {tree : JoinTree} (unanimous : Unanimous tree.leaves)
    (site : MergeSite) :
    (tree.eval site).isRequired = true ↔ ∃ value ∈ tree.leaves, value.isRequired = true := by
  have required : (tree.eval site).isRequired = true ↔
      (∃ value ∈ tree.leaves, value.isPinned = true) ∨ tree.first.isKnown = false := by
    rw [eval_of_unanimous unanimous]
    simp [SlotValue.isRequired, SlotValue.isKnown]
  rw [required]
  constructor
  · rintro (⟨value, member, pinned⟩ | unknown)
    · exact ⟨value, member, by simp [SlotValue.isRequired, pinned]⟩
    · exact ⟨tree.first, tree.first_mem_leaves, SlotValue.isRequired_of_isKnown unknown⟩
  · rintro ⟨value, member, valueRequired⟩
    have alike := SlotValue.isKnown_eq_of_agrees (unanimous _ tree.first_mem_leaves _ member)
    rw [SlotValue.isRequired, Bool.or_eq_true] at valueRequired
    rcases valueRequired with pinned | unknown
    · exact Or.inl ⟨value, member, pinned⟩
    · exact Or.inr (by simpa [alike] using unknown)

/-- The values that two trees over the same incoming values give agree. -/
theorem eval_agrees_of_perm {first second : JoinTree}
    (perm : first.leaves.Perm second.leaves) (site : MergeSite) :
    (first.eval site).agrees (second.eval site) = true := by
  by_cases unanimous : Unanimous first.leaves
  · have secondUnanimous : Unanimous second.leaves := unanimous.of_subset perm.symm.subset
    have shared : first.first ∈ second.leaves := perm.subset first.first_mem_leaves
    have firstAgrees := eval_agrees_of_unanimous unanimous site first.first_mem_leaves
    have secondAgrees := eval_agrees_of_unanimous secondUnanimous site shared
    exact SlotValue.agrees_trans firstAgrees (SlotValue.agrees_symm secondAgrees)
  · have secondDiffer : ¬ Unanimous second.leaves :=
      fun secondUnanimous => unanimous (secondUnanimous.of_subset perm.subset)
    exact SlotValue.agrees_of_mergeSite? (mergeSite?_eval_of_not_unanimous unanimous site)
      (mergeSite?_eval_of_not_unanimous secondDiffer site)

/-- The values that two trees over the same incoming values give are required alike. -/
theorem isRequired_eval_eq_of_perm {first second : JoinTree}
    (perm : first.leaves.Perm second.leaves) (site : MergeSite) :
    (first.eval site).isRequired = (second.eval site).isRequired := by
  have alike := SlotValue.isKnown_eq_of_agrees (eval_agrees_of_perm perm site)
  by_cases unanimous : Unanimous first.leaves
  · have secondUnanimous : Unanimous second.leaves := unanimous.of_subset perm.symm.subset
    rw [Bool.eq_iff_iff, isRequired_eval_of_unanimous unanimous,
      isRequired_eval_of_unanimous secondUnanimous]
    simp only [perm.mem_iff]
  · have unknown := SlotValue.isKnown_of_mergeSite?
      (mergeSite?_eval_of_not_unanimous unanimous site)
    rw [SlotValue.isRequired_of_isKnown unknown,
      SlotValue.isRequired_of_isKnown (alike.symm.trans unknown)]

/-- Whatever the order and the bracketing in which values are joined at a site, unanimous ones leave the
leftmost of them, required if any of them is, and others leave the unknown of the site, which has no
instruction to rebuild it. Two ways of joining the same values give values that agree, known and
required alike. -/
theorem eval_order_independent (values : List SlotValue) (site : MergeSite) (tree : JoinTree)
    (arranged : tree.leaves.Perm values) :
    (Unanimous values →
      (∀ value ∈ values, (tree.eval site).agrees value = true) ∧
        (tree.eval site).type = tree.first.type ∧
        (tree.eval site).producer = tree.first.producer ∧
        (tree.eval site).mergeSite? = tree.first.mergeSite? ∧
        ((tree.eval site).isRequired = true ↔ ∃ value ∈ values, value.isRequired = true)) ∧
    (¬ Unanimous values →
      (tree.eval site).isKnown = false ∧
        (tree.eval site).mergeSite? = some site ∧
        (tree.eval site).type = tree.first.type ∧
        (tree.eval site).isRequired = true ∧
        (tree.eval site).stackValue? = none ∧
        ∀ body relabeling,
          (tree.eval site).rebuild body relabeling = .error (.notMaterializable site)) ∧
    ∀ other : JoinTree, other.leaves.Perm values →
      (other.eval site).agrees (tree.eval site) = true ∧
        (other.eval site).isKnown = (tree.eval site).isKnown ∧
        (other.eval site).isRequired = (tree.eval site).isRequired := by
  refine ⟨?_, ?_, ?_⟩
  · intro unanimous
    have leavesUnanimous : Unanimous tree.leaves := unanimous.of_subset arranged.subset
    have value := eval_of_unanimous leavesUnanimous site
    refine ⟨?_, tree.type_eval site, by rw [value], by rw [value]; rfl, ?_⟩
    · intro value member
      exact eval_agrees_of_unanimous leavesUnanimous site (arranged.mem_iff.mpr member)
    · rw [isRequired_eval_of_unanimous leavesUnanimous]
      simp only [arranged.mem_iff]
  · intro differ
    have merged : (tree.eval site).mergeSite? = some site :=
      mergeSite?_eval_of_not_unanimous
        (fun unanimous => differ (unanimous.of_subset arranged.symm.subset)) site
    have unknown := SlotValue.isKnown_of_mergeSite? merged
    exact ⟨unknown, merged, tree.type_eval site, SlotValue.isRequired_of_isKnown unknown,
      SlotValue.stackValue?_of_mergeSite? merged, SlotValue.rebuild_of_mergeSite? merged⟩
  · intro other otherArranged
    have perm : other.leaves.Perm tree.leaves := otherArranged.trans arranged.symm
    have agree := eval_agrees_of_perm perm site
    exact ⟨agree, SlotValue.isKnown_eq_of_agrees agree, isRequired_eval_eq_of_perm perm site⟩

/-- A character and a pinned byte of the same code are unanimous and leave the character, pinned; with a
value that was merged at the same site among them they leave the unknown of the site, in either order. -/
theorem eval_order_independent_code :
    let site : MergeSite := ⟨⟨7⟩, 0⟩
    let letter := SlotValue.ofNumber .int ⟨0⟩ (.char 65)
    let code := (SlotValue.ofNumber .int ⟨1⟩ (.byte 65)).pin
    let merged := SlotValue.mergedAt site .int
    let alike := JoinTree.node (.leaf letter) (.leaf code)
    let mixed := JoinTree.node (.leaf code) (.node (.leaf merged) (.leaf letter))
    let other := JoinTree.node (.node (.leaf merged) (.leaf code)) (.leaf letter)
    (alike.leaves.Perm [code, letter] ∧ Unanimous [code, letter] ∧
      (alike.eval site).producer = ⟨0⟩ ∧ (alike.eval site).isRequired = true) ∧
    (mixed.leaves.Perm [letter, code, merged] ∧ other.leaves.Perm [letter, code, merged] ∧
      ¬ Unanimous [letter, code, merged] ∧ (mixed.eval site).mergeSite? = some site ∧
      (other.eval site).agrees (mixed.eval site) = true) := by
  intro site letter code merged alike mixed other
  have unanimous : Unanimous [code, letter] := by decide
  have differ : ¬ Unanimous [letter, code, merged] := by decide
  have alikeArranged : alike.leaves.Perm [code, letter] := by decide
  have mixedArranged : mixed.leaves.Perm [letter, code, merged] := by decide
  have otherArranged : other.leaves.Perm [letter, code, merged] := by decide
  obtain ⟨whenUnanimous, _, _⟩ := eval_order_independent _ site alike alikeArranged
  obtain ⟨_, whenDifferent, whenReordered⟩ := eval_order_independent _ site mixed mixedArranged
  obtain ⟨_, _, producer, _, required⟩ := whenUnanimous unanimous
  obtain ⟨_, mergedThere, _⟩ := whenDifferent differ
  exact ⟨⟨alikeArranged, unanimous, producer, required.mpr ⟨code, by decide, by decide⟩⟩,
    mixedArranged, otherArranged, differ, mergedThere, (whenReordered other otherArranged).1⟩

end JoinTree

end ConstProp
