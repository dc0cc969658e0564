import ConstProp.Bytecode.Instruction
import Mathlib.Data.List.Induction

/-!
# Relabeling instructions

A relabeling is put together from pairs of labels, and in whatever way that is done, the last pair for a
label says where it goes (`Relabeling.BuiltFrom.image_eq`).

What a relabeling does to an instruction shows in the list of labels that the instruction mentions, and in
nothing else: without its labels the instruction is the same before and after
(`Instruction.unlabeled_mapLabels`), and so is all that can be told of it without looking at them
(`Instruction.outline_eq_of_unlabeled_eq`). Two relabelings in a row are one that composes them on the
labels of the instruction (`Instruction.relabel_relabel`).
-/

namespace ConstProp

namespace Relabeling

/-- A relabeling that was put together from pairs of labels in their order: from none, from a list of
them at once, or by inserting a further pair. -/
inductive BuiltFrom : List (Label × Label) → Relabeling → Prop where
  | empty : BuiltFrom [] empty
  | ofList (pairs : List (Label × Label)) : BuiltFrom pairs (ofList pairs)
  | insert {pairs : List (Label × Label)} {relabeling : Relabeling}
      (built : BuiltFrom pairs relabeling) (label target : Label) :
      BuiltFrom (pairs ++ [(label, target)]) (relabeling.insert label target)

/-- Where the last of the pairs for a label sends it. -/
def lastTarget? (pairs : List (Label × Label)) (label : Label) : Option Label :=
  (pairs.filter fun pair => pair.1 = label).getLast?.map Prod.snd

/-- A further pair decides about its own label and no other. -/
theorem lastTarget?_concat (pairs : List (Label × Label)) (label target other : Label) :
    lastTarget? (pairs ++ [(label, target)]) other =
      if other = label then some target else lastTarget? pairs other := by
  by_cases same : label = other
  · simp [lastTarget?, same]
  · simp [lastTarget?, same, Ne.symm same]

@[simp] theorem ofList_concat (pairs : List (Label × Label)) (label target : Label) :
    ofList (pairs ++ [(label, target)]) = (ofList pairs).insert label target := by
  simp [ofList]

/-- In a list of pairs, the last one for a label is the one that counts. -/
theorem target?_ofList (pairs : List (Label × Label)) (label : Label) :
    (ofList pairs).target? label = lastTarget? pairs label := by
  induction pairs using List.reverseRecOn with
  | nil => rfl
  | append_singleton earlier pair inductionHypothesis =>
    rw [ofList_concat, target?_insert, lastTarget?_concat, inductionHypothesis]

namespace BuiltFrom

variable {pairs : List (Label × Label)} {relabeling : Relabeling}

/-- Pairs that are inserted one after the other give the relabeling of their list. -/
theorem eq_ofList (built : BuiltFrom pairs relabeling) : relabeling = .ofList pairs := by
  induction built with
  | empty => rfl
  | ofList pairs => rfl
  | insert _ label target inductionHypothesis => rw [inductionHypothesis, ofList_concat]

/-- A label goes where its last pair sends it, and stays if there is none. -/
theorem image_eq (built : BuiltFrom pairs relabeling) (label : Label) :
    relabeling.image label = (lastTarget? pairs label).getD label := by
  rw [image, built.eq_ofList, target?_ofList]

end BuiltFrom

end Relabeling

namespace Instruction

/-- The range of the indices by which a switch chooses. -/
def switchBounds? : Instruction → Option (Int32 × Int32)
  | .tableSwitch low high _ _ => some (low, high)
  | _ => none

/-- The keys by which a switch chooses. -/
def switchKeys? : Instruction → Option (List Int32)
  | .lookupSwitch _ keys _ => some keys
  | _ => none

/-- The instruction with one and the same label wherever it mentions any. -/
def unlabeled : Instruction → Instruction
  | .jump opcode _ => .jump opcode ⟨0⟩
  | .mark _ => .mark ⟨0⟩
  | .tableSwitch low high _ targets => .tableSwitch low high ⟨0⟩ (.replicate targets.length ⟨0⟩)
  | .lookupSwitch _ keys targets => .lookupSwitch ⟨0⟩ keys (.replicate targets.length ⟨0⟩)
  | .line number _ => .line number ⟨0⟩
  | instruction => instruction

@[simp] theorem unlabeled_mapLabels (change : Label → Label) (instruction : Instruction) :
    (instruction.mapLabels change).unlabeled = instruction.unlabeled := by
  cases instruction <;> simp [mapLabels, unlabeled]

/-- What can be told of an instruction without looking at its labels. -/
structure Outline where
  shape : Shape
  opcode : Option Opcode
  member : Option Member
  pushed : Option Constant
  mayProduceValue : Bool
  switchBounds : Option (Int32 × Int32)
  switchKeys : Option (List Int32)

/-- The outline of an instruction. -/
def outline (instruction : Instruction) : Outline where
  shape := instruction.shape
  opcode := instruction.opcode?
  member := instruction.member?
  pushed := instruction.pushed?
  mayProduceValue := instruction.mayProduceValue
  switchBounds := instruction.switchBounds?
  switchKeys := instruction.switchKeys?

/-- The outline does not depend on labels. -/
theorem outline_unlabeled (instruction : Instruction) :
    instruction.unlabeled.outline = instruction.outline := by
  cases instruction <;> rfl

/-- Instructions that are the same without their labels have the same outline. -/
theorem outline_eq_of_unlabeled_eq {first second : Instruction}
    (same : first.unlabeled = second.unlabeled) : first.outline = second.outline := by
  calc first.outline = first.unlabeled.outline := first.outline_unlabeled.symm
    _ = second.unlabeled.outline := by rw [same]
    _ = second.outline := second.outline_unlabeled

/-- Two relabelings in a row are one that composes them on the labels of the instruction; elsewhere it may
do as it likes. -/
theorem relabel_relabel {instruction : Instruction} {first second composite : Relabeling}
    (composes : ∀ label ∈ instruction.labels,
      composite.image label = second.image (first.image label)) :
    (instruction.relabel first).relabel second = instruction.relabel composite := by
  calc (instruction.relabel first).relabel second
      = instruction.mapLabels (second.image ∘ first.image) :=
        instruction.mapLabels_mapLabels first.image second.image
    _ = instruction.relabel composite :=
        mapLabels_congr fun label mentioned => (composes label mentioned).symm

/-- A relabeling sends the labels that an instruction mentions where they go, in their order, and leaves
all else about it. The empty one changes nothing; two in a row are one that composes them on the labels of
the instruction, and change nothing if the second sends these labels back. A relabeling that is put
together from pairs is the same however that is done, and of the pairs for a label the last one counts. -/
theorem relabel_functorial (instruction : Instruction) (first second : Relabeling) :
    (instruction.relabel first).labels = instruction.labels.map first.image ∧
    (instruction.relabel first).unlabeled = instruction.unlabeled ∧
    (instruction.relabel first).outline = instruction.outline ∧
    instruction.relabel .empty = instruction ∧
    (∀ composite : Relabeling,
      (∀ label ∈ instruction.labels,
        composite.image label = second.image (first.image label)) →
      (instruction.relabel first).relabel second = instruction.relabel composite) ∧
    ((∀ label ∈ instruction.labels, second.image (first.image label) = label) →
      (instruction.relabel first).relabel second = instruction) ∧
    ∀ pairs, Relabeling.BuiltFrom pairs first →
      first = .ofList pairs ∧
      ∀ label, first.image label = (Relabeling.lastTarget? pairs label).getD label := by
  have unlabeled := instruction.unlabeled_mapLabels first.image
  refine ⟨?_, unlabeled, outline_eq_of_unlabeled_eq unlabeled, ?_, ?_, ?_, ?_⟩
  · exact instruction.labels_mapLabels first.image
  · exact instruction.relabel_empty
  · intro composite composes
    exact relabel_relabel composes
  · intro returns
    -- What sends every label back is composed to the empty relabeling.
    have asEmpty : (instruction.relabel first).relabel second = instruction.relabel .empty :=
      relabel_relabel fun label mentioned => (returns label mentioned).symm
    rw [asEmpty, relabel_empty]
  · intro pairs built
    exact ⟨built.eq_ofList, built.image_eq⟩

/-- A relabeling exchanges the first two labels of a switch, since a later pair replaces the one that sent
the first elsewhere. A second relabeling that is composed with it takes the switch further; the exchange
itself takes it back. -/
theorem relabel_functorial_switch :
    let switch : Instruction := .lookupSwitch ⟨0⟩ [-1, 5] [⟨1⟩, ⟨2⟩]
    let pairs : List (Label × Label) := [(⟨0⟩, ⟨9⟩), (⟨1⟩, ⟨0⟩), (⟨0⟩, ⟨1⟩)]
    let exchange := (Relabeling.ofList [(⟨0⟩, ⟨9⟩), (⟨1⟩, ⟨0⟩)]).insert ⟨0⟩ ⟨1⟩
    let further : Relabeling := .ofList [(⟨1⟩, ⟨0⟩), (⟨2⟩, ⟨6⟩)]
    let composite : Relabeling := .ofList [(⟨1⟩, ⟨0⟩), (⟨2⟩, ⟨6⟩), (⟨8⟩, ⟨3⟩)]
    Relabeling.BuiltFrom pairs exchange ∧ exchange = .ofList pairs ∧ exchange.image ⟨0⟩ = ⟨1⟩ ∧
      switch.relabel exchange = .lookupSwitch ⟨1⟩ [-1, 5] [⟨0⟩, ⟨2⟩] ∧
      (∀ label ∈ switch.labels, composite.image label = further.image (exchange.image label)) ∧
      (switch.relabel exchange).relabel further = switch.relabel composite ∧
      (∀ label ∈ switch.labels, exchange.image (exchange.image label) = label) ∧
      (switch.relabel exchange).relabel exchange = switch := by
  intro switch pairs exchange further composite
  have built : Relabeling.BuiltFrom pairs exchange :=
    .insert (.ofList [(⟨0⟩, ⟨9⟩), (⟨1⟩, ⟨0⟩)]) ⟨0⟩ ⟨1⟩
  have composes : ∀ label ∈ switch.labels,
      composite.image label = further.image (exchange.image label) := by decide
  have returns : ∀ label ∈ switch.labels, exchange.image (exchange.image label) = label := by decide
  obtain ⟨_, _, _, _, _, back, _⟩ := relabel_functorial switch exchange exchange
  obtain ⟨_, _, _, _, inTurn, _, assembled⟩ := relabel_functorial switch exchange further
  obtain ⟨same, images⟩ := assembled pairs built
  exact ⟨built, same, images ⟨0⟩, rfl, composes, inTurn composite composes, returns, back returns⟩

end Instruction

end ConstProp
