import ConstProp.Proofs.Evaluation.Workspace

/-!
# Reading rebuilt values back

A value that is rebuilt leaves an instruction in some method body, and an analysis of that body meets the
instruction again. It then finds the value that was rebuilt: a known value is loaded as one that agrees
with it (`SlotValue.IsLoadOf`), and an unknown one becomes the unknown result of the relabeled producer.
Either way the new value is rebuilt by the instruction that it came from, so nothing more is lost by
repeating this (`rebuild_reads_back`).

The constant on the way is the same from the first load on, because a loadable number stays as it is and
has the form on the stack of the number that it stands for.
-/

namespace ConstProp

namespace SlotValue

/-- A value as a load of another one puts it into a slot: known and unpinned, of the type of the slot,
produced by the load, the same as the other for the analysis and loaded by the same constant. -/
structure IsLoadOf (type : SlotType) (producer : Handle) (value loaded : SlotValue) : Prop where
  type_eq : loaded.type = type
  producer_eq : loaded.producer = producer
  known : loaded.isKnown = true
  unpinned : loaded.isPinned = false
  agrees : loaded.agrees value = true
  stackValue?_eq : loaded.stackValue? = value.stackValue?

/-- The constant that loads a value gives a value that is a load of it. -/
theorem exists_ofConstant_of_stackValue? {value : SlotValue} {constant : Constant}
    (form : value.stackValue? = some constant) (type : SlotType) (producer : Handle) :
    ∃ loaded, ofConstant type producer constant = .ok loaded ∧
      value.IsLoadOf type producer loaded := by
  rcases value with ⟨valueType, valueProducer, payload, isPinned⟩
  cases payload with
  | number number =>
    cases form
    refine ⟨ofNumber type producer number.loadable, rfl, rfl, rfl, rfl, rfl, ?_, ?_⟩
    · simp [SlotValue.agrees, ofNumber]
    · simp [stackValue?, ofNumber]
  | text text =>
    cases form
    exact ⟨ofText type producer text, rfl, rfl, rfl, rfl, rfl, by simp [SlotValue.agrees, ofText], rfl⟩
  | produced | merged => cases form

/-- The constant that loads a value is no class literal. -/
theorem ne_classLiteral_of_stackValue? {value : SlotValue} {constant : Constant}
    (form : value.stackValue? = some constant) (name : String) : constant ≠ .classLiteral name := by
  rcases value with ⟨_, _, payload, _⟩
  cases payload <;> cases form <;> simp

end SlotValue

namespace Evaluator

variable {σ : Type}

/-- Where the load of a constant stands, the constant decides the value. -/
theorem constant_of_load {evaluator : Evaluator σ} {handle : Handle} {constant : Constant}
    (present : evaluator.body.get? handle = some (.load constant))
    (noLiteral : ∀ name, constant ≠ .classLiteral name) (type : SlotType) :
    evaluator.constant type handle = SlotValue.ofConstant type handle constant := by
  cases constant with
  | classLiteral name => exact absurd rfl (noLiteral name)
  | number | text =>
    simp only [Evaluator.constant, Body.fetch_eq_ok_iff.mpr present, Instruction.pushed?]

end Evaluator

/-- A known value is rebuilt by one instruction, and read back in another method body it is a load of the
value that is rebuilt by the same instruction. -/
theorem SlotValue.reads_back_of_isKnown {σ : Type} {value : SlotValue} (known : value.isKnown = true)
    (source : Body) (relabeling : Relabeling) {target : Body} (small : target.size < UInt32.size)
    (oracle : Oracle σ) (policy : Policy) (type : SlotType) :
    ∃ instruction loaded,
      value.rebuild source relabeling = .ok [instruction] ∧
      (Evaluator.mk (target.push instruction) oracle policy).constant type target.nextHandle =
        .ok loaded ∧
      value.IsLoadOf type target.nextHandle loaded ∧
      ∀ body labels, loaded.rebuild body labels = .ok [instruction] := by
  obtain ⟨constant, form⟩ := exists_stackValue? known
  obtain ⟨loaded, given, isLoad⟩ := exists_ofConstant_of_stackValue? form type target.nextHandle
  have present := Body.get?_push_self small (.load constant)
  have noLiteral := ne_classLiteral_of_stackValue? form
  refine ⟨.load constant, loaded, rebuild_of_stackValue? form source relabeling, ?_, isLoad, ?_⟩
  · rw [← given]
    exact Evaluator.constant_of_load present noLiteral type
  · exact rebuild_of_stackValue? (isLoad.stackValue?_eq.trans form)

/-- An unknown value is rebuilt by its relabeled producer, and the unknown result of that in another
method body is rebuilt by the same instruction. -/
theorem SlotValue.Rooted.reads_back {value : SlotValue} {source : Body}
    (rooted : value.Rooted source) (unknown : value.isKnown = false) (relabeling : Relabeling)
    {target : Body} (small : target.size < UInt32.size) (type : SlotType) :
    ∃ producer cloned,
      source.get? value.producer = some producer ∧
      value.rebuild source relabeling = .ok [producer.relabel relabeling] ∧
      SlotValue.unknown type target.nextHandle (target.push (producer.relabel relabeling)) =
        .ok cloned ∧
      cloned.rebuild (target.push (producer.relabel relabeling)) .empty =
        .ok [producer.relabel relabeling] := by
  obtain ⟨producer, present, produces⟩ := rooted.present unknown
  have pushed := Body.get?_push_self small (producer.relabel relabeling)
  have stands : (producer.relabel relabeling).mayProduceValue = true := by
    rw [Instruction.mayProduceValue_iff, Instruction.shape_relabel]
    exact producer.mayProduceValue_iff.mp produces
  have accepted : SlotValue.unknown type target.nextHandle
      (target.push (producer.relabel relabeling)) =
        .ok ⟨type, target.nextHandle, .produced, false⟩ := by
    simp [SlotValue.unknown, Body.fetch_eq_ok_iff.mpr pushed, stands]
  have clonedRooted := of_unknown accepted
  refine ⟨producer, _, present, rooted.rebuild_of_present unknown present relabeling, accepted, ?_⟩
  rw [clonedRooted.rebuild_of_present rfl pushed, Instruction.relabel_empty]

/-- What is rebuilt is read back. A known value, wherever it comes from, is rebuilt by one instruction;
where that is added to a method body, the constant load there gives a known value of the type of the slot,
unpinned, that agrees with it and is rebuilt by the same instruction. An unknown value that is rooted in a
body is rebuilt by its relabeled producer; where that is added to a method body, it may stand for a value
of its own, which is rebuilt by the same instruction. Rooted are the unknown values of a body and all
values of a workspace that were not merged. -/
theorem rebuild_reads_back :
    (∀ {value : SlotValue}, value.isKnown = true →
      ∀ (source target : Body), target.size < UInt32.size →
        ∀ {σ : Type} (oracle : Oracle σ) (policy : Policy) (type : SlotType),
          ∃ instruction loaded,
            value.rebuild source .empty = .ok [instruction] ∧
            (Evaluator.mk (target.push instruction) oracle policy).constant type
              target.nextHandle = .ok loaded ∧
            value.IsLoadOf type target.nextHandle loaded ∧
            loaded.rebuild (target.push instruction) .empty = .ok [instruction]) ∧
    (∀ {value : SlotValue} {source : Body}, value.Rooted source → value.isKnown = false →
      ∀ (relabeling : Relabeling) (target : Body), target.size < UInt32.size →
        ∀ type : SlotType, ∃ producer cloned,
          source.get? value.producer = some producer ∧
          value.rebuild source relabeling = .ok [producer.relabel relabeling] ∧
          SlotValue.unknown type target.nextHandle (target.push (producer.relabel relabeling)) =
            .ok cloned ∧
          cloned.rebuild (target.push (producer.relabel relabeling)) .empty =
            .ok [producer.relabel relabeling]) ∧
    (∀ {type : SlotType} {handle : Handle} {body : Body} {value : SlotValue},
      SlotValue.unknown type handle body = .ok value → value.Rooted body) ∧
    ∀ {σ : Type} (actions : List (Workspace.Action σ)), ∀ value ∈ (Workspace.run actions).values,
      value.mergeSite? = none → value.Rooted (Workspace.run actions).body := by
  refine ⟨?_, ?_, SlotValue.Rooted.of_unknown, ?_⟩
  · intro value known source target small σ oracle policy type
    obtain ⟨instruction, loaded, rebuilt, given, isLoad, again⟩ :=
      SlotValue.reads_back_of_isKnown known source .empty small oracle policy type
    exact ⟨instruction, loaded, rebuilt, given, isLoad, again _ _⟩
  · intro value source rooted unknown relabeling target small type
    exact rooted.reads_back unknown relabeling small type
  · intro σ actions value member unmerged
    rcases Workspace.rooted_or_merged actions value member with rooted | ⟨site, merged, _⟩
    · exact rooted
    · rw [unmerged] at merged
      cases merged

/-- A truth value that was given for a slot of another type and pinned, read back as the integer that
stands for it; and the unknown result of a switch, read back with other labels behind a first
instruction. -/
theorem rebuild_reads_back_switch :
    let truth := (SlotValue.ofNumber .float ⟨5⟩ (.boolean true)).pin
    let actions : List (Workspace.Action Unit) :=
      [.push (.lookupSwitch ⟨0⟩ [3] [⟨1⟩]), .unknown .int ⟨0⟩, .pin 0]
    let switched : SlotValue := ⟨.int, ⟨0⟩, .produced, true⟩
    let relabeling : Relabeling := .ofList [(⟨1⟩, ⟨8⟩)]
    let target : Body := .ofList [.mark ⟨4⟩]
    let loaded := SlotValue.ofNumber .int ⟨1⟩ (.int 1)
    let cloned : SlotValue := ⟨.long, ⟨1⟩, .produced, false⟩
    let clone : Instruction := .lookupSwitch ⟨0⟩ [3] [⟨8⟩]
    truth.isKnown = true ∧ target.size < UInt32.size ∧ target.nextHandle = ⟨1⟩ ∧
      truth.rebuild .empty .empty = .ok [.load (.number (.int 1))] ∧
      truth.IsLoadOf .int ⟨1⟩ loaded ∧
      loaded.rebuild (target.push (.load (.number (.int 1)))) .empty =
        .ok [.load (.number (.int 1))] ∧
      switched ∈ (Workspace.run actions).values ∧ switched.mergeSite? = none ∧
      switched.isKnown = false ∧ switched.Rooted (Workspace.run actions).body ∧
      switched.rebuild (Workspace.run actions).body relabeling = .ok [clone] ∧
      cloned.rebuild (target.push clone) .empty = .ok [clone] := by
  intro truth actions switched relabeling target loaded cloned clone
  obtain ⟨knownValues, unknownValues, _, workspaces⟩ := rebuild_reads_back
  have small : target.size < UInt32.size := by decide
  have member : switched ∈ (Workspace.run actions).values := by decide
  have rooted := workspaces actions switched member rfl
  obtain ⟨instruction, reread, rebuilt, given, isLoad, again⟩ :=
    @knownValues truth rfl .empty target small Unit .silent .conservative .int
  obtain ⟨producer, accepted, present, relabeled, stands, same⟩ :=
    unknownValues rooted rfl relabeling target small .long
  have load : truth.rebuild .empty .empty = .ok [.load (.number (.int 1))] := rfl
  cases load.symm.trans rebuilt
  have read : (Evaluator.mk (target.push (.load (.number (.int 1)))) (Oracle.silent (σ := Unit))
      .conservative).constant .int target.nextHandle = .ok loaded := rfl
  cases read.symm.trans given
  have switch : (Workspace.run actions).body.get? switched.producer =
      some (.lookupSwitch ⟨0⟩ [3] [⟨1⟩]) := rfl
  cases switch.symm.trans present
  have standing : SlotValue.unknown .long target.nextHandle (target.push clone) = .ok cloned := rfl
  cases standing.symm.trans stands
  exact ⟨rfl, small, rfl, rebuilt, isLoad, again, member, rfl, rfl, rooted, relabeled, same⟩

end ConstProp
