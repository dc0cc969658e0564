import ConstProp.Proofs.Evaluation.Program
import ConstProp.Proofs.Slot.Rooted
import Mathlib.Data.List.Induction

/-!
# Workspaces

An analysis adds instructions and labels to one method body, and on the way it creates values: given ones,
evaluated ones, and those that come of earlier values when they are revised or joined.

What an action creates is rooted in the body, or of the same origin as an earlier value, or the unknown of
a join of values that differ (`Workspace.created_of_created?`). Bodies only grow
(`Workspace.extends_run_append`), so each value can be brought back from then on, unless it goes back to
such a join (`Workspace.values_rebuildable_or_merged`).
-/

namespace ConstProp

/-- A result that is there is no error. -/
theorem eq_ok_of_toOption {α : Type} {result : Except Error α} {value : α}
    (present : result.toOption = some value) : result = .ok value := by
  cases result with
  | error => cases present
  | ok other =>
    cases present
    rfl

/-- A value of the shape that a slot asks for is rooted where its producer stands. -/
theorem SlotValue.WellShaped.rooted {type : SlotType} {producer : Handle} {value : SlotValue}
    (shaped : value.WellShaped type producer) {body : Body} {instruction : Instruction}
    (present : body.get? producer = some instruction)
    (produces : instruction.mayProduceValue = true) : value.Rooted body where
  unmerged := shaped.unmerged
  present := by
    intro _
    rw [shaped.producer_eq]
    exact ⟨instruction, present, produces⟩

namespace Evaluator

variable {σ : Type} {evaluator : Evaluator σ} {type : SlotType} {handle : Handle}
  {value : SlotValue}

theorem rooted_constant (given : evaluator.constant type handle = .ok value) :
    value.Rooted evaluator.body := by
  unfold constant at given
  split at given
  case h_1 => cases given
  case h_2 instruction _ =>
    split at given
    case h_1 => exact .of_unknown given
    case h_2 => exact .of_ofConstant given
    case h_3 =>
      split at given
      · exact .of_unknown given
      · cases given

theorem rooted_fieldRead {store : Store σ}
    (given : (evaluator.fieldRead type handle store).result = .ok value) :
    value.Rooted evaluator.body := by
  rw [result_fieldRead, Body.map_expect_eq_ok_iff] at given
  obtain ⟨instruction, field, present, reads, rfl⟩ := given
  have read : instruction.IsFieldRead := by
    rw [← Instruction.isSome_readField?_iff, reads]
    rfl
  exact (SlotValue.wellShaped_ofAnswer type handle _).rooted present read.mayProduceValue

theorem rooted_call {arguments : List SlotValue} {store : Store σ}
    (given : (evaluator.call type handle arguments store).result = .ok value) :
    value.Rooted evaluator.body := by
  rw [result_call, Body.map_expect_eq_ok_iff] at given
  obtain ⟨instruction, invoked, present, invokes, rfl⟩ := given
  have invocation : instruction.IsInvocation := by
    rw [← Instruction.isSome_invoked?_iff, invokes]
    rfl
  have shaped :
      (evaluator.invocationValue type handle invoked arguments store).WellShaped type handle :=
    wellShaped_invocationValue invoked arguments store
  exact shaped.rooted present invocation.mayProduceValue

/-- Every value that comes of an evaluation is rooted in the method body. -/
theorem rooted_perform {evaluation : Evaluation SlotValue} {store : Store σ}
    (given : (evaluator.perform evaluation store).result = .ok value) :
    value.Rooted evaluator.body := by
  cases evaluation with
  | constant type handle => exact rooted_constant given
  | fieldRead type handle => exact rooted_fieldRead given
  | call type handle arguments => exact rooted_call given
  | unknown type handle => exact .of_unknown given

end Evaluator

/-- A method body and the values that were created over it, in order. -/
structure Workspace where
  body : Body
  values : List SlotValue

namespace Workspace

variable {σ : Type}

/-- What is done in a workspace. Earlier values are referred to by their numbers; each evaluation has its
own oracle, store and policy. -/
inductive Action (σ : Type) where
  | push (instruction : Instruction)
  | newLabel
  | number (type : SlotType) (producer : Handle) (constant : Constant)
  | text (type : SlotType) (producer : Handle) (text : String)
  | known (type : SlotType) (producer : Handle) (constant : Constant)
  | unknown (type : SlotType) (producer : Handle)
  | evaluate (oracle : Oracle σ) (policy : Policy) (store : Store σ)
    (evaluation : Evaluation SlotValue)
  | pin (index : Nat)
  | withType (index : Nat) (type : SlotType)
  | combine (index : Nat)
  | join (left right : Nat) (site : MergeSite)

/-- The value that an action creates, unless it fails or creates none. -/
def created? (workspace : Workspace) : Action σ → Option SlotValue
  | .push _ | .newLabel => none
  | .number type producer constant => (constant.asNumber.map (.ofNumber type producer)).toOption
  | .text type producer text => some (.ofText type producer text)
  | .known type producer constant => (SlotValue.ofConstant type producer constant).toOption
  | .unknown type producer => (SlotValue.unknown type producer workspace.body).toOption
  | .evaluate oracle policy store evaluation =>
    let evaluator : Evaluator σ := ⟨workspace.body, oracle, policy⟩
    (evaluator.perform evaluation store).result.toOption
  | .pin index => workspace.values[index]?.map .pin
  | .withType index type => workspace.values[index]?.map (.withType · type)
  | .combine index => workspace.values[index]?
  | .join left right site =>
    match workspace.values[left]?, workspace.values[right]? with
    | some first, some second => some (first.join second site)
    | _, _ => none

/-- The body after an action. -/
def nextBody (body : Body) : Action σ → Body
  | .push instruction => body.push instruction
  | .newLabel => body.newLabel.2
  | _ => body

/-- The workspace after an action. A value that it creates comes last. -/
def act (workspace : Workspace) (action : Action σ) : Workspace where
  body := nextBody workspace.body action
  values := workspace.values ++ (workspace.created? action).toList

/-- The workspace after a sequence of actions, from nothing. -/
def run (actions : List (Action σ)) : Workspace :=
  actions.foldl act ⟨.empty, []⟩

@[simp] theorem run_nil : run ([] : List (Action σ)) = ⟨.empty, []⟩ := rfl

@[simp] theorem run_concat (actions : List (Action σ)) (action : Action σ) :
    run (actions ++ [action]) = (run actions).act action := by
  simp [run]

/-- Where the value of an action comes from. -/
inductive Created (workspace : Workspace) (action : Action σ) (value : SlotValue) : Prop where
  /-- It can be brought back from the body. -/
  | rooted (rooted : value.Rooted workspace.body)
  /-- It has the content and the producer of an earlier value. -/
  | revised {old : SlotValue} (member : old ∈ workspace.values)
    (producer_eq : value.producer = old.producer) (payload_eq : value.payload = old.payload)
  /-- It is the unknown of a join of earlier values that differ. -/
  | merged {left right : Nat} {first second : SlotValue} {site : MergeSite}
    (asked : action = .join left right site) (leftValue : workspace.values[left]? = some first)
    (rightValue : workspace.values[right]? = some second) (differ : first.agrees second = false)
    (merged : value.mergeSite? = some site)

/-- Every value that an action creates comes from one of these. -/
theorem created_of_created? {workspace : Workspace} {action : Action σ} {value : SlotValue}
    (created : workspace.created? action = some value) : Created workspace action value := by
  cases action with
  | push | newLabel => cases created
  | number type producer constant =>
    cases constant with
    | number number =>
      cases created
      exact .rooted (.of_isKnown rfl)
    | text | classLiteral => cases created
  | text type producer text =>
    cases created
    exact .rooted (.of_isKnown rfl)
  | known type producer constant =>
    exact .rooted (.of_ofConstant (eq_ok_of_toOption created))
  | unknown type producer => exact .rooted (.of_unknown (eq_ok_of_toOption created))
  | evaluate oracle policy store evaluation =>
    exact .rooted (Evaluator.rooted_perform (eq_ok_of_toOption created))
  | pin index =>
    obtain ⟨old, found, rfl⟩ := Option.map_eq_some_iff.mp created
    exact .revised (List.mem_of_getElem? found) rfl rfl
  | withType index type =>
    obtain ⟨old, found, rfl⟩ := Option.map_eq_some_iff.mp created
    exact .revised (List.mem_of_getElem? found) rfl rfl
  | combine index => exact .revised (List.mem_of_getElem? created) rfl rfl
  | join left right site =>
    simp only [created?] at created
    split at created
    case h_1 first second leftValue rightValue =>
      cases created
      cases agree : first.agrees second with
      | true =>
        rw [SlotValue.join_of_agrees agree]
        exact .revised (List.mem_of_getElem? leftValue) rfl rfl
      | false =>
        exact .merged rfl leftValue rightValue agree
          (SlotValue.mergeSite?_join_of_not_agrees agree site)
    case h_2 => cases created

/-- Bodies only grow. -/
theorem extends_act (workspace : Workspace) (action : Action σ) :
    workspace.body.Extends (workspace.act action).body := by
  cases action with
  | push instruction => exact fun _ _ present => Body.get?_push_of_some present instruction
  | _ => exact .refl _

theorem extends_run_append (earlier later : List (Action σ)) :
    (run earlier).body.Extends (run (earlier ++ later)).body := by
  induction later using List.reverseRecOn with
  | nil => simpa using Body.Extends.refl _
  | append_singleton later action inductionHypothesis =>
    rw [← List.append_assoc, run_concat]
    exact inductionHypothesis.trans (extends_act _ action)

/-- In a run, the instruction was added under the handle. -/
def PushedUnder (actions : List (Action σ)) (handle : Handle) (instruction : Instruction) : Prop :=
  ∃ earlier, earlier ++ [.push instruction] <+: actions ∧ (run earlier).body.nextHandle = handle

/-- In a run, values that differ were joined at the site. -/
def JoinedApart (actions : List (Action σ)) (site : MergeSite) : Prop :=
  ∃ earlier left right first second, earlier ++ [.join left right site] <+: actions ∧
    (run earlier).values[left]? = some first ∧ (run earlier).values[right]? = some second ∧
    first.agrees second = false

theorem pushedUnder_concat_iff {actions : List (Action σ)} {action : Action σ} {handle : Handle}
    {instruction : Instruction} :
    PushedUnder (actions ++ [action]) handle instruction ↔
      PushedUnder actions handle instruction ∨
        handle = (run actions).body.nextHandle ∧ action = .push instruction := by
  constructor
  · rintro ⟨earlier, within, rfl⟩
    rcases List.prefix_concat_iff.mp within with last | before
    · obtain ⟨rfl, rfl⟩ := List.append_singleton_inj.mp last
      exact Or.inr ⟨rfl, rfl⟩
    · exact Or.inl ⟨earlier, before, rfl⟩
  · rintro (⟨earlier, within, rfl⟩ | ⟨rfl, rfl⟩)
    · exact ⟨earlier, within.trans (List.prefix_append _ _), rfl⟩
    · exact ⟨actions, List.prefix_rfl, rfl⟩

theorem JoinedApart.concat {actions : List (Action σ)} {site : MergeSite}
    (joined : JoinedApart actions site) (action : Action σ) :
    JoinedApart (actions ++ [action]) site := by
  obtain ⟨earlier, left, right, first, second, within, joins⟩ := joined
  exact ⟨earlier, left, right, first, second, within.trans (List.prefix_append _ _), joins⟩

/-- As long as handles do not run out, what is found in the body is what was added under the handle. -/
theorem get?_run_iff {actions : List (Action σ)} (small : (run actions).body.size ≤ UInt32.size)
    {handle : Handle} {instruction : Instruction} :
    (run actions).body.get? handle = some instruction ↔ PushedUnder actions handle instruction := by
  induction actions using List.reverseRecOn with
  | nil =>
    constructor
    · intro present
      cases present
    · rintro ⟨earlier, within, _⟩
      simp at within
  | append_singleton actions action inductionHypothesis =>
    rw [run_concat] at small ⊢
    rw [pushedUnder_concat_iff]
    cases action with
    | push added =>
      have room : (run actions).body.size < UInt32.size := by
        simp only [act, nextBody, Body.size_push] at small
        omega
      rw [← inductionHypothesis (Nat.le_of_lt room)]
      simp only [act, nextBody, Body.get?_push_eq_some_iff room, Action.push.injEq, eq_comm]
    | _ =>
      simp only [reduceCtorEq, and_false, or_false]
      exact inductionHypothesis small

/-- Each value of a run is rooted in its body, or it was merged at a site where values that differ were
joined. -/
theorem rooted_or_merged (actions : List (Action σ)) :
    ∀ value ∈ (run actions).values, value.Rooted (run actions).body ∨
      ∃ site, value.mergeSite? = some site ∧ JoinedApart actions site := by
  induction actions using List.reverseRecOn with
  | nil => simp
  | append_singleton actions action inductionHypothesis =>
    have earlier : ∀ value ∈ (run actions).values,
        value.Rooted (run (actions ++ [action])).body ∨
          ∃ site, value.mergeSite? = some site ∧ JoinedApart (actions ++ [action]) site := by
      intro value member
      rcases inductionHypothesis value member with rooted | ⟨site, merged, joined⟩
      · exact Or.inl (rooted.extend (extends_run_append actions [action]))
      · exact Or.inr ⟨site, merged, joined.concat action⟩
    intro value member
    rw [run_concat, act, List.mem_append, Option.mem_toList] at member
    rcases member with old | new
    · exact earlier value old
    · cases created_of_created? new with
      | rooted rooted => exact Or.inl (rooted.extend (extends_run_append actions [action]))
      | revised oldMember producer_eq payload_eq =>
        rcases earlier _ oldMember with rooted | ⟨site, merged, joined⟩
        · exact Or.inl (rooted.of_eq producer_eq payload_eq)
        · refine Or.inr ⟨site, ?_, joined⟩
          rw [SlotValue.mergeSite?_of_eq producer_eq payload_eq, merged]
      | merged asked leftValue rightValue differ merged =>
        subst asked
        exact Or.inr ⟨_, merged, actions, _, _, _, _, List.prefix_rfl, leftValue, rightValue, differ⟩

/-- What brings a value back after a run: a load of the stack value of a known one; for an unknown one the
instruction that was added under its producer, and no other was, with its labels replaced. -/
structure BroughtBackBy (actions : List (Action σ)) (value : SlotValue) (relabeling : Relabeling)
    (instruction : Instruction) : Prop where
  rebuild_eq : value.rebuild (run actions).body relabeling = .ok [instruction]
  known : value.isKnown = true →
    ∃ constant, value.stackValue? = some constant ∧ instruction = .load constant
  unknown : value.isKnown = false →
    ∃ added, (∀ other, PushedUnder actions value.producer other ↔ other = added) ∧
      instruction = added.relabel relabeling
  notMark : instruction.shape ≠ .mark
  notJump : instruction.shape ≠ .jump

/-- A rooted value is brought back by one instruction. -/
theorem exists_broughtBackBy {actions : List (Action σ)}
    (small : (run actions).body.size ≤ UInt32.size) {value : SlotValue}
    (rooted : value.Rooted (run actions).body) (relabeling : Relabeling) :
    ∃ instruction, BroughtBackBy actions value relabeling instruction := by
  cases known : value.isKnown with
  | true =>
    obtain ⟨constant, stackValue⟩ := SlotValue.exists_stackValue? known
    refine ⟨.load constant, ?_, ?_, ?_, ?_, ?_⟩
    · exact SlotValue.rebuild_of_stackValue? stackValue _ relabeling
    · exact fun _ => ⟨constant, stackValue, rfl⟩
    · simp [known]
    · simp [Instruction.shape]
    · simp [Instruction.shape]
  | false =>
    obtain ⟨added, present, produces⟩ := rooted.present known
    obtain ⟨notMark, notJump⟩ := added.mayProduceValue_iff.mp produces
    refine ⟨added.relabel relabeling, ?_, ?_, ?_, ?_, ?_⟩
    · exact rooted.rebuild_of_present known present relabeling
    · simp [known]
    · refine fun _ => ⟨added, fun other => ?_, rfl⟩
      rw [← get?_run_iff small, present, Option.some.injEq, eq_comm]
    · rwa [Instruction.shape_relabel]
    · rwa [Instruction.shape_relabel]

/-- Every value of a run can be brought back, or it was honestly merged. A number is no text and no class
literal. A value with a merge site is unknown, and values that differ were joined at that site. Any other
value is brought back by one instruction, for every relabeling: a load of its stack value if it is known,
and otherwise the one instruction that was added under its producer, which is neither a label nor a jump.
Whatever is done later, nothing changes about that. -/
theorem values_rebuildable_or_merged (actions : List (Action σ))
    (small : (run actions).body.size ≤ UInt32.size) {value : SlotValue}
    (member : value ∈ (run actions).values) :
    (∀ number, value.payload = .number number →
      (Constant.number number).kind ≠ .string ∧ (Constant.number number).kind ≠ .type) ∧
    (∀ site, value.mergeSite? = some site → value.isKnown = false ∧ JoinedApart actions site) ∧
    (value.mergeSite? = none → ∀ relabeling,
      ∃ instruction, BroughtBackBy actions value relabeling instruction) ∧
    ∀ later relabeling, value.rebuild (run (actions ++ later)).body relabeling =
      value.rebuild (run actions).body relabeling := by
  have origin := rooted_or_merged actions value member
  refine ⟨?_, ?_, ?_, ?_⟩
  · intro number _
    cases number <;> simp [Constant.kind, Number.kind]
  · intro site merged
    rcases origin with rooted | ⟨other, otherMerged, joined⟩
    · rw [rooted.unmerged] at merged
      cases merged
    · cases merged.symm.trans otherMerged
      exact ⟨SlotValue.isKnown_of_mergeSite? merged, joined⟩
  · intro unmerged relabeling
    rcases origin with rooted | ⟨site, merged, _⟩
    · exact exists_broughtBackBy small rooted relabeling
    · rw [unmerged] at merged
      cases merged
  · intro later relabeling
    rcases origin with rooted | ⟨site, merged, _⟩
    · exact rooted.rebuild_eq_of_extends (extends_run_append actions later) relabeling
    · rw [SlotValue.rebuild_of_mergeSite? merged, SlotValue.rebuild_of_mergeSite? merged]

/-- A switch is taken for the producer of an unknown value, and a character is given that no instruction
produces. The first comes back as the switch with its labels replaced, the second as a load of its code
unit, and they are joined apart. A text is no number, so the last action creates nothing. -/
theorem values_rebuildable_or_merged_switch :
    let site : MergeSite := ⟨⟨0⟩, 2⟩
    let actions : List (Action Unit) :=
      [.push (.tableSwitch 0 0 ⟨0⟩ [⟨1⟩]),
        .evaluate .intrinsics .aggressive (.empty ()) (.unknown .int ⟨0⟩),
        .number .int ⟨9⟩ (.number (.char 65)), .join 0 1 site, .number .int ⟨0⟩ (.text "a")]
    let relabeling : Relabeling := .ofList [(⟨0⟩, ⟨7⟩)]
    let unknown : SlotValue := ⟨.int, ⟨0⟩, .produced, false⟩
    let character : SlotValue := .ofNumber .int ⟨9⟩ (.char 65)
    let merged : SlotValue := .mergedAt site .int
    (run actions).body.size ≤ UInt32.size ∧
      (run actions).values = [unknown, character, merged] ∧
      BroughtBackBy actions unknown relabeling (.tableSwitch 0 0 ⟨7⟩ [⟨1⟩]) ∧
      BroughtBackBy actions character relabeling (.load (.number (.int 65))) ∧
      JoinedApart actions site := by
  intro site actions relabeling unknown character merged
  have small : (run actions).body.size ≤ UInt32.size := by decide
  have values : (run actions).values = [unknown, character, merged] := by decide
  have unknownMember : unknown ∈ (run actions).values := by simp [values]
  have characterMember : character ∈ (run actions).values := by simp [values]
  have mergedMember : merged ∈ (run actions).values := by simp [values]
  obtain ⟨_, _, unknownBack, _⟩ := values_rebuildable_or_merged actions small unknownMember
  obtain ⟨_, _, characterBack, _⟩ := values_rebuildable_or_merged actions small characterMember
  obtain ⟨_, joined, _, _⟩ := values_rebuildable_or_merged actions small mergedMember
  obtain ⟨switch, switchBack⟩ := unknownBack rfl relabeling
  obtain ⟨load, loadBack⟩ := characterBack rfl relabeling
  have switchRebuilt : unknown.rebuild (run actions).body relabeling =
      .ok [.tableSwitch 0 0 ⟨7⟩ [⟨1⟩]] := rfl
  have loadRebuilt : character.rebuild (run actions).body relabeling =
      .ok [.load (.number (.int 65))] := rfl
  cases switchRebuilt.symm.trans switchBack.rebuild_eq
  cases loadRebuilt.symm.trans loadBack.rebuild_eq
  exact ⟨small, values, switchBack, loadBack, (joined site rfl).2⟩

end Workspace

end ConstProp
