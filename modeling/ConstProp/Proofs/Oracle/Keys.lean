import ConstProp.Oracle.Ask
import Mathlib.Data.List.Forall2

/-!
# Keys decide answers

The key of a query is all of it that the library's own sources look at. Asked two queries with one key,
an oracle without foreign sources replies the same: the same answer, the same store afterwards and the
same events (`ask_eq_of_key`). In particular it cannot tell arguments that agree from one another, and
it cannot tell unknown arguments apart at all.
-/

namespace ConstProp

namespace Query

/-- Queries with one key are the same field query, or calls that differ in their arguments only and not
in the keys of these. -/
theorem cases_of_key {first second : Query} (same : first.key = second.key) :
    (∃ type member, first = field type member ∧ second = field type member) ∨
      ∃ type member left right, first = call type member left ∧ second = call type member right ∧
        left.map argumentKey = right.map argumentKey := by
  have kinds := congrArg Key.kind same
  have types := congrArg Key.type same
  have members := congrArg Key.member same
  have keys := congrArg Key.arguments same
  cases first with
  | field firstType firstMember =>
    cases second with
    | field secondType secondMember =>
      cases types
      cases members
      exact Or.inl ⟨firstType, firstMember, rfl, rfl⟩
    | call => cases kinds
  | call firstType firstMember left =>
    cases second with
    | field => cases kinds
    | call secondType secondMember right =>
      cases types
      cases members
      exact Or.inr ⟨firstType, firstMember, left, right, rfl, rfl, keys⟩

/-- Calls whose arguments agree in pairs have one key. -/
theorem key_call_eq_of_agrees {left right : List SlotValue}
    (same : List.Forall₂ (fun first second => first.agrees second = true) left right)
    (type : SlotType) (member : Member) :
    (call type member left).key = (call type member right).key := by
  have keys : left.map argumentKey = right.map argumentKey := by
    induction same with
    | nil => rfl
    | cons agree _ inductionHypothesis =>
      rw [List.map_cons, List.map_cons, argumentKey_eq_of_agrees agree, inductionHypothesis]
  simp [key, kind, Query.type, Query.member, arguments, keys]

end Query

/-- The key of a query decides whether and how it can be evaluated. -/
theorem Intrinsic.answer_eq_of_key {first second : Query} (same : first.key = second.key) :
    Intrinsic.answer first = Intrinsic.answer second := by
  obtain ⟨type, member, rfl, rfl⟩ | ⟨type, member, left, right, rfl, rfl, keys⟩ :=
    Query.cases_of_key same
  · rfl
  · simp only [Intrinsic.answer, keys]

/-- The key of a query decides what is reported of its evaluation. -/
theorem Intrinsic.events_eq_of_key {first second : Query} (same : first.key = second.key) :
    Intrinsic.events first = Intrinsic.events second := by
  rw [Intrinsic.events, Intrinsic.events, Intrinsic.answer_eq_of_key same]
  obtain ⟨type, member, rfl, rfl⟩ | ⟨type, member, left, right, rfl, rfl, _⟩ :=
    Query.cases_of_key same
  · rfl
  · rfl

/-- The key of a query decides what a table answers. -/
theorem ConstantTable.answer_eq_of_key (table : ConstantTable) {first second : Query}
    (same : first.key = second.key) : table.answer first = table.answer second := by
  obtain ⟨type, member, rfl, rfl⟩ | ⟨type, member, left, right, rfl, rfl, keys⟩ :=
    Query.cases_of_key same
  · rfl
  · have lengths : left.length = right.length := by simpa using congrArg List.length keys
    simp only [ConstantTable.answer, lengths]

/-- The key of a query decides what a table reports of it. -/
theorem ConstantTable.events_eq_of_key (table : ConstantTable) {first second : Query}
    (same : first.key = second.key) : table.events first = table.events second := by
  have answers := table.answer_eq_of_key same
  obtain ⟨type, member, rfl, rfl⟩ | ⟨type, member, left, right, rfl, rfl, _⟩ :=
    Query.cases_of_key same
  · rfl
  · unfold ConstantTable.events
    rw [answers]
    cases table.answer (.call type member right) <;> rfl

/-- The key of a query decides how it is counted. -/
theorem Meter.count_eq_of_key (meter : Meter) {first second : Query}
    (same : first.key = second.key) : meter.count first = meter.count second := by
  obtain ⟨type, member, rfl, rfl⟩ | ⟨type, member, left, right, rfl, rfl, _⟩ :=
    Query.cases_of_key same
  · rfl
  · rfl

/-- The key of a query decides the report of a cache that has an answer to it. -/
theorem Query.cacheHit_eq_of_key {first second : Query} (same : first.key = second.key) :
    Event.cacheHit first.kind first.member = Event.cacheHit second.kind second.member := by
  obtain ⟨type, member, rfl, rfl⟩ | ⟨type, member, left, right, rfl, rfl, _⟩ :=
    Query.cases_of_key same
  · rfl
  · rfl

namespace Oracle

variable {σ : Type}

/-- Every foreign source of the oracle is of a given sort. -/
def ForeignAll (sort : (Query → σ → Resolution × σ) → Prop) : Oracle σ → Prop
  | .silent | .intrinsics | .table _ => True
  | .foreign respond => sort respond
  | .orElse first second => first.ForeignAll sort ∧ second.ForeignAll sort
  | .cached _ inner | .metered _ inner => inner.ForeignAll sort

/-- The oracle is built from the library's own sources alone. -/
def IsStock (oracle : Oracle σ) : Prop :=
  oracle.ForeignAll fun _ => False

/-- A foreign source answers all queries with one key alike, whatever the state outside. -/
def IsKeyed (respond : Query → σ → Resolution × σ) : Prop :=
  ∀ first second, first.key = second.key → ∀ world other,
    (respond first world).1 = (respond second other).1

/-- Every foreign source of the oracle answers all queries with one key alike. -/
def Keyed (oracle : Oracle σ) : Prop :=
  oracle.ForeignAll IsKeyed

/-- The foreign sources of a chain are those of its links. -/
theorem ForeignAll.chain {sort : (Query → σ → Resolution × σ) → Prop} {links : List (Oracle σ)}
    (all : ∀ link ∈ links, link.ForeignAll sort) : (chain links).ForeignAll sort := by
  induction links with
  | nil => trivial
  | cons first rest inductionHypothesis =>
    refine ⟨all first List.mem_cons_self, inductionHypothesis ?_⟩
    intro link member
    exact all link (List.mem_cons_of_mem first member)

/-- An oracle without foreign sources replies the same to queries with one key. -/
theorem ask_eq_of_key {oracle : Oracle σ} (stock : oracle.IsStock) {first second : Query}
    (same : first.key = second.key) (store : Store σ) :
    oracle.ask first store = oracle.ask second store := by
  induction oracle generalizing store with
  | silent => rfl
  | intrinsics =>
    simp only [ask, Intrinsic.answer_eq_of_key same, Intrinsic.events_eq_of_key same]
  | table cell =>
    simp only [ask, ConstantTable.answer_eq_of_key _ same, ConstantTable.events_eq_of_key _ same]
  | foreign respond => exact stock.elim
  | orElse left right leftHypothesis rightHypothesis =>
    have leftReply := leftHypothesis stock.1 store
    have rightReply := rightHypothesis stock.2 (left.ask second store).store
    simp only [ask, leftReply, rightReply]
  | cached cell inner inductionHypothesis =>
    have innerReply := inductionHypothesis stock store
    simp only [ask, same, innerReply, Query.cacheHit_eq_of_key same]
  | metered cell inner inductionHypothesis =>
    have innerReply := inductionHypothesis stock store
    simp only [ask, innerReply, Meter.count_eq_of_key _ same]

end Oracle

end ConstProp
