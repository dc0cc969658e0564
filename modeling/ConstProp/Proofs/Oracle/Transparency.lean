import ConstProp.Proofs.Oracle.Session

/-!
# Transparency of caches

A cache answers in place of what it wraps, so its answers are right only if what it wraps would still
give them. That holds as long as the sources below the cache let the key of a query decide their answer,
which the library's own sources do: then an oracle answers every session as it does with all its caches
taken out (`answers_of_faithful`).

The invariant behind this is `Faithful`: every answer in a cache is the one that the wrapped oracle gives
without caches, for every query with the key of the answer. A query keeps it in all caches at once
(`ask_of_faithful`), whichever of them lie inside one another and however often the same cache occurs.
-/

namespace ConstProp.Oracle

variable {σ : Type}

/-- The tables are those of a base store, and every answer in a cache is the one that the wrapped oracle
gives over the base store without caches, for all queries with its key. -/
structure Faithful (caches : List (Nat × Oracle σ)) (base store : Store σ) : Prop where
  tables_eq : store.tables = base.tables
  answer_eq : ∀ cell inner, (cell, inner) ∈ caches → ∀ query answer,
    (store.cache cell).find? query.key = some answer →
      answer = (inner.uncached.ask query base).answer

variable {caches : List (Nat × Oracle σ)} {base store : Store σ}

/-- Empty caches are faithful. -/
theorem Faithful.of_isEmpty
    (blank : ∀ cell inner, (cell, inner) ∈ caches → (store.cache cell).isEmpty = true) :
    Faithful caches store store where
  tables_eq := rfl
  answer_eq := by
    intro cell inner member query answer found
    rw [Cache.find?_of_isEmpty (blank cell inner member)] at found
    cases found

/-- Caches stay faithful when one of them forgets its answers. -/
theorem Faithful.clear (faithful : Faithful caches base store) (cell : Nat) :
    Faithful caches base (store.setCache cell (store.cache cell).clear) where
  tables_eq := faithful.tables_eq
  answer_eq := by
    intro other inner member query answer found
    rw [Store.cache_setCache] at found
    split at found
    · rw [Cache.find?_clear] at found
      cases found
    · exact faithful.answer_eq other inner member query answer found

/-- Caches stay faithful when one of them keeps the answer of what it wraps. -/
theorem Faithful.record (faithful : Faithful caches base store) (own : OwnCells caches)
    {cell : Nat} {inner : Oracle σ} (member : (cell, inner) ∈ caches) (keyed : inner.Keyed)
    (query : Query) :
    Faithful caches base (store.setCache cell
      ((store.cache cell).record query.key (inner.uncached.ask query base).answer)) where
  tables_eq := faithful.tables_eq
  answer_eq := by
    intro otherCell otherInner otherMember otherQuery answer found
    rw [Store.cache_setCache] at found
    split at found
    case isFalse => exact faithful.answer_eq _ _ otherMember _ _ found
    case isTrue sameCell =>
      subst sameCell
      rw [Cache.find?_record] at found
      split at found
      case isFalse => exact faithful.answer_eq _ _ otherMember _ _ found
      case isTrue recorded =>
        have sameInner := own _ _ _ otherMember member
        subst sameInner
        cases found
        exact answer_uncached_congr keyed recorded.1.symm rfl

/-- Asked over faithful caches, an oracle answers as it does without caches, and the caches stay
faithful. -/
theorem ask_of_faithful (own : OwnCells caches) {oracle : Oracle σ} (keyed : oracle.Keyed)
    (within : oracle.caches ⊆ caches) (faithful : Faithful caches base store) (query : Query) :
    (oracle.ask query store).answer = (oracle.uncached.ask query base).answer ∧
      Faithful caches base (oracle.ask query store).store := by
  induction oracle generalizing store with
  | silent => exact ⟨rfl, faithful⟩
  | intrinsics => exact ⟨rfl, faithful⟩
  | table cell =>
    have sameTable : store.table cell = base.table cell := by
      simp only [Store.table, faithful.tables_eq]
    exact ⟨by simp only [uncached, ask, sameTable], faithful⟩
  | foreign respond =>
    exact ⟨keyed query query rfl store.world base.world, faithful.tables_eq, faithful.answer_eq⟩
  | orElse first second firstHypothesis secondHypothesis =>
    have firstWithin : first.caches ⊆ caches := (List.append_subset.mp within).1
    have secondWithin : second.caches ⊆ caches := (List.append_subset.mp within).2
    obtain ⟨firstAnswer, firstFaithful⟩ := firstHypothesis keyed.1 firstWithin faithful
    obtain ⟨secondAnswer, secondFaithful⟩ := secondHypothesis keyed.2 secondWithin firstFaithful
    constructor
    · rw [answer_ask_orElse, answer_uncached_orElse keyed, firstAnswer, secondAnswer]
    · simp only [ask]
      split
      · exact firstFaithful
      · exact secondFaithful
  | cached cell inner inductionHypothesis =>
    have member : (cell, inner) ∈ caches := within List.mem_cons_self
    have innerWithin : inner.caches ⊆ caches :=
      List.Subset.trans (List.subset_cons_self _ _) within
    simp only [ask]
    split
    case h_1 answer hit =>
      exact ⟨faithful.answer_eq cell inner member query answer hit, faithful⟩
    case h_2 =>
      obtain ⟨innerAnswer, innerFaithful⟩ := inductionHypothesis keyed innerWithin faithful
      refine ⟨innerAnswer, ?_⟩
      rw [innerAnswer]
      exact innerFaithful.record own member keyed query
  | metered cell inner inductionHypothesis =>
    obtain ⟨innerAnswer, innerFaithful⟩ := inductionHypothesis keyed within faithful
    exact ⟨innerAnswer, innerFaithful.tables_eq, innerFaithful.answer_eq⟩

/-- Requests keep caches faithful. -/
theorem Faithful.serve (faithful : Faithful caches base store) (own : OwnCells caches)
    {oracle : Oracle σ} (keyed : oracle.Keyed) (within : oracle.caches ⊆ caches)
    (request : Request) : Faithful caches base (oracle.serve store request) := by
  cases request with
  | query query => exact (ask_of_faithful own keyed within faithful query).2
  | clear cell => exact faithful.clear cell

/-- Sessions keep caches faithful. -/
theorem Faithful.after (faithful : Faithful caches base store) (own : OwnCells caches)
    {oracle : Oracle σ} (keyed : oracle.Keyed) (within : oracle.caches ⊆ caches)
    (requests : List Request) : Faithful caches base (oracle.after requests store) := by
  induction requests generalizing store with
  | nil => exact faithful
  | cons request rest inductionHypothesis =>
    exact inductionHypothesis (faithful.serve own keyed within request)

/-- Over faithful caches, an oracle answers each query of a session as it does without caches over the
base store. -/
theorem answers_of_faithful (own : OwnCells caches) {oracle : Oracle σ} (keyed : oracle.Keyed)
    (within : oracle.caches ⊆ caches) (faithful : Faithful caches base store)
    (requests : List Request) :
    oracle.answers requests store =
      (requests.filterMap Request.query?).map
        fun query => (oracle.uncached.ask query base).answer := by
  induction requests generalizing store with
  | nil => rfl
  | cons request rest inductionHypothesis =>
    have later := inductionHypothesis (faithful.serve own keyed within request)
    cases request with
    | query query =>
      have now := (ask_of_faithful own keyed within faithful query).1
      simp [answers, now, later]
    | clear cell => simp [answers, later, List.filterMap_cons]

/-- Over faithful caches, an oracle answers a session as it does without caches over the base store. -/
theorem answers_eq_answers_uncached (own : OwnCells caches) {oracle : Oracle σ}
    (keyed : oracle.Keyed) (within : oracle.caches ⊆ caches)
    (faithful : Faithful caches base store) (requests : List Request) :
    oracle.answers requests store = oracle.uncached.answers requests base := by
  have plain : Faithful [] base base := Faithful.of_isEmpty (by simp)
  have plainAnswers := answers_of_faithful (by simp [OwnCells]) keyed.uncached
    (by simp) plain requests
  rw [answers_of_faithful own keyed within faithful requests, plainAnswers, uncached_uncached]

/-- A new cache without answers is faithful beside the others. -/
theorem Faithful.addCell (faithful : Faithful caches base store) (cell : Nat) (inner : Oracle σ)
    (limit : Option Nat) :
    Faithful ((cell, inner) :: caches) base (store.setCache cell (.empty limit)) where
  tables_eq := faithful.tables_eq
  answer_eq := by
    intro other wrapped member query answer found
    rw [Store.cache_setCache] at found
    split at found
    case isTrue => cases found
    case isFalse apart =>
      rcases List.mem_cons.mp member with same | old
      · cases same
        exact absurd rfl apart
      · exact faithful.answer_eq other wrapped old query answer found

/-- A cell that no cache has yet can be that of a new one. -/
theorem OwnCells.cons (own : OwnCells caches) {cell : Nat}
    (unused : ∀ inner, (cell, inner) ∉ caches) (inner : Oracle σ) :
    OwnCells ((cell, inner) :: caches) := by
  intro other first second firstMember secondMember
  rcases List.mem_cons.mp firstMember with firstNew | firstOld
  · rcases List.mem_cons.mp secondMember with secondNew | secondOld
    · exact (Prod.mk.inj firstNew).2.trans (Prod.mk.inj secondNew).2.symm
    · cases firstNew
      exact absurd secondOld (unused second)
  · rcases List.mem_cons.mp secondMember with secondNew | secondOld
    · cases secondNew
      exact absurd firstOld (unused first)
    · exact own other first second firstOld secondOld

/-- Behind a new cache in a cell that no other cache has, an oracle answers every session as before. -/
theorem answers_cached (own : OwnCells caches) {oracle : Oracle σ} (keyed : oracle.Keyed)
    (within : oracle.caches ⊆ caches) (faithful : Faithful caches base store) {cell : Nat}
    (unused : ∀ inner, (cell, inner) ∉ caches) (limit : Option Nat) (requests : List Request) :
    (cached cell oracle).answers requests (store.setCache cell (.empty limit)) =
      oracle.answers requests store := by
  have cachedFaithful := faithful.addCell cell oracle limit
  have cachedWithin : (cached cell oracle).caches ⊆ (cell, oracle) :: caches :=
    List.cons_subset_cons _ within
  have cachedKeyed : (cached cell oracle).Keyed := keyed
  rw [answers_of_faithful (own.cons unused oracle) cachedKeyed cachedWithin cachedFaithful,
    answers_of_faithful own keyed within faithful, uncached]

end ConstProp.Oracle
