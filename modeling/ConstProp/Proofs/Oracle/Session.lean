import ConstProp.Proofs.Oracle.Keys

/-!
# Sessions with an oracle

While an analysis runs, an oracle is asked one query after another, and now and then one of its caches is
cleared. A session is the sequence of these requests; what can be seen of it are the answers.

What an oracle would answer on its own, without any of its caches, is the measure for the answers that it
gives with them. It depends on the key of the query and on the tables alone (`answer_uncached_congr`), and
asking changes no table (`tables_ask`), so it stays the same throughout a session.
-/

namespace ConstProp

/-- What may be asked of an oracle in use. -/
inductive Request where
  /-- The answer to a query. -/
  | query (query : Query)
  /-- That the cache in a cell forgets its answers. -/
  | clear (cell : Nat)

/-- The query of a request, if it is one. -/
def Request.query? : Request → Option Query
  | .query asked => some asked
  | .clear _ => none

@[simp] theorem Request.query?_query (asked : Query) : (query asked).query? = some asked := rfl

@[simp] theorem Request.query?_clear (cell : Nat) : (clear cell).query? = none := rfl

namespace Oracle

variable {σ : Type}

/-- The store after a request. -/
def serve (oracle : Oracle σ) (store : Store σ) : Request → Store σ
  | .query query => (oracle.ask query store).store
  | .clear cell => store.setCache cell (store.cache cell).clear

/-- The store after a sequence of requests. -/
def after (oracle : Oracle σ) (requests : List Request) (store : Store σ) : Store σ :=
  requests.foldl oracle.serve store

/-- The answers to the queries in a sequence of requests. -/
def answers (oracle : Oracle σ) : List Request → Store σ → List Resolution
  | [], _ => []
  | request :: rest, store =>
    match request with
    | .query query => (oracle.ask query store).answer :: oracle.answers rest (oracle.serve store request)
    | .clear _ => oracle.answers rest (oracle.serve store request)

/-- The oracle with all caches taken out. -/
def uncached : Oracle σ → Oracle σ
  | .orElse first second => .orElse first.uncached second.uncached
  | .cached _ inner => inner.uncached
  | .metered cell inner => .metered cell inner.uncached
  | oracle => oracle

/-- The caches of an oracle: the cell of each, with the oracle that the cache wraps. -/
def caches : Oracle σ → List (Nat × Oracle σ)
  | .orElse first second => first.caches ++ second.caches
  | .cached cell inner => (cell, inner) :: inner.caches
  | .metered _ inner => inner.caches
  | _ => []

/-- A cell that occurs more than once is the same cache each time. -/
def OwnCells (caches : List (Nat × Oracle σ)) : Prop :=
  ∀ cell first second, (cell, first) ∈ caches → (cell, second) ∈ caches → first = second

/-- The answer of a chain link is that of the next one if it cannot tell. -/
theorem answer_ask_orElse (first second : Oracle σ) (query : Query) (store : Store σ) :
    ((orElse first second).ask query store).answer =
      (first.ask query store).answer.or (second.ask query (first.ask query store).store).answer := by
  simp only [ask]
  cases found : (first.ask query store).answer <;> simp [found]

/-- Asking changes no table. -/
@[simp] theorem tables_ask (oracle : Oracle σ) (query : Query) (store : Store σ) :
    (oracle.ask query store).store.tables = store.tables := by
  induction oracle generalizing store with
  | silent | intrinsics | table _ | foreign _ => rfl
  | orElse first second firstHypothesis secondHypothesis =>
    simp only [ask]
    split
    · exact firstHypothesis store
    · exact (secondHypothesis _).trans (firstHypothesis store)
  | cached cell inner inductionHypothesis =>
    simp only [ask]
    split
    · rfl
    · exact inductionHypothesis store
  | metered cell inner inductionHypothesis => exact inductionHypothesis store

/-- Without caches, the key of a query and the tables decide the answer. -/
theorem answer_uncached_congr {oracle : Oracle σ} (keyed : oracle.Keyed) {first second : Query}
    (sameKey : first.key = second.key) {store other : Store σ}
    (sameTables : store.tables = other.tables) :
    (oracle.uncached.ask first store).answer = (oracle.uncached.ask second other).answer := by
  induction oracle generalizing store other with
  | silent => rfl
  | intrinsics => exact Intrinsic.answer_eq_of_key sameKey
  | table cell =>
    have sameTable : store.table cell = other.table cell := by
      simp only [Store.table, sameTables]
    simp only [uncached, ask, sameTable]
    exact ConstantTable.answer_eq_of_key _ sameKey
  | foreign respond => exact keyed first second sameKey store.world other.world
  | orElse left right leftHypothesis rightHypothesis =>
    have later : (left.uncached.ask first store).store.tables =
        (left.uncached.ask second other).store.tables := by
      rw [tables_ask, tables_ask, sameTables]
    simp only [uncached, answer_ask_orElse]
    rw [leftHypothesis keyed.1 sameTables, rightHypothesis keyed.2 later]
  | cached cell inner inductionHypothesis => exact inductionHypothesis keyed sameTables
  | metered cell inner inductionHypothesis => exact inductionHypothesis keyed sameTables

/-- Without caches, a chain link can be asked in the store in which the one before it was asked. -/
theorem answer_uncached_orElse {first second : Oracle σ} (keyed : (orElse first second).Keyed)
    (query : Query) (store : Store σ) :
    ((orElse first second).uncached.ask query store).answer =
      (first.uncached.ask query store).answer.or (second.uncached.ask query store).answer := by
  rw [uncached, answer_ask_orElse]
  rw [answer_uncached_congr keyed.2 rfl (tables_ask first.uncached query store)]

/-- The caches of a chain are those of its links. -/
@[simp] theorem caches_chain (links : List (Oracle σ)) :
    (chain links).caches = links.flatMap caches := by
  induction links with
  | nil => rfl
  | cons first rest inductionHypothesis => simp [chain, caches, inductionHypothesis]

/-- A request takes no cell of a cache away. -/
theorem size_caches_serve (oracle : Oracle σ) (store : Store σ) (request : Request) :
    store.caches.size ≤ (oracle.serve store request).caches.size := by
  cases request with
  | query query =>
    rw [serve]
    induction oracle generalizing store with
    | silent | intrinsics | table _ | foreign _ => exact Nat.le_refl _
    | orElse first second firstHypothesis secondHypothesis =>
      simp only [ask]
      split
      · exact firstHypothesis store
      · exact Nat.le_trans (firstHypothesis store) (secondHypothesis _)
    | cached cell inner inductionHypothesis =>
      simp only [ask]
      split
      · exact Nat.le_refl _
      · exact Nat.le_trans (inductionHypothesis store) (Registry.size_le_size_insert _ _ _)
    | metered cell inner inductionHypothesis => exact inductionHypothesis store
  | clear cell => exact Registry.size_le_size_insert _ _ _

/-- A session takes no cell of a cache away. -/
theorem size_caches_after (oracle : Oracle σ) (requests : List Request) (store : Store σ) :
    store.caches.size ≤ (oracle.after requests store).caches.size := by
  induction requests generalizing store with
  | nil => exact Nat.le_refl _
  | cons request rest inductionHypothesis =>
    exact Nat.le_trans (oracle.size_caches_serve store request) (inductionHypothesis _)

/-- Without its caches an oracle has none left to take out. -/
@[simp] theorem uncached_uncached (oracle : Oracle σ) : oracle.uncached.uncached = oracle.uncached := by
  induction oracle with
  | silent | intrinsics | table _ | foreign _ => rfl
  | orElse first second firstHypothesis secondHypothesis =>
    simp [uncached, firstHypothesis, secondHypothesis]
  | cached _ inner inductionHypothesis => exact inductionHypothesis
  | metered _ inner inductionHypothesis => simp [uncached, inductionHypothesis]

@[simp] theorem caches_uncached (oracle : Oracle σ) : oracle.uncached.caches = [] := by
  induction oracle with
  | silent | intrinsics | table _ | foreign _ => rfl
  | orElse first second firstHypothesis secondHypothesis =>
    simp [uncached, caches, firstHypothesis, secondHypothesis]
  | cached _ inner inductionHypothesis => exact inductionHypothesis
  | metered _ inner inductionHypothesis => simpa [uncached, caches] using inductionHypothesis

/-- Taking out caches leaves all foreign sources as they are. -/
theorem ForeignAll.uncached {sort : (Query → σ → Resolution × σ) → Prop} {oracle : Oracle σ}
    (all : oracle.ForeignAll sort) : oracle.uncached.ForeignAll sort := by
  induction oracle with
  | silent | intrinsics | table _ | foreign _ => exact all
  | orElse first second firstHypothesis secondHypothesis =>
    exact ⟨firstHypothesis all.1, secondHypothesis all.2⟩
  | cached _ inner inductionHypothesis => exact inductionHypothesis all
  | metered _ inner inductionHypothesis => exact inductionHypothesis all

end Oracle

end ConstProp
