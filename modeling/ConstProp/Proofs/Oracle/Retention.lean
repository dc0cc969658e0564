import ConstProp.Proofs.Oracle.Observation
import Mathlib.Data.List.Induction

/-!
# What a cache keeps and asks

Behind a cache stands a source whose answers may change at any time, and what the cache answers shows
which of them it has kept. Its keys are the first distinct ones that were asked about since it was last
cleared, fields and calls in one order, as many as its limit lets in (`Oracle.keys_cacheAfter`). Each kept
answer is the one that the source gave when its key came in (`Oracle.keptSince_of_find?`).

So the source is asked about a key that is not kept, once and as it stands, and about no other key. A
cache without limit asks about each key once between two clearings
(`Oracle.exists_received_of_unlimited`).
-/

namespace ConstProp

/-- What happens to a cache in use. -/
inductive Occurrence (σ : Type) where
  /-- It is asked a query. -/
  | query (query : Query)
  /-- It is told to forget its answers. -/
  | clear
  /-- The world changes in which the source behind it answers. -/
  | change (effect : σ → σ)

namespace Occurrence

variable {σ : Type}

/-- The queries that count after an occurrence: a clearing ends the count of all before it. -/
def recount (queries : List Query) : Occurrence σ → List Query
  | .query asked => queries ++ [asked]
  | .clear => []
  | .change _ => queries

/-- The queries asked since the cache was last cleared. -/
def queriesSinceClear (history : List (Occurrence σ)) : List Query :=
  history.foldl recount []

/-- The distinct keys of these queries, each where it was first asked about. -/
def keysSinceClear (history : List (Occurrence σ)) : List Query.Key :=
  ((queriesSinceClear history).map Query.key).eraseDups

@[simp] theorem queriesSinceClear_concat (history : List (Occurrence σ))
    (occurrence : Occurrence σ) :
    queriesSinceClear (history ++ [occurrence]) =
      recount (queriesSinceClear history) occurrence := by
  simp [queriesSinceClear]

@[simp] theorem keysSinceClear_concat_clear (history : List (Occurrence σ)) :
    keysSinceClear (history ++ [.clear]) = [] := by
  simp [keysSinceClear, recount]

@[simp] theorem keysSinceClear_concat_change (history : List (Occurrence σ)) (effect : σ → σ) :
    keysSinceClear (history ++ [.change effect]) = keysSinceClear history := by
  simp [keysSinceClear, recount]

/-- A query adds its key unless it was asked about before. -/
theorem keysSinceClear_concat_query (history : List (Occurrence σ)) (query : Query) :
    keysSinceClear (history ++ [.query query]) =
      if query.key ∈ keysSinceClear history then keysSinceClear history
      else keysSinceClear history ++ [query.key] := by
  have keys : keysSinceClear (history ++ [.query query]) =
      ((queriesSinceClear history).map Query.key ++ [query.key]).eraseDups := by
    simp [keysSinceClear, recount]
  rw [keys, List.eraseDups_append, List.removeAll, List.filter_singleton]
  by_cases asked : query.key ∈ (queriesSinceClear history).map Query.key
  · rw [keysSinceClear, if_pos (List.mem_eraseDups.mpr asked)]
    simp [asked]
  · rw [keysSinceClear, if_neg (mt List.mem_eraseDups.mp asked)]
    simp [asked, List.eraseDups_cons]

end Occurrence

namespace Cache

/-- The first keys of a list, as many as a limit lets in. -/
def firstWithin {α : Type} (limit : Option Nat) (keys : List α) : List α :=
  match limit with
  | some bound => keys.take bound
  | none => keys

@[simp] theorem firstWithin_nil {α : Type} (limit : Option Nat) :
    firstWithin limit ([] : List α) = [] := by
  cases limit <;> simp [firstWithin]

theorem mem_of_mem_firstWithin {α : Type} {limit : Option Nat} {keys : List α} {key : α}
    (member : key ∈ firstWithin limit keys) : key ∈ keys := by
  cases limit with
  | none => exact member
  | some bound => exact List.mem_of_mem_take member

/-- Where a key of a list has not come in, there is room for no other. -/
theorem firstWithin_concat_of_notMem {α : Type} {limit : Option Nat} {keys : List α} {key : α}
    (member : key ∈ keys) (absent : key ∉ firstWithin limit keys) (other : α) :
    firstWithin limit (keys ++ [other]) = firstWithin limit keys := by
  cases limit with
  | none => exact absurd member absent
  | some bound =>
    have full : bound ≤ keys.length := by
      by_contra room
      rw [firstWithin, List.take_of_length_le (by omega)] at absent
      exact absent member
    rw [firstWithin, firstWithin, List.take_append_of_le_length full]

/-- The keys of a cache, in the order in which they came in. -/
def keys (cache : Cache) : List Query.Key :=
  cache.answers.keys

theorem size_eq_length_keys (cache : Cache) : cache.size = cache.keys.length :=
  cache.answers.size_eq_length_keys

theorem find?_eq_none_iff {cache : Cache} {key : Query.Key} :
    cache.find? key = none ↔ key ∉ cache.keys :=
  Registry.find?_eq_none_iff

theorem exists_find?_of_mem_keys {cache : Cache} {key : Query.Key} (member : key ∈ cache.keys) :
    ∃ answer, cache.find? key = some answer := by
  rw [← Option.ne_none_iff_exists']
  exact fun absent => find?_eq_none_iff.mp absent member

theorem mem_keys_of_find? {cache : Cache} {key : Query.Key} {answer : Resolution}
    (found : cache.find? key = some answer) : key ∈ cache.keys := by
  by_contra absent
  rw [find?_eq_none_iff.mpr absent] at found
  cases found

/-- A cache that holds the first of a list of keys takes a new key in as the next of the list. -/
theorem keys_record {cache : Cache} {first : List Query.Key}
    (kept : cache.keys = firstWithin cache.limit first) {key : Query.Key}
    (absent : key ∉ cache.keys) (answer : Resolution) :
    (cache.record key answer).keys = firstWithin cache.limit (first ++ [key]) := by
  have inserted : (cache.answers.insert key answer).keys = cache.keys ++ [key] := by
    rw [Registry.keys_insert]
    exact if_neg absent
  have size := cache.size_eq_length_keys
  cases limited : cache.limit with
  | none =>
    have whole : cache.keys = first := by rw [kept, limited, firstWithin]
    rw [firstWithin, ← whole, ← inserted]
    simp [record, isFull, limited, keys]
  | some bound =>
    rw [limited, firstWithin] at kept
    rw [kept, List.length_take] at size
    rw [firstWithin]
    by_cases room : first.length < bound
    · have open_ : cache.isFull = false := by simp [isFull, limited]; omega
      rw [List.take_of_length_le (by omega)] at kept
      rw [List.take_of_length_le (by simp; omega), ← kept, ← inserted]
      simp [record, open_, keys]
    · have full : cache.isFull = true := by simp [isFull, limited]; omega
      rw [List.take_append_of_le_length (by omega), ← kept]
      simp [record, full]

end Cache

namespace Oracle

variable {σ : Type}

/-- A query whose key is kept is answered from the cache and changes nothing. -/
theorem ask_cached_of_find?_eq_some {cell : Nat} {query : Query} {store : Store σ}
    {answer : Resolution} (kept : (store.cache cell).find? query.key = some answer)
    (inner : Oracle σ) :
    (cached cell inner).ask query store =
      ⟨answer, store, [.cacheHit query.kind query.member]⟩ := by
  simp only [ask, kept]

/-- A query whose key is not kept goes on to what the cache wraps. -/
theorem ask_cached_of_find?_eq_none {cell : Nat} {query : Query} {store : Store σ}
    (absent : (store.cache cell).find? query.key = none) (inner : Oracle σ) :
    let reply := inner.ask query store
    (cached cell inner).ask query store =
      ⟨reply.answer,
        reply.store.setCache cell ((reply.store.cache cell).record query.key reply.answer),
        reply.events⟩ := by
  simp only [ask, absent]

section Histories

variable (respond : Query → σ → Resolution × σ) (limit : Option Nat)
  (store : Store (σ × List Query))

/-- The store after an occurrence at the cache in a cell, around a source that writes down what it is
asked. -/
def attend (cell : Nat) (store : Store (σ × List Query)) : Occurrence σ → Store (σ × List Query)
  | .query query => ((cached cell (recording respond)).ask query store).store
  | .clear => store.setCache cell (store.cache cell).clear
  | .change effect => store.setWorld (effect store.world.1, store.world.2)

/-- The store after a history of a new cache, around a source that writes down what it is asked. -/
def attended (history : List (Occurrence σ)) : Store (σ × List Query) :=
  history.foldl (attend respond (store.addCache limit).1) (store.addCache limit).2

/-- The cache after its history. -/
def cacheAfter (history : List (Occurrence σ)) : Cache :=
  (attended respond limit store history).cache (store.addCache limit).1

/-- The world after the history of a cache. -/
def worldAfter (history : List (Occurrence σ)) : σ :=
  (attended respond limit store history).world.1

/-- The queries that have reached the source by the end of the history of the cache around it. -/
def receivedAfter (history : List (Occurrence σ)) : List Query :=
  (attended respond limit store history).world.2

/-- The answer was given by the source when its key came into the cache, and the cache was not cleared
since. -/
def KeptSince (history : List (Occurrence σ)) (key : Query.Key) (answer : Resolution) : Prop :=
  ∃ earlier query later, history = earlier ++ .query query :: later ∧ query.key = key ∧
    key ∉ (cacheAfter respond limit store earlier).keys ∧
    key ∈ (cacheAfter respond limit store (earlier ++ [.query query])).keys ∧
    Occurrence.clear ∉ later ∧
    answer = (respond query (worldAfter respond limit store earlier)).1

variable {respond} {limit} {store} {history : List (Occurrence σ)} {query : Query}

theorem attended_concat (history : List (Occurrence σ)) (occurrence : Occurrence σ) :
    attended respond limit store (history ++ [occurrence]) =
      attend respond (store.addCache limit).1 (attended respond limit store history)
        occurrence := by
  simp [attended]

@[simp] theorem cacheAfter_nil : cacheAfter respond limit store [] = .empty limit := by
  simp [cacheAfter, attended, Store.addCache, Store.cache_setCache]

@[simp] theorem cacheAfter_concat_clear (history : List (Occurrence σ)) :
    cacheAfter respond limit store (history ++ [.clear]) =
      (cacheAfter respond limit store history).clear := by
  simp [cacheAfter, attended_concat, attend, Store.cache_setCache]

@[simp] theorem cacheAfter_concat_change (history : List (Occurrence σ)) (effect : σ → σ) :
    cacheAfter respond limit store (history ++ [.change effect]) =
      cacheAfter respond limit store history := by
  simp [cacheAfter, attended_concat, attend]

@[simp] theorem receivedAfter_concat_change (history : List (Occurrence σ)) (effect : σ → σ) :
    receivedAfter respond limit store (history ++ [.change effect]) =
      receivedAfter respond limit store history := by
  simp [receivedAfter, attended_concat, attend, Store.setWorld]

/-- A query whose key is kept gets the answer kept for it; the source does not hear of it. -/
theorem ask_attended_of_kept {answer : Resolution}
    (kept : (cacheAfter respond limit store history).find? query.key = some answer) :
    (cached (store.addCache limit).1 (recording respond)).ask query
        (attended respond limit store history) =
      ⟨answer, attended respond limit store history, [.cacheHit query.kind query.member]⟩ :=
  ask_cached_of_find?_eq_some kept _

/-- A query whose key is not kept reaches the source, which answers it as it does then. -/
theorem ask_attended_of_not_kept
    (absent : query.key ∉ (cacheAfter respond limit store history).keys) :
    let now := attended respond limit store history
    let reply := respond query (worldAfter respond limit store history)
    (cached (store.addCache limit).1 (recording respond)).ask query now =
      ⟨reply.1,
        (now.setWorld (reply.2, receivedAfter respond limit store history ++ [query])).setCache
          (store.addCache limit).1
          ((cacheAfter respond limit store history).record query.key reply.1),
        []⟩ :=
  ask_cached_of_find?_eq_none (Cache.find?_eq_none_iff.mpr absent) _

/-- The cache after a query: as it was, or with the answer that the source gives then. -/
theorem cacheAfter_concat_query (history : List (Occurrence σ)) (query : Query) :
    cacheAfter respond limit store (history ++ [.query query]) =
      if query.key ∈ (cacheAfter respond limit store history).keys then
        cacheAfter respond limit store history
      else
        (cacheAfter respond limit store history).record query.key
          (respond query (worldAfter respond limit store history)).1 := by
  rw [cacheAfter, attended_concat, attend]
  split
  case isTrue member =>
    obtain ⟨answer, kept⟩ := Cache.exists_find?_of_mem_keys member
    rw [ask_attended_of_kept kept]
    rfl
  case isFalse absent =>
    rw [ask_attended_of_not_kept absent]
    simp [Store.cache_setCache]

/-- What the source has received after a query: the query too, if its key was not kept. -/
theorem receivedAfter_concat_query (history : List (Occurrence σ)) (query : Query) :
    receivedAfter respond limit store (history ++ [.query query]) =
      if query.key ∈ (cacheAfter respond limit store history).keys then
        receivedAfter respond limit store history
      else receivedAfter respond limit store history ++ [query] := by
  rw [receivedAfter, attended_concat, attend]
  split
  case isTrue member =>
    obtain ⟨answer, kept⟩ := Cache.exists_find?_of_mem_keys member
    rw [ask_attended_of_kept kept]
    rfl
  case isFalse absent =>
    rw [ask_attended_of_not_kept absent]
    rfl

theorem limit_cacheAfter (history : List (Occurrence σ)) :
    (cacheAfter respond limit store history).limit = limit := by
  induction history using List.reverseRecOn with
  | nil => simp [Cache.empty]
  | append_singleton history occurrence inductionHypothesis =>
    cases occurrence with
    | query query =>
      rw [cacheAfter_concat_query]
      split
      · exact inductionHypothesis
      · rw [Cache.limit_record, inductionHypothesis]
    | clear => simpa [Cache.clear] using inductionHypothesis
    | change effect => simpa using inductionHypothesis

/-- The keys of a cache are the first distinct ones that were asked about since it was last cleared, as
many as its limit lets in. -/
theorem keys_cacheAfter (history : List (Occurrence σ)) :
    (cacheAfter respond limit store history).keys =
      Cache.firstWithin limit (Occurrence.keysSinceClear history) := by
  induction history using List.reverseRecOn with
  | nil => simp [Cache.keys, Cache.empty, Occurrence.keysSinceClear, Occurrence.queriesSinceClear]
  | append_singleton history occurrence inductionHypothesis =>
    cases occurrence with
    | query query =>
      rw [cacheAfter_concat_query, Occurrence.keysSinceClear_concat_query]
      by_cases kept : query.key ∈ (cacheAfter respond limit store history).keys
      · have asked : query.key ∈ Occurrence.keysSinceClear history := by
          rw [inductionHypothesis] at kept
          exact Cache.mem_of_mem_firstWithin kept
        rw [if_pos kept, if_pos asked, inductionHypothesis]
      · have limited : (cacheAfter respond limit store history).keys =
            Cache.firstWithin (cacheAfter respond limit store history).limit
              (Occurrence.keysSinceClear history) := by
          rw [limit_cacheAfter, inductionHypothesis]
        have recorded := Cache.keys_record limited kept
          (respond query (worldAfter respond limit store history)).1
        rw [limit_cacheAfter] at recorded
        rw [if_neg kept, recorded]
        split
        case isFalse => rfl
        case isTrue asked =>
          rw [inductionHypothesis] at kept
          exact Cache.firstWithin_concat_of_notMem asked kept query.key
    | clear => simp [Cache.keys, Cache.clear]
    | change effect => simpa using inductionHypothesis

/-- What was kept stays kept until the cache is cleared. -/
theorem KeptSince.concat {key : Query.Key} {answer : Resolution}
    (kept : KeptSince respond limit store history key answer) {occurrence : Occurrence σ}
    (uncleared : occurrence ≠ .clear) :
    KeptSince respond limit store (history ++ [occurrence]) key answer := by
  obtain ⟨earlier, query, later, rfl, sameKey, absent, present, noClear, given⟩ := kept
  refine ⟨earlier, query, later ++ [occurrence], by simp, sameKey, absent, present, ?_, given⟩
  rw [List.mem_append, List.mem_singleton, not_or]
  exact ⟨noClear, uncleared.symm⟩

/-- Each answer in a cache was given by the source when its key came in. -/
theorem keptSince_of_find? {key : Query.Key} {answer : Resolution}
    (found : (cacheAfter respond limit store history).find? key = some answer) :
    KeptSince respond limit store history key answer := by
  induction history using List.reverseRecOn generalizing key answer with
  | nil =>
    rw [cacheAfter_nil] at found
    cases found
  | append_singleton history occurrence inductionHypothesis =>
    cases occurrence with
    | query query =>
      have member := Cache.mem_keys_of_find? found
      rw [cacheAfter_concat_query] at found
      split at found
      case isTrue => exact (inductionHypothesis found).concat (by simp)
      case isFalse absent =>
        rw [Cache.find?_record] at found
        split at found
        case isFalse => exact (inductionHypothesis found).concat (by simp)
        case isTrue new =>
          obtain ⟨rfl, _⟩ := new
          exact ⟨history, query, [], rfl, rfl, absent, member, by simp, (Option.some.inj found).symm⟩
    | clear =>
      rw [cacheAfter_concat_clear, Cache.find?_clear] at found
      cases found
    | change effect =>
      rw [cacheAfter_concat_change] at found
      exact (inductionHypothesis found).concat (by simp)

/-- Without a limit, the source has received one query for each key by the time that it was asked about,
counted from a moment at which nothing was asked since the last clearing. -/
theorem exists_received_of_unlimited {earlier episode : List (Occurrence σ)}
    (start : Occurrence.queriesSinceClear earlier = []) (uncleared : Occurrence.clear ∉ episode) :
    ∃ received,
      receivedAfter respond none store (earlier ++ episode) =
        receivedAfter respond none store earlier ++ received ∧
      received.map Query.key = Occurrence.keysSinceClear (earlier ++ episode) := by
  induction episode using List.reverseRecOn with
  | nil => exact ⟨[], by simp, by simp [Occurrence.keysSinceClear, start]⟩
  | append_singleton episode occurrence inductionHypothesis =>
    rw [List.mem_append, List.mem_singleton, not_or] at uncleared
    obtain ⟨received, record, keys⟩ := inductionHypothesis uncleared.1
    rw [← List.append_assoc]
    cases occurrence with
    | query query =>
      have kept : (cacheAfter respond none store (earlier ++ episode)).keys =
          Occurrence.keysSinceClear (earlier ++ episode) := keys_cacheAfter _
      rw [receivedAfter_concat_query, Occurrence.keysSinceClear_concat_query, kept]
      split
      · exact ⟨received, record, keys⟩
      · exact ⟨received ++ [query], by simp [record], by simp [keys]⟩
    | clear => exact absurd rfl uncleared.2
    | change effect =>
      rw [receivedAfter_concat_change, Occurrence.keysSinceClear_concat_change]
      exact ⟨received, record, keys⟩

/-- Around any source, whose answers may change at any time, a new cache holds after any history the first
distinct keys that were asked about since it was last cleared, as many as its limit lets in. A query
whose key it holds gets the answer that the source gave when the key came in, and the source does not
hear of it; any other query reaches the source once, which answers it as it does now. Without a limit, the
source thus receives one query for each key from one clearing to the next. -/
theorem cache_keeps_first_keys (respond : Query → σ → Resolution × σ) (limit : Option Nat)
    (store : Store (σ × List Query)) (history : List (Occurrence σ)) :
    let cache := cacheAfter respond limit store history
    let world := worldAfter respond limit store history
    let received := receivedAfter respond limit store history
    let now := attended respond limit store history
    let oracle := cached (store.addCache limit).1 (recording respond)
    cache.keys = Cache.firstWithin limit (Occurrence.keysSinceClear history) ∧
    cache.size = cache.keys.length ∧
    (∀ bound, limit = some bound → cache.size ≤ bound) ∧
    (∀ query, query.key ∈ cache.keys →
      (oracle.ask query now).store = now ∧
        KeptSince respond limit store history query.key (oracle.ask query now).answer) ∧
    (∀ query, query.key ∉ cache.keys →
      (oracle.ask query now).answer = (respond query world).1 ∧
        (oracle.ask query now).store.world = ((respond query world).2, received ++ [query])) ∧
    ∀ earlier episode, Occurrence.queriesSinceClear earlier = [] → Occurrence.clear ∉ episode →
      ∃ between,
        receivedAfter respond none store (earlier ++ episode) =
          receivedAfter respond none store earlier ++ between ∧
        between.map Query.key = Occurrence.keysSinceClear (earlier ++ episode) ∧
        (between.map Query.key).Nodup := by
  intro cache world received now oracle
  have keys : cache.keys = Cache.firstWithin limit (Occurrence.keysSinceClear history) :=
    keys_cacheAfter history
  refine ⟨keys, cache.size_eq_length_keys, ?_, ?_, ?_, ?_⟩
  · rintro bound rfl
    rw [cache.size_eq_length_keys, keys, Cache.firstWithin, List.length_take]
    exact Nat.min_le_left _ _
  · intro query member
    obtain ⟨answer, kept⟩ := Cache.exists_find?_of_mem_keys member
    have reply := ask_attended_of_kept kept
    rw [reply]
    exact ⟨rfl, keptSince_of_find? kept⟩
  · intro query absent
    have reply := ask_attended_of_not_kept absent
    rw [reply]
    exact ⟨rfl, rfl⟩
  · intro earlier episode start uncleared
    obtain ⟨between, record, keys⟩ := exists_received_of_unlimited start uncleared
    refine ⟨between, record, keys, ?_⟩
    have kept : (cacheAfter respond none store (earlier ++ episode)).keys =
        Occurrence.keysSinceClear (earlier ++ episode) := keys_cacheAfter _
    rw [keys, ← kept]
    exact (cacheAfter respond none store (earlier ++ episode)).answers.nodup_keys

end Histories

/-- A shared table that is filled while it is asked, behind a cache of one answer. The field was asked
about before it was registered, so it stays unresolved although the table could answer; the call came
second and is looked up anew. Without a limit, each of the two is looked up once after a clearing. -/
theorem cache_keeps_first_keys_table :
    let respond : Query → Store Unit → Resolution × Store Unit := fun query shared =>
      let reply := (Oracle.table 0).ask query shared
      (reply.answer, reply.store)
    let store : Store (Store Unit × List Query) := .empty (.empty (), [])
    let field : Member := ⟨"a/B", "c", "I"⟩
    let read : Query := .field .int field
    let call : Query := .call .int ⟨"a/B", "d", "()I"⟩ []
    let fill : Store Unit → Store Unit := fun shared =>
      match (shared.table 0).insertField field ⟨0x18⟩ (.number (.int 3)) with
      | .ok filled => shared.setTable 0 filled
      | .error _ => shared
    let history : List (Occurrence (Store Unit)) := [.query read, .change fill, .query call]
    let now := attended respond (some 1) store history
    let oracle := cached (store.addCache (some 1)).1 (recording respond)
    let episode : List (Occurrence (Store Unit)) := [.query call, .query read, .query call]
    read.key ∈ (cacheAfter respond (some 1) store history).keys ∧
      call.key ∉ (cacheAfter respond (some 1) store history).keys ∧
      (now.world.1.table 0).answer read = some (.number (.int 3)) ∧
      (oracle.ask read now).answer = none ∧ (oracle.ask read now).store = now ∧
      KeptSince respond (some 1) store history read.key none ∧
      (oracle.ask call now).store.world.2 = [read, call, call] ∧
      Occurrence.queriesSinceClear (history ++ [.clear]) = [] ∧ Occurrence.clear ∉ episode ∧
      ∃ between,
        receivedAfter respond none store ((history ++ [.clear]) ++ episode) =
          receivedAfter respond none store (history ++ [.clear]) ++ between ∧
        between.map Query.key = [call.key, read.key] := by
  intro respond store field read call fill history now oracle episode
  obtain ⟨_, _, _, keptQueries, otherQueries, unlimited⟩ :=
    cache_keeps_first_keys respond (some 1) store history
  have kept : read.key ∈ (cacheAfter respond (some 1) store history).keys := by decide
  have absent : call.key ∉ (cacheAfter respond (some 1) store history).keys := by decide
  have answer : (oracle.ask read now).answer = none := by decide
  have start : Occurrence.queriesSinceClear (history ++ [.clear]) = [] := by decide
  have uncleared : Occurrence.clear ∉ episode := by simp [episode]
  obtain ⟨unchanged, since⟩ := keptQueries read kept
  obtain ⟨_, world⟩ := otherQueries call absent
  obtain ⟨between, record, keys, _⟩ := unlimited (history ++ [.clear]) episode start uncleared
  refine ⟨kept, absent, by decide, answer, unchanged, answer ▸ since, ?_, start, uncleared, between,
    record, ?_⟩
  · rw [world]
    decide
  · rw [keys]
    decide

end Oracle

end ConstProp
