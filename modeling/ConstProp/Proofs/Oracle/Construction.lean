import ConstProp.Evaluation.Policy
import ConstProp.Proofs.Oracle.Transparency

/-!
# Construction of oracles

Oracles are put together one after another, each from parts that are at hand: sources, chains of parts,
and new caches around a part, with a limit or without. A part can go into several others, and then they
share its caches. Every cache has a cell of its own and begins without answers, whatever the order of
construction (`Built.tidy`), so everything that can be put together answers as it does without caches
(`caches_transparent`).
-/

namespace ConstProp.Oracle

variable {σ : Type}

/-- A store and the oracles at hand whose cells it holds, as they are put together from nothing. Of
foreign sources only those are used that answer by key, and the tables are filled beforehand. -/
inductive Built : Store σ → List (Oracle σ) → Prop where
  | nothing (world : σ) : Built (.empty world) []
  | silent {store oracles} (built : Built store oracles) : Built store (.silent :: oracles)
  | intrinsics {store oracles} (built : Built store oracles) : Built store (.intrinsics :: oracles)
  | table {store oracles} (built : Built store oracles) (table : ConstantTable) :
      Built (store.addTable.2.setTable store.addTable.1 table) (.table store.addTable.1 :: oracles)
  | foreign {store oracles respond} (built : Built store oracles) (keyed : IsKeyed respond) :
      Built store (.foreign respond :: oracles)
  | chain {store oracles links} (built : Built store oracles) (atHand : links ⊆ oracles) :
      Built store (chain links :: oracles)
  | cached {store oracles inner} (built : Built store oracles) (atHand : inner ∈ oracles)
      (limit : Option Nat) :
      Built (store.addCache limit).2 (.cached (store.addCache limit).1 inner :: oracles)

/-- The caches of several oracles. -/
def allCaches (oracles : List (Oracle σ)) : List (Nat × Oracle σ) :=
  oracles.flatMap caches

theorem caches_subset_allCaches {oracles : List (Oracle σ)} {oracle : Oracle σ}
    (atHand : oracle ∈ oracles) : oracle.caches ⊆ allCaches oracles := by
  intro cache member
  exact List.mem_flatMap.mpr ⟨oracle, atHand, member⟩

/-- Each cache of the oracles has a cell of its own in the store, which holds no answer, and the cells
of the store are numbered without gaps. -/
structure Tidy (store : Store σ) (oracles : List (Oracle σ)) : Prop where
  keyed : ∀ oracle ∈ oracles, oracle.Keyed
  own : OwnCells (allCaches oracles)
  allocated : ∀ cell inner, (cell, inner) ∈ allCaches oracles → cell < store.caches.size
  blank : ∀ cell inner, (cell, inner) ∈ allCaches oracles → (store.cache cell).isEmpty = true
  numbered : ∀ cell ∈ store.caches.keys, cell < store.caches.size

/-- An oracle that brings no caches of its own leaves everything tidy. -/
theorem Tidy.cons {store : Store σ} {oracles : List (Oracle σ)} (tidy : Tidy store oracles)
    {oracle : Oracle σ} (keyed : oracle.Keyed) (within : oracle.caches ⊆ allCaches oracles) :
    Tidy store (oracle :: oracles) := by
  have among : allCaches (oracle :: oracles) ⊆ allCaches oracles := by
    rw [allCaches, List.flatMap_cons]
    exact List.append_subset.mpr ⟨within, List.Subset.refl _⟩
  refine ⟨?_, ?_, ?_, ?_, tidy.numbered⟩
  · intro other member
    rcases List.mem_cons.mp member with rfl | atHand
    · exact keyed
    · exact tidy.keyed other atHand
  · intro cell first second firstMember secondMember
    exact tidy.own cell first second (among firstMember) (among secondMember)
  · intro cell inner member
    exact tidy.allocated cell inner (among member)
  · intro cell inner member
    exact tidy.blank cell inner (among member)

/-- A new cache around an oracle at hand leaves everything tidy. -/
theorem Tidy.addCache {store : Store σ} {oracles : List (Oracle σ)} (tidy : Tidy store oracles)
    {inner : Oracle σ} (atHand : inner ∈ oracles) (limit : Option Nat) :
    Tidy (store.addCache limit).2 (.cached (store.addCache limit).1 inner :: oracles) := by
  have among : allCaches (.cached store.caches.size inner :: oracles) ⊆
      (store.caches.size, inner) :: allCaches oracles := by
    rw [allCaches, List.flatMap_cons, Oracle.caches, List.cons_append]
    refine List.cons_subset_cons _ (List.append_subset.mpr ⟨?_, List.Subset.refl _⟩)
    exact caches_subset_allCaches atHand
  have unused : ∀ other, (store.caches.size, other) ∉ allCaches oracles := by
    intro other member
    exact Nat.lt_irrefl _ (tidy.allocated _ _ member)
  have keys : (store.addCache limit).2.caches.keys = store.caches.keys ++ [store.caches.size] := by
    have absent : store.caches.size ∉ store.caches.keys :=
      fun present => Nat.lt_irrefl _ (tidy.numbered _ present)
    simp [Store.addCache, Store.setCache, Registry.keys_insert, absent]
  have size : (store.addCache limit).2.caches.size = store.caches.size + 1 := by
    rw [Registry.size_eq_length_keys, keys, Registry.size_eq_length_keys]
    simp
  refine ⟨?_, ?_, ?_, ?_, ?_⟩
  · intro other member
    rcases List.mem_cons.mp member with rfl | otherAtHand
    · exact tidy.keyed inner atHand
    · exact tidy.keyed other otherAtHand
  · intro cell first second firstMember secondMember
    exact tidy.own.cons unused inner cell first second (among firstMember) (among secondMember)
  · intro cell wrapped member
    rw [size]
    rcases List.mem_cons.mp (among member) with new | old
    · cases new
      exact Nat.lt_succ_self _
    · exact Nat.lt_succ_of_lt (tidy.allocated cell wrapped old)
  · intro cell wrapped member
    rw [Store.addCache, Store.cache_setCache]
    split
    case isTrue => rfl
    case isFalse apart =>
      rcases List.mem_cons.mp (among member) with new | old
      · cases new
        exact absurd rfl apart
      · exact tidy.blank cell wrapped old
  · intro cell present
    rw [keys] at present
    rw [size]
    rcases List.mem_append.mp present with old | new
    · exact Nat.lt_succ_of_lt (tidy.numbered cell old)
    · cases List.mem_singleton.mp new
      exact Nat.lt_succ_self _

/-- Whatever is put together is tidy. -/
theorem Built.tidy {store : Store σ} {oracles : List (Oracle σ)} (built : Built store oracles) :
    Tidy store oracles := by
  induction built with
  | nothing world =>
    exact ⟨by simp, by simp [OwnCells, allCaches], by simp [allCaches], by simp [allCaches],
      by simp [Store.empty]⟩
  | silent _ inductionHypothesis => exact inductionHypothesis.cons trivial (List.nil_subset _)
  | intrinsics _ inductionHypothesis => exact inductionHypothesis.cons trivial (List.nil_subset _)
  | @table store oracles _ table inductionHypothesis =>
    have tidy : Tidy store (.table store.addTable.1 :: oracles) :=
      inductionHypothesis.cons trivial (List.nil_subset _)
    exact ⟨tidy.keyed, tidy.own, tidy.allocated, tidy.blank, tidy.numbered⟩
  | foreign _ keyed inductionHypothesis =>
    exact inductionHypothesis.cons keyed (List.nil_subset _)
  | chain _ atHand inductionHypothesis =>
    refine inductionHypothesis.cons (.chain ?_) ?_
    · intro link member
      exact inductionHypothesis.keyed link (atHand member)
    · rw [caches_chain]
      intro cache member
      obtain ⟨link, linkMember, cacheMember⟩ := List.mem_flatMap.mp member
      exact caches_subset_allCaches (atHand linkMember) cacheMember
  | cached _ atHand limit inductionHypothesis => exact inductionHypothesis.addCache atHand limit

/-- Around a foreign source whose answers are a function of the key of the query, a new cache answers by
that function. -/
theorem answers_cached_foreign {respond : Query → σ → Resolution × σ}
    {answerTo : Query → Resolution} (pure : ∀ query world, (respond query world).1 = answerTo query)
    (byKey : ∀ first second, first.key = second.key → answerTo first = answerTo second)
    (limit : Option Nat) (store : Store σ) (requests : List Request) :
    (cached (store.addCache limit).1 (foreign respond)).answers requests
        (store.addCache limit).2 =
      (requests.filterMap Request.query?).map answerTo := by
  have keyed : (foreign respond).Keyed := by
    intro first second same world other
    rw [pure, pure, byKey first second same]
  have own : OwnCells (foreign respond).caches := by simp [OwnCells, caches]
  have within := List.Subset.refl (foreign respond).caches
  have faithful : Faithful (foreign respond).caches store store :=
    Faithful.of_isEmpty (by simp [caches])
  have unused : ∀ inner, (store.caches.size, inner) ∉ (foreign respond).caches := by
    simp [caches]
  refine (answers_cached own keyed within faithful unused limit requests).trans ?_
  rw [answers_of_faithful own keyed within faithful]
  simp [uncached, ask, pure]

/-- Prepared for a policy, after an earlier session or before any, an oracle answers as it does
itself. -/
theorem Tidy.answers_install {store : Store σ} {oracles : List (Oracle σ)}
    (tidy : Tidy store oracles) {oracle : Oracle σ} (atHand : oracle ∈ oracles) (policy : Policy)
    (earlier later : List Request) :
    (policy.install oracle (oracle.after earlier store)).1.answers later
        (policy.install oracle (oracle.after earlier store)).2 =
      oracle.answers later (oracle.after earlier store) := by
  have keyed := tidy.keyed oracle atHand
  have within := caches_subset_allCaches atHand
  have faithful : Faithful (allCaches oracles) store (oracle.after earlier store) :=
    (Faithful.of_isEmpty tidy.blank).after tidy.own keyed within earlier
  -- The new cache takes the next free cell, which is beyond all that were there before the session.
  have kept := oracle.size_caches_after earlier store
  have unused : ∀ inner,
      ((oracle.after earlier store).caches.size, inner) ∉ allCaches oracles := by
    intro inner member
    have allocated := tidy.allocated _ _ member
    omega
  unfold Policy.install
  split
  · exact answers_cached tidy.own keyed within faithful unused none later
  · rfl

/-- Caches do not show in the answers. Around a foreign source whose answers are a function of the key of
the query, a new cache with any limit answers each query of a session by that function. Whatever is put
together answers the queries of a session by the same function of their keys, namely as it does with all
caches taken out; and prepared for a policy, also after an earlier session, it answers as it does
itself. -/
theorem caches_transparent :
    (∀ (respond : Query → σ → Resolution × σ) (answerTo : Query → Resolution),
      (∀ query world, (respond query world).1 = answerTo query) →
      (∀ first second, first.key = second.key → answerTo first = answerTo second) →
      ∀ (limit : Option Nat) (store : Store σ) (requests : List Request),
        (cached (store.addCache limit).1 (foreign respond)).answers requests
            (store.addCache limit).2 =
          (requests.filterMap Request.query?).map answerTo) ∧
    ∀ (store : Store σ) (oracles : List (Oracle σ)), Built store oracles → ∀ oracle ∈ oracles,
      (∀ first second, first.key = second.key →
        (oracle.uncached.ask first store).answer = (oracle.uncached.ask second store).answer) ∧
      (∀ requests, oracle.answers requests store =
        (requests.filterMap Request.query?).map
          fun query => (oracle.uncached.ask query store).answer) ∧
      (∀ requests, oracle.answers requests store = oracle.uncached.answers requests store) ∧
      ∀ (policy : Policy) (earlier later : List Request),
        let warm := oracle.after earlier store
        (policy.install oracle warm).1.answers later (policy.install oracle warm).2 =
          oracle.answers later warm := by
  constructor
  · intro respond answerTo pure byKey limit store requests
    exact answers_cached_foreign pure byKey limit store requests
  · intro store oracles built oracle atHand
    have tidy := built.tidy
    have keyed := tidy.keyed oracle atHand
    have within := caches_subset_allCaches atHand
    have faithful : Faithful (allCaches oracles) store store := Faithful.of_isEmpty tidy.blank
    refine ⟨?_, ?_, ?_, ?_⟩
    · intro first second same
      exact answer_uncached_congr keyed same rfl
    · intro requests
      exact answers_of_faithful tidy.own keyed within faithful requests
    · intro requests
      exact answers_eq_answers_uncached tidy.own keyed within faithful requests
    · intro policy earlier later warm
      exact tidy.answers_install atHand policy earlier later

/-- A source that counts its queries and answers with the first argument, alone behind a cache of one
answer, and behind that cache, the intrinsic methods and another cache. A character and an integer of the
same code have one key, and the clearing in between is not seen. -/
theorem caches_transparent_nested :
    let respond : Query → Nat → Resolution × Nat :=
      fun query asked => (query.key.arguments.head?.join, asked + 1)
    let ask : Number → Request :=
      fun number => .query (.call .int ⟨"a/B", "c", "(I)I"⟩ [.ofNumber .int ⟨0⟩ number])
    let requests : List Request := [ask (.char 65), ask (.int 65), .clear 0, ask (.int 66)]
    let single : Store Nat := ((Store.empty 0).addCache (some 1)).2
    let double : Store Nat := (single.addCache none).2
    let inner : Oracle Nat := .cached 0 (.foreign respond)
    let links : Oracle Nat := chain [.intrinsics, inner]
    inner.answers requests single =
        [some (.number (.int 65)), some (.number (.int 65)), some (.number (.int 66))] ∧
      Built double [.cached 1 links, links, .intrinsics, inner, .foreign respond] ∧
      (Oracle.cached 1 links).answers requests double = links.uncached.answers requests double := by
  intro respond ask requests single double inner links
  have pure : ∀ query world, (respond query world).1 = query.key.arguments.head?.join :=
    fun _ _ => rfl
  have byKey : ∀ first second : Query, first.key = second.key →
      first.key.arguments.head?.join = second.key.arguments.head?.join :=
    fun _ _ same => by rw [same]
  have keyed : IsKeyed respond := fun first second same _ _ => byKey first second same
  have source : Built (.empty 0) [.foreign respond] := (Built.nothing 0).foreign keyed
  have innerBuilt : Built single [.intrinsics, inner, .foreign respond] :=
    (source.cached (by simp) (some 1)).intrinsics
  have linksBuilt : Built single [links, .intrinsics, inner, .foreign respond] :=
    innerBuilt.chain (by simp)
  have built : Built double [.cached 1 links, links, .intrinsics, inner, .foreign respond] :=
    linksBuilt.cached (by simp) none
  obtain ⟨behindCache, assembled⟩ := caches_transparent (σ := Nat)
  have answers := behindCache respond _ pure byKey (some 1) (.empty 0) requests
  obtain ⟨_, _, withoutCaches, _⟩ := assembled _ _ built _ List.mem_cons_self
  exact ⟨answers, built, withoutCaches requests⟩

end ConstProp.Oracle
