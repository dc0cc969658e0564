import ConstProp.Proofs.Oracle.Session

/-!
# Chains of chains

The links of a chain may be chains themselves. A chain tree says which: its leaves are sources, and each
inner node chains what its branches make, which may be nothing at all. The same source can stand at several
leaves, and sources can share what they keep in the store.

For whoever asks, trying one oracle before another is associative and the silent oracle is its unit
(`Oracle.ask_orElse_assoc`, `Oracle.ask_silent_orElse`, `Oracle.ask_orElse_silent`). So nothing of the tree
counts but its leaves in order (`ChainTree.ask_build`).

What the leaves see of this is in a notebook that every source fills as it is asked. A query reaches the
leaves in turn, up to the first that can tell, and no further
(`ChainTree.ask_build_consults_leaves_in_turn`).
-/

namespace ConstProp

namespace Oracle

variable {σ : Type}

theorem ask_orElse_of_known {first second : Oracle σ} {query : Query} {store : Store σ}
    {constant : Constant} (known : (first.ask query store).answer = some constant) :
    (first.orElse second).ask query store = first.ask query store := by
  simp only [ask, known]

theorem ask_orElse_of_unresolved {first second : Oracle σ} {query : Query} {store : Store σ}
    (unresolved : (first.ask query store).answer = none) :
    (first.orElse second).ask query store =
      let next := second.ask query (first.ask query store).store
      ⟨next.answer, next.store, (first.ask query store).events ++ next.events⟩ := by
  simp only [ask, unresolved]

/-- Which two of three oracles are put together first makes no difference to asking. -/
theorem ask_orElse_assoc (first second third : Oracle σ) :
    ((first.orElse second).orElse third).ask = (first.orElse (second.orElse third)).ask := by
  funext query store
  cases told : (first.ask query store).answer with
  | some constant => simp [ask, told]
  | none =>
    cases toldNext : (second.ask query (first.ask query store).store).answer <;>
      simp [ask, told, toldNext]

@[simp] theorem ask_silent_orElse (oracle : Oracle σ) : (silent.orElse oracle).ask = oracle.ask := rfl

@[simp] theorem ask_orElse_silent (oracle : Oracle σ) : (oracle.orElse silent).ask = oracle.ask := by
  funext query store
  cases told : (oracle.ask query store).answer with
  | some constant => exact ask_orElse_of_known told
  | none =>
    rw [ask_orElse_of_unresolved told]
    simp [ask, ← told]

/-- Oracles that are asked alike can stand for each other in a chain. -/
theorem ask_orElse_congr {first second rest others : Oracle σ} (same : first.ask = second.ask)
    (sameRest : rest.ask = others.ask) : (first.orElse rest).ask = (second.orElse others).ask := by
  funext query store
  simp only [ask, same, sameRest]

theorem chain_eq_foldr (oracles : List (Oracle σ)) : chain oracles = oracles.foldr .orElse .silent := by
  induction oracles with
  | nil => rfl
  | cons first rest inductionHypothesis => rw [chain, inductionHypothesis, List.foldr_cons]

/-- A chain that is cut in two is its front part with the back part to fall back on. -/
theorem ask_chain_append (front back : List (Oracle σ)) :
    (chain (front ++ back)).ask = ((chain front).orElse (chain back)).ask := by
  induction front with
  | nil => rfl
  | cons first rest inductionHypothesis =>
    calc (first.orElse (chain (rest ++ back))).ask
      _ = (first.orElse ((chain rest).orElse (chain back))).ask :=
        ask_orElse_congr rfl inductionHypothesis
      _ = ((first.orElse (chain rest)).orElse (chain back)).ask := (ask_orElse_assoc _ _ _).symm

/-- The answers of oracles to a query that all of them are asked in turn, whether or not one before can
tell. -/
def answersInTurn : List (Oracle σ) → Query → Store σ → List Resolution
  | [], _, _ => []
  | first :: rest, query, store =>
    let reply := first.ask query store
    reply.answer :: answersInTurn rest query reply.store

/-- A chain answers what is left of all answers when each that cannot tell gives way to those behind it. -/
theorem answer_ask_chain (oracles : List (Oracle σ)) (query : Query) (store : Store σ) :
    ((chain oracles).ask query store).answer =
      (answersInTurn oracles query store).foldr Option.or none := by
  induction oracles generalizing store with
  | nil => rfl
  | cons first rest inductionHypothesis =>
    rw [chain, answer_ask_orElse, inductionHypothesis, answersInTurn, List.foldr_cons]

end Oracle

/-- One query as it reached a source, and the answer of the source. -/
structure Consultation (ι : Type) where
  source : ι
  query : Query
  answer : Resolution

/-- The store of some oracles, and the consultations of them so far. -/
abbrev Notebook (σ ι : Type) := Store σ × List (Consultation ι)

/-- The consultations when sources are asked a query in turn, up to the first that can tell, and the
answer that comes of them. -/
def ConsultedInTurn {ι : Type} (query : Query) (sources : List ι)
    (consultations : List (Consultation ι)) (answer : Resolution) : Prop :=
  (answer = none ∧ consultations = sources.map fun source => ⟨source, query, none⟩) ∨
    ∃ earlier source later constant,
      sources = earlier ++ source :: later ∧ answer = some constant ∧
        consultations =
          earlier.map (fun source => ⟨source, query, none⟩) ++ [⟨source, query, some constant⟩]

theorem ConsultedInTurn.cons {ι : Type} {query : Query} {sources : List ι}
    {consultations : List (Consultation ι)} {answer : Resolution}
    (rest : ConsultedInTurn query sources consultations answer) (source : ι) :
    ConsultedInTurn query (source :: sources) (⟨source, query, none⟩ :: consultations) answer := by
  obtain ⟨unresolved, rfl⟩ | ⟨earlier, last, later, constant, rfl, known, rfl⟩ := rest
  · exact Or.inl ⟨unresolved, rfl⟩
  · exact Or.inr ⟨source :: earlier, last, later, constant, rfl, known, rfl⟩

namespace Oracle

variable {σ ι : Type}

/-- An oracle that answers like another and notes every query that reaches it. -/
def noted (oracle : Oracle σ) (source : ι) : Oracle (Notebook σ ι) :=
  .foreign fun query notebook =>
    let reply := oracle.ask query notebook.1
    (reply.answer, reply.store, notebook.2 ++ [⟨source, query, reply.answer⟩])

/-- Noting what reaches the links of a chain changes nothing of what they answer and keep, and the notes
are those of links that are asked in turn. -/
theorem ask_chain_noted (source : ι → Oracle σ) (sources : List ι) (query : Query)
    (store : Store (Notebook σ ι)) :
    let plain := (chain (sources.map source)).ask query store.world.1
    let reply := (chain (sources.map fun name => (source name).noted name)).ask query store
    reply.answer = plain.answer ∧ reply.store.world.1 = plain.store ∧
      ∃ consultations, reply.store.world.2 = store.world.2 ++ consultations ∧
        ConsultedInTurn query sources consultations plain.answer := by
  induction sources generalizing store with
  | nil => exact ⟨rfl, rfl, [], by simp [chain, ask], Or.inl ⟨rfl, rfl⟩⟩
  | cons first rest inductionHypothesis =>
    simp only [List.map_cons, chain]
    cases told : ((source first).ask query store.world.1).answer with
    | some constant =>
      have notedTold : (((source first).noted first).ask query store).answer = some constant := told
      rw [ask_orElse_of_known told, ask_orElse_of_known notedTold]
      refine ⟨rfl, rfl, [⟨first, query, some constant⟩], ?_, ?_⟩
      · rw [← told]
        rfl
      · exact Or.inr ⟨[], first, rest, constant, rfl, told, rfl⟩
    | none =>
      have notedTold : (((source first).noted first).ask query store).answer = none := told
      rw [ask_orElse_of_unresolved told, ask_orElse_of_unresolved notedTold]
      obtain ⟨sameAnswer, sameStore, consultations, notes, inTurn⟩ :=
        inductionHypothesis (((source first).noted first).ask query store).store
      refine ⟨sameAnswer, sameStore, ⟨first, query, none⟩ :: consultations, ?_, inTurn.cons first⟩
      rw [List.append_cons, ← told]
      exact notes

end Oracle

/-- The chains within a chain. -/
inductive ChainTree (ι : Type) where
  /-- A single source. -/
  | leaf (source : ι)
  /-- A chain of what the branches make. -/
  | chain (branches : List (ChainTree ι))

namespace ChainTree

variable {σ ι : Type}

mutual

/-- The sources from left to right. -/
def leaves : ChainTree ι → List ι
  | .leaf source => [source]
  | .chain branches => leavesAll branches

/-- The sources of several trees from left to right. -/
def leavesAll : List (ChainTree ι) → List ι
  | [] => []
  | first :: rest => first.leaves ++ leavesAll rest

end

mutual

/-- The oracle that a tree makes of its sources. -/
def build (source : ι → Oracle σ) : ChainTree ι → Oracle σ
  | .leaf name => source name
  | .chain branches => Oracle.chain (buildAll source branches)

/-- The oracles that several trees make of their sources. -/
def buildAll (source : ι → Oracle σ) : List (ChainTree ι) → List (Oracle σ)
  | [] => []
  | first :: rest => first.build source :: buildAll source rest

end

mutual

/-- A chain of chains is asked like the flat chain of its leaves. -/
theorem ask_build (source : ι → Oracle σ) :
    ∀ tree : ChainTree ι, (tree.build source).ask = (Oracle.chain (tree.leaves.map source)).ask
  | .leaf name => (Oracle.ask_orElse_silent (source name)).symm
  | .chain branches => ask_chain_buildAll source branches

/-- The trees of a list in turn are asked like the flat chain of all their leaves. -/
theorem ask_chain_buildAll (source : ι → Oracle σ) :
    ∀ branches : List (ChainTree ι),
      (Oracle.chain (buildAll source branches)).ask =
        (Oracle.chain ((leavesAll branches).map source)).ask
  | [] => rfl
  | first :: rest => by
    rw [leavesAll, List.map_append, Oracle.ask_chain_append]
    exact Oracle.ask_orElse_congr (ask_build source first) (ask_chain_buildAll source rest)

end

/-- A chain of chains is asked like the flat chain of its leaves, for whoever asks and for its leaves: the
query reaches the leaves in turn up to the first that can tell, and the answer is that of this leaf, or of
nobody. It is also the right fold over the leaves of giving way to what comes behind. -/
theorem ask_build_consults_leaves_in_turn (tree : ChainTree ι) (source : ι → Oracle σ) (query : Query)
    (store : Store (Notebook σ ι)) :
    let plain := (tree.build source).ask query store.world.1
    let noting := fun name => (source name).noted name
    let reply := (tree.build noting).ask query store
    plain = (Oracle.chain (tree.leaves.map source)).ask query store.world.1 ∧
      reply = (Oracle.chain (tree.leaves.map noting)).ask query store ∧
      reply.answer = plain.answer ∧ reply.store.world.1 = plain.store ∧
      (∃ consultations, reply.store.world.2 = store.world.2 ++ consultations ∧
        ConsultedInTurn query tree.leaves consultations plain.answer) ∧
      plain =
        ((tree.leaves.map source).foldr Oracle.orElse Oracle.silent).ask query store.world.1 ∧
      plain.answer =
        (Oracle.answersInTurn (tree.leaves.map source) query store.world.1).foldr Option.or none ∧
      (∀ first second third : Resolution,
        (first.or second).or third = first.or (second.or third)) ∧
      ∀ answer : Resolution, Option.or none answer = answer ∧ answer.or none = answer := by
  intro plain noting reply
  have flat : plain = (Oracle.chain (tree.leaves.map source)).ask query store.world.1 :=
    congrFun (congrFun (ask_build source tree) query) store.world.1
  have notedFlat : reply = (Oracle.chain (tree.leaves.map noting)).ask query store :=
    congrFun (congrFun (ask_build noting tree) query) store
  obtain ⟨sameAnswer, sameStore, consulted⟩ :=
    Oracle.ask_chain_noted source tree.leaves query store
  rw [← flat, ← notedFlat] at sameAnswer sameStore consulted
  refine ⟨flat, notedFlat, sameAnswer, sameStore, consulted, ?_, ?_, ?_, ?_⟩
  · rw [flat, Oracle.chain_eq_foldr]
  · rw [flat, Oracle.answer_ask_chain]
  · exact fun first second third => Option.or_assoc
  · exact fun answer => ⟨Option.none_or, Option.or_none⟩

/-- A source that can tell when it is asked once more, at three leaves: the second of them can tell, so the
third is not asked. -/
theorem ask_build_consults_leaves_in_turn_repeated :
    let source : Oracle Nat :=
      .foreign fun _ asked => (if asked = 1 then some (.text "again") else none, asked + 1)
    let tree : ChainTree Char := .chain [.chain [], .chain [.leaf 'a', .leaf 'b'], .leaf 'c']
    let query : Query := .field .int ⟨"A", "field", "I"⟩
    let reply := (tree.build source.noted).ask query (.empty (.empty 0, []))
    tree.leaves = ['a', 'b', 'c'] ∧ reply.answer = some (.text "again") ∧
      reply.store.world.2 = [⟨'a', query, none⟩, ⟨'b', query, some (.text "again")⟩] := by
  intro source tree query reply
  obtain ⟨_, _, sameAnswer, _⟩ :=
    ask_build_consults_leaves_in_turn tree (fun _ => source) query (.empty (.empty 0, []))
  exact ⟨rfl, sameAnswer, rfl⟩

end ChainTree

end ConstProp
