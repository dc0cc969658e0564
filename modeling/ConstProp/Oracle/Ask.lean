import ConstProp.Oracle.Intrinsic
import ConstProp.Oracle.Store

/-!
# Oracles

What answers queries during an analysis. An oracle is built from a few sources by chaining, caching and
metering; what changes while it answers lies in the cells of a store, and asking gives back the answer
together with the new store and the events in between.

An oracle that is tried first and cannot tell leaves the query to the next one, and a later one is not
asked once there is an answer. A cache asks only for keys that it has no answer to.
-/

namespace ConstProp

/-- A source of answers over a store with outside state `σ`. -/
inductive Oracle (σ : Type) where
  /-- Answers nothing. -/
  | silent
  /-- Evaluates calls of intrinsic methods. -/
  | intrinsics
  /-- Answers from the table in a cell. -/
  | table (cell : Nat)
  /-- Answers from outside. -/
  | foreign (respond : Query → σ → Resolution × σ)
  /-- Asks the second oracle if the first cannot tell. -/
  | orElse (first second : Oracle σ)
  /-- Keeps the answers of an oracle in the cache in a cell. -/
  | cached (cell : Nat) (inner : Oracle σ)
  /-- Counts the queries to an oracle in the meter in a cell. -/
  | metered (cell : Nat) (inner : Oracle σ)

/-- What comes of asking: the answer, the store afterwards, and the events on the way. -/
structure Reply (σ : Type) where
  answer : Resolution
  store : Store σ
  events : List Event

namespace Oracle

variable {σ : Type}

/-- Asks an oracle a query. -/
def ask : Oracle σ → Query → Store σ → Reply σ
  | .silent, _, store => ⟨none, store, []⟩
  | .intrinsics, query, store => ⟨Intrinsic.answer query, store, Intrinsic.events query⟩
  | .table cell, query, store =>
    ⟨(store.table cell).answer query, store, (store.table cell).events query⟩
  | .foreign respond, query, store =>
    let (answer, world) := respond query store.world
    ⟨answer, store.setWorld world, []⟩
  | .orElse first second, query, store =>
    let reply := first.ask query store
    match reply.answer with
    | some _ => reply
    | none =>
      let next := second.ask query reply.store
      ⟨next.answer, next.store, reply.events ++ next.events⟩
  | .cached cell inner, query, store =>
    match (store.cache cell).find? query.key with
    | some answer => ⟨answer, store, [.cacheHit query.kind query.member]⟩
    | none =>
      let reply := inner.ask query store
      let cache := (reply.store.cache cell).record query.key reply.answer
      ⟨reply.answer, reply.store.setCache cell cache, reply.events⟩
  | .metered cell inner, query, store =>
    let reply := inner.ask query store
    ⟨reply.answer, reply.store.setMeter cell ((reply.store.meter cell).count query), reply.events⟩

/-- Asks the oracles of a list in turn until one can tell. -/
def chain : List (Oracle σ) → Oracle σ
  | [] => .silent
  | first :: rest => .orElse first (chain rest)

/-- The oracles that a chain asks in turn. -/
def links : Oracle σ → List (Oracle σ)
  | .orElse first rest => first :: rest.links
  | _ => []

@[simp] theorem links_chain (oracles : List (Oracle σ)) : (chain oracles).links = oracles := by
  induction oracles with
  | nil => rfl
  | cons first rest inductionHypothesis => simp [chain, links, inductionHypothesis]

end Oracle

end ConstProp
