import ConstProp.Proofs.Oracle.Construction

/-!
# Observing oracles

What an analysis sees of an oracle are its answers, and what a source sees of an analysis are the queries
that reach it. A recording source writes these queries down, whatever it answers.

An oracle answers by a function if each answer is that of the function for the query alone, whatever was
asked before. Oracles over faithful caches do so (`Faithful.answersBy`), and answers that the key of the
query decides do not depend on the pins of arguments (`pinBlind_of_key`). Both hold of whatever is put
together of sources that answer by key (`Built.answersBy`).
-/

namespace ConstProp

/-- The value with no pin. -/
def SlotValue.unpinned (value : SlotValue) : SlotValue :=
  { value with isPinned := false }

/-- The query with no pin on any argument. -/
def Query.unpinned : Query → Query
  | .field type member => .field type member
  | .call type member arguments => .call type member (arguments.map SlotValue.unpinned)

/-- A function that does not look at the pins of arguments. -/
def PinBlind (answerTo : Query → Resolution) : Prop :=
  ∀ query, answerTo query.unpinned = answerTo query

/-- Pins are no part of the key of a query. -/
@[simp] theorem Query.key_unpinned (query : Query) : query.unpinned.key = query.key := by
  cases query with
  | field type member => rfl
  | call type member arguments =>
    have keys : argumentKey ∘ SlotValue.unpinned = argumentKey := rfl
    simp [unpinned, key, kind, Query.type, Query.member, Query.arguments, keys]

/-- A function whose values the key of the query decides does not look at pins. -/
theorem pinBlind_of_key {answerTo : Query → Resolution}
    (byKey : ∀ first second, first.key = second.key → answerTo first = answerTo second) :
    PinBlind answerTo := by
  intro query
  exact byKey _ _ query.key_unpinned

namespace Oracle

variable {σ : Type}

/-- A foreign source that writes down each query it is asked, in order. -/
def recording (respond : Query → σ → Resolution × σ) : Oracle (σ × List Query) :=
  .foreign fun query world =>
    let (answer, next) := respond query world.1
    (answer, next, world.2 ++ [query])

/-- A query to a recording source is the next entry of its record. -/
@[simp] theorem record_ask_recording (respond : Query → σ → Resolution × σ) (query : Query)
    (store : Store (σ × List Query)) :
    ((recording respond).ask query store).store.world.2 = store.world.2 ++ [query] := rfl

/-- From a store on, the oracle answers each query as a function says, whatever was asked before. -/
def AnswersBy (oracle : Oracle σ) (store : Store σ) (answerTo : Query → Resolution) : Prop :=
  ∀ (earlier : List Query) (query : Query),
    (oracle.ask query (oracle.after (earlier.map .query) store)).answer = answerTo query

/-- The next answer is that of the function. -/
theorem AnswersBy.answer_ask {oracle : Oracle σ} {store : Store σ} {answerTo : Query → Resolution}
    (answers : oracle.AnswersBy store answerTo) (query : Query) :
    (oracle.ask query store).answer = answerTo query :=
  answers [] query

/-- After a query the oracle answers by the same function. -/
theorem AnswersBy.ask {oracle : Oracle σ} {store : Store σ} {answerTo : Query → Resolution}
    (answers : oracle.AnswersBy store answerTo) (query : Query) :
    oracle.AnswersBy (oracle.ask query store).store answerTo := by
  intro earlier other
  exact answers (query :: earlier) other

/-- Over faithful caches, an oracle answers by the function that it computes without them. -/
theorem Faithful.answersBy {caches : List (Nat × Oracle σ)} {base store : Store σ}
    (faithful : Faithful caches base store) (own : OwnCells caches) {oracle : Oracle σ}
    (keyed : oracle.Keyed) (within : oracle.caches ⊆ caches) :
    oracle.AnswersBy store fun query => (oracle.uncached.ask query base).answer := by
  intro earlier query
  have kept := faithful.after own keyed within (earlier.map .query)
  exact (ask_of_faithful own keyed within kept query).1

/-- Whatever is put together answers by a function that does not look at pins. -/
theorem Built.answersBy {store : Store σ} {oracles : List (Oracle σ)} (built : Built store oracles)
    {oracle : Oracle σ} (atHand : oracle ∈ oracles) :
    ∃ answerTo, PinBlind answerTo ∧ oracle.AnswersBy store answerTo := by
  have tidy := built.tidy
  have keyed := tidy.keyed oracle atHand
  have faithful : Faithful (allCaches oracles) store store := Faithful.of_isEmpty tidy.blank
  refine ⟨fun query => (oracle.uncached.ask query store).answer, ?_, ?_⟩
  · exact pinBlind_of_key fun first second same => answer_uncached_congr keyed same rfl
  · exact faithful.answersBy tidy.own keyed (caches_subset_allCaches atHand)

end Oracle

end ConstProp
