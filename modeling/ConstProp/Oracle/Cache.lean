import ConstProp.Event

/-!
# Caches

Answers kept by the key of their query, the unresolved ones too, in the order in which they arrived. A
cache with a limit keeps no further answer once it is full; nothing is dropped except all at once.

Main statements: what a cache finds after an answer has arrived (`find?_record`), and that it never
exceeds its limit (`size_record_le`).
-/

namespace ConstProp

/-- Answers by key, and how many of them are kept at most. -/
structure Cache where
  limit : Option Nat
  answers : Registry Query.Key Resolution
  deriving DecidableEq

namespace Cache

/-- A cache without answers. -/
def empty (limit : Option Nat) : Cache := ⟨limit, .empty⟩

instance : Inhabited Cache := ⟨empty none⟩

/-- The number of answers kept. -/
def size (cache : Cache) : Nat :=
  cache.answers.size

/-- Whether no answer is kept. -/
def isEmpty (cache : Cache) : Bool :=
  cache.answers.isEmpty

/-- Drops all answers. -/
def clear (cache : Cache) : Cache :=
  { cache with answers := .empty }

/-- Whether no further answer is kept. -/
def isFull (cache : Cache) : Bool :=
  match cache.limit with
  | some limit => limit ≤ cache.size
  | none => false

/-- The answer kept for a key. -/
def find? (cache : Cache) (key : Query.Key) : Option Resolution :=
  cache.answers.find? key

/-- Keeps the answer for a key unless the cache is full. -/
def record (cache : Cache) (key : Query.Key) (answer : Resolution) : Cache :=
  if cache.isFull then cache else { cache with answers := cache.answers.insert key answer }

theorem find?_of_isEmpty {cache : Cache} (blank : cache.isEmpty = true) (key : Query.Key) :
    cache.find? key = none :=
  Registry.find?_of_isEmpty blank key

@[simp] theorem find?_clear (cache : Cache) (key : Query.Key) : cache.clear.find? key = none := rfl

@[simp] theorem limit_record (cache : Cache) (key : Query.Key) (answer : Resolution) :
    (cache.record key answer).limit = cache.limit := by
  unfold record
  split <;> rfl

/-- An answer that arrives is found at its key unless the cache is full. -/
theorem find?_record (cache : Cache) (key other : Query.Key) (answer : Resolution) :
    (cache.record key answer).find? other =
      if other = key ∧ cache.isFull = false then some answer else cache.find? other := by
  unfold record
  by_cases full : cache.isFull = true
  · simp [full]
  · simp [full, find?, Registry.find?_insert]

/-- A cache within its limit stays within it. -/
theorem size_record_le {cache : Cache} {limit : Nat} (bounded : cache.limit = some limit)
    (within : cache.size ≤ limit) (key : Query.Key) (answer : Resolution) :
    (cache.record key answer).size ≤ limit := by
  unfold record
  by_cases full : cache.isFull = true
  · simpa [full] using within
  · have room : cache.size < limit := by simpa [isFull, bounded] using full
    simp only [full, if_false, Bool.false_eq_true, size, Registry.size_eq_length_keys,
      Registry.keys_insert]
    have below : cache.answers.keys.length < limit := by
      simpa [size, Registry.size_eq_length_keys] using room
    split
    · omega
    · simp only [List.length_append, List.length_singleton]
      omega

end Cache

end ConstProp
