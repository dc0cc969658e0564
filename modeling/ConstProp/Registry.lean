/-!
# Registries

Finite maps that keep their keys in the order of first arrival. Binding a key that is already present
replaces its value where it stands.

Main statements: what is found after an insertion (`find?_insert`), and which keys are then present
(`keys_insert`).
-/

namespace ConstProp

/-- A list of bindings, no key twice, in the order in which the keys arrived. -/
structure Registry (κ : Type) (ν : Type) where
  bindings : List (κ × ν)
  distinct : (bindings.map Prod.fst).Nodup
  deriving DecidableEq

namespace Registry

variable {κ ν : Type}

/-- The value bound to a key in a list of bindings. -/
def lookup [DecidableEq κ] (key : κ) : List (κ × ν) → Option ν
  | [] => none
  | (present, value) :: rest => if present = key then some value else lookup key rest

/-- Binds a key in a list of bindings: in its place if it is present, and at the end otherwise. -/
def assign [DecidableEq κ] (key : κ) (value : ν) : List (κ × ν) → List (κ × ν)
  | [] => [(key, value)]
  | (present, old) :: rest =>
    if present = key then (key, value) :: rest else (present, old) :: assign key value rest

theorem lookup_eq_none_iff [DecidableEq κ] {key : κ} {bindings : List (κ × ν)} :
    lookup key bindings = none ↔ key ∉ bindings.map Prod.fst := by
  induction bindings with
  | nil => simp [lookup]
  | cons binding rest inductionHypothesis =>
    by_cases same : binding.1 = key
    · simp [lookup, same]
    · simp [lookup, same, Ne.symm same, inductionHypothesis]

theorem lookup_assign [DecidableEq κ] (key other : κ) (value : ν) (bindings : List (κ × ν)) :
    lookup other (assign key value bindings) =
      if other = key then some value else lookup other bindings := by
  induction bindings with
  | nil => simp [assign, lookup, eq_comm]
  | cons binding rest inductionHypothesis =>
    by_cases here : binding.1 = key
    · by_cases same : other = key
      · simp [assign, lookup, here, same]
      · simp [assign, lookup, here, same, Ne.symm same]
    · by_cases found : binding.1 = other
      · have apart : other ≠ key := fun equal => here (found.trans equal)
        simp [assign, lookup, found, apart]
      · simp [assign, lookup, here, found, inductionHypothesis]

theorem keys_assign [DecidableEq κ] (key : κ) (value : ν) (bindings : List (κ × ν)) :
    (assign key value bindings).map Prod.fst =
      if key ∈ bindings.map Prod.fst then bindings.map Prod.fst
      else bindings.map Prod.fst ++ [key] := by
  induction bindings with
  | nil => simp [assign]
  | cons binding rest inductionHypothesis =>
    by_cases here : binding.1 = key
    · simp [assign, here]
    · by_cases later : key ∈ rest.map Prod.fst
      · simp [assign, here, later, inductionHypothesis]
      · simp [assign, here, Ne.symm here, later, inductionHypothesis]

/-- The registry without bindings. -/
def empty : Registry κ ν := ⟨[], List.nodup_nil⟩

instance : Inhabited (Registry κ ν) := ⟨empty⟩

/-- The keys in the order of their arrival. -/
def keys (registry : Registry κ ν) : List κ :=
  registry.bindings.map Prod.fst

/-- The value bound to a key. -/
def find? [DecidableEq κ] (registry : Registry κ ν) (key : κ) : Option ν :=
  lookup key registry.bindings

/-- Binds a key to a value. -/
def insert [DecidableEq κ] (registry : Registry κ ν) (key : κ) (value : ν) : Registry κ ν where
  bindings := assign key value registry.bindings
  distinct := by
    rw [keys_assign]
    split
    case isTrue => exact registry.distinct
    case isFalse absent =>
      refine List.nodup_append.mpr ⟨registry.distinct, by simp, ?_⟩
      intro present member added single
      cases List.mem_singleton.mp single
      exact fun equal => absent (equal ▸ member)

/-- The number of keys. -/
def size (registry : Registry κ ν) : Nat :=
  registry.bindings.length

/-- Whether there is no key. -/
def isEmpty (registry : Registry κ ν) : Bool :=
  registry.bindings.isEmpty

@[simp] theorem find?_empty [DecidableEq κ] (key : κ) : (empty : Registry κ ν).find? key = none := rfl

@[simp] theorem keys_empty : (empty : Registry κ ν).keys = [] := rfl

@[simp] theorem size_empty : (empty : Registry κ ν).size = 0 := rfl

/-- An insertion is seen at its own key and nowhere else. -/
theorem find?_insert [DecidableEq κ] (registry : Registry κ ν) (key other : κ) (value : ν) :
    (registry.insert key value).find? other =
      if other = key then some value else registry.find? other :=
  lookup_assign key other value registry.bindings

/-- A key that is inserted anew comes after all others. -/
theorem keys_insert [DecidableEq κ] (registry : Registry κ ν) (key : κ) (value : ν) :
    (registry.insert key value).keys =
      if key ∈ registry.keys then registry.keys else registry.keys ++ [key] :=
  keys_assign key value registry.bindings

theorem find?_of_isEmpty [DecidableEq κ] {registry : Registry κ ν} (blank : registry.isEmpty = true)
    (key : κ) : registry.find? key = none := by
  rw [isEmpty, List.isEmpty_iff] at blank
  rw [find?, blank, lookup]

theorem find?_eq_none_iff [DecidableEq κ] {registry : Registry κ ν} {key : κ} :
    registry.find? key = none ↔ key ∉ registry.keys :=
  lookup_eq_none_iff

theorem nodup_keys (registry : Registry κ ν) : registry.keys.Nodup :=
  registry.distinct

theorem size_eq_length_keys (registry : Registry κ ν) : registry.size = registry.keys.length := by
  simp [size, keys]

/-- An insertion loses no key. -/
theorem size_le_size_insert [DecidableEq κ] (registry : Registry κ ν) (key : κ) (value : ν) :
    registry.size ≤ (registry.insert key value).size := by
  rw [size_eq_length_keys, size_eq_length_keys, keys_insert]
  by_cases present : key ∈ registry.keys
  · simp [present]
  · simp [present]

end Registry

end ConstProp
