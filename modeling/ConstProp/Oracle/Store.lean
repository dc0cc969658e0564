import ConstProp.Oracle.Cache
import ConstProp.Oracle.Table

/-!
# Stores

The changing parts of oracles: tables that are filled, caches that answer, and meters that count. Each
lies in a numbered cell of a store, so that several oracles can share one. Beside them a store holds the
state of whatever answers queries from outside.

Main statements: a cell that has been set is read with its new value, and no other cell changes.
-/

namespace ConstProp

/-- How many queries of each kind have passed. -/
structure Meter where
  fields : Nat
  calls : Nat
  deriving DecidableEq, Repr, Inhabited

namespace Meter

/-- The meter that has counted nothing. -/
def zero : Meter := ⟨0, 0⟩

/-- Counts one query. -/
def count (meter : Meter) : Query → Meter
  | .field .. => { meter with fields := meter.fields + 1 }
  | .call .. => { meter with calls := meter.calls + 1 }

end Meter

/-- The contents of all cells, and the outside state. -/
structure Store (σ : Type) where
  tables : Registry Nat ConstantTable
  caches : Registry Nat Cache
  meters : Registry Nat Meter
  world : σ

namespace Store

variable {σ : Type}

/-- The store without cells. -/
def empty (world : σ) : Store σ := ⟨.empty, .empty, .empty, world⟩

/-- The table in a cell; a cell that was never set holds an empty one. -/
def table (store : Store σ) (cell : Nat) : ConstantTable :=
  (store.tables.find? cell).getD .empty

/-- The cache in a cell; a cell that was never set holds an empty one without limit. -/
def cache (store : Store σ) (cell : Nat) : Cache :=
  (store.caches.find? cell).getD (.empty none)

/-- The meter in a cell; a cell that was never set holds one that has counted nothing. -/
def meter (store : Store σ) (cell : Nat) : Meter :=
  (store.meters.find? cell).getD .zero

/-- Sets the table in a cell. -/
def setTable (store : Store σ) (cell : Nat) (table : ConstantTable) : Store σ :=
  { store with tables := store.tables.insert cell table }

/-- Sets the cache in a cell. -/
def setCache (store : Store σ) (cell : Nat) (cache : Cache) : Store σ :=
  { store with caches := store.caches.insert cell cache }

/-- Sets the meter in a cell. -/
def setMeter (store : Store σ) (cell : Nat) (meter : Meter) : Store σ :=
  { store with meters := store.meters.insert cell meter }

/-- Sets the outside state. -/
def setWorld (store : Store σ) (world : σ) : Store σ :=
  { store with world }

/-- A new cell with an empty table. -/
def addTable (store : Store σ) : Nat × Store σ :=
  (store.tables.size, store.setTable store.tables.size .empty)

/-- A new cell with an empty cache. -/
def addCache (store : Store σ) (limit : Option Nat) : Nat × Store σ :=
  (store.caches.size, store.setCache store.caches.size (.empty limit))

/-- A new cell with a meter that has counted nothing. -/
def addMeter (store : Store σ) : Nat × Store σ :=
  (store.meters.size, store.setMeter store.meters.size .zero)

theorem table_setTable (store : Store σ) (cell other : Nat) (table : ConstantTable) :
    (store.setTable cell table).table other = if other = cell then table else store.table other := by
  simp only [Store.table, setTable, Registry.find?_insert]
  split <;> rfl

theorem cache_setCache (store : Store σ) (cell other : Nat) (cache : Cache) :
    (store.setCache cell cache).cache other = if other = cell then cache else store.cache other := by
  simp only [Store.cache, setCache, Registry.find?_insert]
  split <;> rfl

theorem meter_setMeter (store : Store σ) (cell other : Nat) (meter : Meter) :
    (store.setMeter cell meter).meter other = if other = cell then meter else store.meter other := by
  simp only [Store.meter, setMeter, Registry.find?_insert]
  split <;> rfl

@[simp] theorem table_setCache (store : Store σ) (cell other : Nat) (cache : Cache) :
    (store.setCache cell cache).table other = store.table other := rfl

@[simp] theorem table_setMeter (store : Store σ) (cell other : Nat) (meter : Meter) :
    (store.setMeter cell meter).table other = store.table other := rfl

@[simp] theorem table_setWorld (store : Store σ) (other : Nat) (world : σ) :
    (store.setWorld world).table other = store.table other := rfl

@[simp] theorem cache_setTable (store : Store σ) (cell other : Nat) (table : ConstantTable) :
    (store.setTable cell table).cache other = store.cache other := rfl

@[simp] theorem cache_setMeter (store : Store σ) (cell other : Nat) (meter : Meter) :
    (store.setMeter cell meter).cache other = store.cache other := rfl

@[simp] theorem cache_setWorld (store : Store σ) (other : Nat) (world : σ) :
    (store.setWorld world).cache other = store.cache other := rfl

@[simp] theorem world_setCache (store : Store σ) (cell : Nat) (cache : Cache) :
    (store.setCache cell cache).world = store.world := rfl

@[simp] theorem world_setMeter (store : Store σ) (cell : Nat) (meter : Meter) :
    (store.setMeter cell meter).world = store.world := rfl

end Store

end ConstProp
