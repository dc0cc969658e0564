import ConstProp.Decimal.Binary

/-!
# Shortest decimals

Among the decimal numbers that round to a given binary number, the one with the fewest digits. The
multiples of a power of ten form a grid; a coarser grid has shorter numbers. The search goes from
coarse to fine and stops at the first grid with a point in the interval. If the interval holds a
point of a grid, it holds one of the two neighbours of the binary number on that grid, so only these
are tried. Of two hits the nearer one is taken, and of two equally near ones the greater.
-/

namespace ConstProp.Decimal

/-- The number `digits * 10 ^ exponent`. -/
structure Scaled where
  digits : Nat
  exponent : Int
  deriving DecidableEq, Repr

namespace Interval

/-- The step of the grid of multiples of `10 ^ place`, on the scale where the units of the interval
and the points of the grid are both whole numbers. -/
def step (interval : Interval) (place : Int) : Nat :=
  Nat.pow 10 place.toNat * Nat.pow 2 (-interval.exponent).toNat

/-- The length of one unit of the interval, on the same scale. -/
def unit (interval : Interval) (place : Int) : Nat :=
  Nat.pow 2 interval.exponent.toNat * Nat.pow 10 (-place).toNat

/-- Whether a multiple of `10 ^ place` lies in the interval. -/
def holds (interval : Interval) (place : Int) (multiple : Nat) : Bool :=
  let point := multiple * interval.step place
  let low := interval.low * interval.unit place
  let high := interval.high * interval.unit place
  if interval.isClosed then low ≤ point && point ≤ high else low < point && point < high

/-- The multiple of `10 ^ place` at or next below the number. -/
def below (interval : Interval) (place : Int) : Nat :=
  interval.value * interval.unit place / interval.step place

/-- Whether the number is nearer to the grid point below it than to the next one. -/
def isNearerBelow (interval : Interval) (place : Int) : Bool :=
  2 * (interval.value * interval.unit place) <
    (2 * interval.below place + 1) * interval.step place

/-- The point of one grid that stands for the number, if one of its two neighbours there does. -/
def pointAt? (interval : Interval) (place : Int) : Option Nat :=
  let below := interval.below place
  match interval.holds place below, interval.holds place (below + 1) with
  | true, true => some (if interval.isNearerBelow place then below else below + 1)
  | true, false => some below
  | false, true => some (below + 1)
  | false, false => none

/-- Searches the grids from `place` downwards; after the given number of steps it settles for the
point at or next below the number. -/
def search (interval : Interval) : Nat → Int → Scaled
  | 0, place => ⟨interval.below place, place⟩
  | steps + 1, place =>
    match interval.pointAt? place with
    | some digits => ⟨digits, place⟩
    | none => interval.search steps (place - 1)

/-- A power of ten above every number of the interval. -/
def topPlace (interval : Interval) : Int :=
  (Nat.log2 interval.high + 1 + interval.exponent) * 30103 / 100000 + 2

/-- How many places lie between the top of the interval and its unit, with some to spare. -/
def places (interval : Interval) : Nat :=
  (Nat.log2 interval.high + 1) * 30103 / 100000 + 5

/-- The shortest decimal number in the interval. -/
def shortest (interval : Interval) : Scaled :=
  interval.search interval.places interval.topPlace

end Interval

end ConstProp.Decimal
