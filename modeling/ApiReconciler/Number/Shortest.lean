import ApiReconciler.Number.Double

/-!
# `ApiReconciler.Number.Shortest` — the fewest digits that read back

The shortest decimal that rounds to a given finite number, and among the shortest the nearest one.

## Contents
- `Shortest.Interval`: the reals that round to a number, in quarter units of its last place.
- `Shortest.decimal`: digits and power of ten. A grid of `n` digits is tried for `n = 1, 2, …`;
  if a point of a grid lies in the interval, so does one of the two neighbours of the value on
  that grid, so the first grid with a hit has the least number of digits.
-/

namespace ApiReconciler.Shortest

/-- The reals that round to a number. `low`, `value` and `high` count quarters of the unit in the
last place, and the ends belong to the interval when `closed`. -/
structure Interval where
  low : Nat
  value : Nat
  high : Nat
  exponent : Int
  closed : Bool

/-- The interval of `m · 2 ^ e`: half a unit to each side, but only a quarter below the least
significand of a binade. -/
def interval (m : Nat) (e : Int) : Interval :=
  { low := if m = Nat.pow 2 52 ∧ Double.leastExponent < e then 4 * m - 1 else 4 * m - 2
    value := 4 * m
    high := 4 * m + 2
    exponent := e - 2
    closed := m % 2 = 0 }

/-- `10 ^ g` as a quotient. -/
def scale10 (g : Int) : Nat × Nat :=
  match g with
  | .ofNat k => (Nat.pow 10 k, 1)
  | .negSucc k => (1, Nat.pow 10 (k + 1))

/-- The greatest `k` with `10 ^ k ≤ num / den`, for positive arguments. -/
def floorLog10 (num den : Nat) : Int :=
  let k : Int := (Double.decimalLength num : Int) - (Double.decimalLength den : Int)
  let s := scale10 k
  if s.1 * den ≤ num * s.2 then k else k - 1

/-- Whether `c · 10 ^ g` rounds to the number of the interval. -/
def Interval.holds (i : Interval) (c : Nat) (g : Int) : Bool :=
  let unit := Double.scale2 1 1 i.exponent
  let grid := scale10 g
  let point := c * grid.1 * unit.2
  let low := i.low * unit.1 * grid.2
  let high := i.high * unit.1 * grid.2
  if i.closed then low ≤ point && point ≤ high else low < point && point < high

/-- The neighbour of the value on the grid of `10 ^ g` that reads back, the nearer one first; a tie
goes to the even digit. -/
def hit? (i : Interval) (g : Int) : Option Nat :=
  let unit := Double.scale2 1 1 i.exponent
  let grid := scale10 g
  let num := i.value * unit.1 * grid.2
  let den := unit.2 * grid.1
  let c := num / den
  let near := Double.roundDiv num den
  let far := if near = c then c + 1 else c
  if i.holds near g then some near else if i.holds far g then some far else none

/-- The first grid of `n`, `n + 1`, … digits with a hit. -/
def search (i : Interval) (k : Int) : Nat → Nat → Nat × Int
  | 0, n => (0, k - n + 1)
  | fuel + 1, n =>
    match hit? i (k - n + 1) with
    | some c => (c, k - n + 1)
    | none => search i k fuel (n + 1)

/-- Digits and power of ten of the shortest decimal that rounds to `m · 2 ^ e`. Seventeen digits
always suffice. -/
def decimal (m : Nat) (e : Int) : Nat × Int :=
  if m = 0 then (0, 0)
  else
    let i := interval m e
    let v := Double.scale2 i.value 1 i.exponent
    search i (floorLog10 v.1 v.2) 17 1

end ApiReconciler.Shortest
