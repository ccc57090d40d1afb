/-!
# `ApiReconciler.Number.Double` — binary floating point in exact arithmetic

The numbers of the 64-bit binary format, kept as a sign, a significand and a power of two, with
rounding from exact quotients. Nothing here uses the machine's floating point, so every result can
be computed inside a proof.

## Contents
- `Double`: not-a-number, the infinities, and `± significand · 2 ^ exponent`.
- `Double.ofQuotient`: the nearest number to a quotient of natural numbers, ties to even.
- `Double.ofDecimal`: the nearest number to `digits · 10 ^ exponent`.
- `Double.add`, `Double.mul`, `Double.integer?`.
-/

namespace ApiReconciler

/-- A number of the 64-bit binary format. In a `finite` one the significand is below `2 ^ 53`, and
at least `2 ^ 52` unless the exponent is the least, `-1074`. -/
inductive Double
  | nan
  | infinite (negative : Bool)
  | finite (negative : Bool) (significand : Nat) (exponent : Int)
deriving DecidableEq, Repr

namespace Double

/-- The least exponent of a finite number. -/
def leastExponent : Int := -1074

/-- The greatest exponent of a finite number. -/
def greatestExponent : Int := 971

/-- Zero, with its sign. -/
def zero (negative : Bool) : Double := .finite negative 0 leastExponent

/-- Division rounded to the nearest integer, a tie to the even neighbour. -/
def roundDiv (num den : Nat) : Nat :=
  let q := num / den
  let r := num % den
  if 2 * r < den then q
  else if den < 2 * r then q + 1
  else if q % 2 = 0 then q else q + 1

/-- `n · 2 ^ e` as a quotient. -/
def scale2 (num den : Nat) (e : Int) : Nat × Nat :=
  match e with
  | .ofNat k => (num * Nat.pow 2 k, den)
  | .negSucc k => (num, den * Nat.pow 2 (k + 1))

/-- The greatest `b` with `2 ^ b ≤ num / den`, for positive arguments. -/
def floorLog2 (num den : Nat) : Int :=
  let b : Int := (Nat.log2 num : Int) - (Nat.log2 den : Int)
  let s := scale2 1 1 b
  if s.1 * den ≤ num * s.2 then b else b - 1

/-- The number nearest to `num / den`, ties to even; too large a quotient becomes infinite. -/
def ofQuotient (negative : Bool) (num den : Nat) : Double :=
  if num = 0 then zero negative
  else
    let e := max (floorLog2 num den - 52) leastExponent
    let s := scale2 num den (-e)
    let m := roundDiv s.1 s.2
    if m = 0 then zero negative
    else if m = Nat.pow 2 53 then
      if greatestExponent < e + 1 then .infinite negative else .finite negative (Nat.pow 2 52) (e + 1)
    else if greatestExponent < e then .infinite negative
    else .finite negative m e

/-- The number of decimal digits of a number. -/
def decimalLength (n : Nat) : Nat := (Nat.toDigits 10 n).length

/-- The number nearest to `digits · 10 ^ exponent`. Magnitudes far outside the format are decided
by their order alone, so that huge exponents cost nothing. -/
def ofDecimal (negative : Bool) (digits : Nat) (exponent : Int) : Double :=
  if digits = 0 then zero negative
  else
    let order : Int := decimalLength digits + exponent
    if 400 < order then .infinite negative
    else if order < -400 then zero negative
    else match exponent with
      | .ofNat k => ofQuotient negative (digits * Nat.pow 10 k) 1
      | .negSucc k => ofQuotient negative digits (Nat.pow 10 (k + 1))

/-- The number nearest to an integer. -/
def ofInt : Int → Double
  | .ofNat n => ofQuotient false n 1
  | .negSucc n => ofQuotient true (n + 1) 1

/-- A number other than zero. -/
def isNonzero : Double → Bool
  | .finite _ m _ => m ≠ 0
  | _ => true

/-- The opposite number. -/
def neg : Double → Double
  | .nan => .nan
  | .infinite s => .infinite (!s)
  | .finite s m e => .finite (!s) m e

/-- The integer that a finite number is, if it is one. -/
def integer? : Double → Option Int
  | .finite s m e =>
    match e with
    | .ofNat k => some (if s then -((m * Nat.pow 2 k : Nat) : Int) else (m * Nat.pow 2 k : Nat))
    | .negSucc k =>
      if m % Nat.pow 2 (k + 1) = 0 then
        some (if s then -((m / Nat.pow 2 (k + 1) : Nat) : Int) else (m / Nat.pow 2 (k + 1) : Nat))
      else none
  | _ => none

/-- Signed significands over a common exponent. -/
def aligned (s₁ : Bool) (m₁ : Nat) (e₁ : Int) (s₂ : Bool) (m₂ : Nat) (e₂ : Int) :
    Int × Int × Int :=
  let e := min e₁ e₂
  let a : Int := (m₁ * Nat.pow 2 (e₁ - e).toNat : Nat)
  let b : Int := (m₂ * Nat.pow 2 (e₂ - e).toNat : Nat)
  (if s₁ then -a else a, if s₂ then -b else b, e)

/-- The rounded sum. -/
def add : Double → Double → Double
  | .nan, _ => .nan
  | _, .nan => .nan
  | .infinite s, .infinite t => if s = t then .infinite s else .nan
  | .infinite s, _ => .infinite s
  | _, .infinite t => .infinite t
  | .finite s₁ m₁ e₁, .finite s₂ m₂ e₂ =>
    let (a, b, e) := aligned s₁ m₁ e₁ s₂ m₂ e₂
    let total := a + b
    if total = 0 then zero (s₁ && s₂)
    else
      let q := scale2 total.natAbs 1 e
      ofQuotient (total < 0) q.1 q.2

/-- The rounded product. -/
def mul : Double → Double → Double
  | .nan, _ => .nan
  | _, .nan => .nan
  | .infinite s, .infinite t => .infinite (s != t)
  | .infinite s, .finite t m _ => if m = 0 then .nan else .infinite (s != t)
  | .finite s m _, .infinite t => if m = 0 then .nan else .infinite (s != t)
  | .finite s₁ m₁ e₁, .finite s₂ m₂ e₂ =>
    let q := scale2 (m₁ * m₂) 1 (e₁ + e₂)
    ofQuotient (s₁ != s₂) q.1 q.2

end Double

end ApiReconciler
