import Reactive.Number.Binary

/-!
Shortest decimal digits of a double. The double `m · 2^e` stands for every real number that
rounds to it: the interval from halfway to its lower neighbour to halfway to its upper one, the
ends included when `m` is even. For 1, 2, … 17 significant digits we look at the two decimals
of that length next to the value; the first length at which one of them lies in the interval
gives the digits, and of two such decimals the nearer wins. Seventeen digits always suffice.
-/

namespace Reactive.Number

/-- A decimal number `digits · 10^exp`. -/
structure Decimal where
  digits : Nat
  exp : Int
  deriving Repr, Inhabited, BEq

/-- How an exact tie between the two nearest candidates is broken. -/
inductive TieBreak where
  /-- the larger candidate wins -/
  | up
  /-- the candidate with an even last digit wins -/
  | even
  deriving Repr, Inhabited, BEq

/-- `k · 2^e` as a ratio of naturals. -/
def ratioPow2 (k : Nat) (e : Int) : Nat × Nat :=
  if 0 ≤ e then (k * Nat.pow 2 e.toNat, 1) else (k, Nat.pow 2 (-e).toNat)

/-- `k · 10^e` as a ratio of naturals. -/
def ratioPow10 (k : Nat) (e : Int) : Nat × Nat :=
  if 0 ≤ e then (k * Nat.pow 10 e.toNat, 1) else (k, Nat.pow 10 (-e).toNat)

/-- Compares two ratios of naturals with positive denominators. -/
def compareRatio (a b : Nat × Nat) : Ordering :=
  compare (a.1 * b.2) (b.1 * a.2)

/-- Corrects an estimate of the decimal exponent of the ratio `v`, a step at a time. -/
def fixExponent (v : Nat × Nat) : Nat → Int → Int
  | 0, k => k
  | fuel + 1, k =>
    if compareRatio (ratioPow10 1 (k + 1)) v != .gt then fixExponent v fuel (k + 1)
    else if compareRatio v (ratioPow10 1 k) == .lt then fixExponent v fuel (k - 1)
    else k

/-- The largest `k` with `10^k ≤ m · 2^e`, for `m > 0`. -/
def decimalExponent (m : Nat) (e : Int) : Int :=
  let estimate : Int := ((Nat.log2 m : Int) + e) * 30103 / 100000
  fixExponent (ratioPow2 m e) 4 estimate

/-- Removes trailing zeros from the digits, raising the exponent to match. -/
def Decimal.normalize (d : Decimal) : Decimal :=
  go d.digits.log2 d
where
  go : Nat → Decimal → Decimal
    | 0, d => d
    | fuel + 1, d =>
      if d.digits ≠ 0 ∧ d.digits % 10 = 0 then go fuel ⟨d.digits / 10, d.exp + 1⟩ else d

/-- The rounding interval of `m · 2^e` in units of `2^(e-2)`: its lower end, the value and its
upper end. The lower gap is half as wide when the value is a power of two above the smallest
normal exponent. -/
def roundingBounds (m : Nat) (lowerHalf : Bool) : Nat × Nat × Nat :=
  (if lowerHalf then 4 * m - 1 else 4 * m - 2, 4 * m, 4 * m + 2)

/-- Tries the decimals with `n` significant digits next to `m · 2^e`; `none` when neither
lies in the rounding interval. -/
def candidateAt (tie : TieBreak) (m : Nat) (e : Int) (lowerHalf : Bool) (top : Int) (n : Nat) :
    Option Decimal :=
  let (lo4, v4, hi4) := roundingBounds m lowerHalf
  let lo := ratioPow2 lo4 (e - 2)
  let v := ratioPow2 v4 (e - 2)
  let hi := ratioPow2 hi4 (e - 2)
  let inclusive := m % 2 == 0
  let s : Int := top - n + 1
  let (un, ud) := ratioPow10 1 s
  let t := (v.1 * ud) / (v.2 * un)
  let low := (t * un, ud)
  let high := ((t + 1) * un, ud)
  let lowIn := match compareRatio low lo with
    | .gt => true
    | .eq => inclusive
    | .lt => false
  let highIn := match compareRatio high hi with
    | .lt => true
    | .eq => inclusive
    | .gt => false
  if lowIn && highIn then
    match compareRatio (2 * v.1, v.2) ((2 * t + 1) * un, ud) with
    | .lt => some ⟨t, s⟩
    | .gt => some ⟨t + 1, s⟩
    | .eq =>
      match tie with
      | .up => some ⟨t + 1, s⟩
      | .even => if t % 2 = 0 then some ⟨t, s⟩ else some ⟨t + 1, s⟩
  else if lowIn then some ⟨t, s⟩
  else if highIn then some ⟨t + 1, s⟩
  else none

/-- The shortest decimal in the rounding interval of `m · 2^e` (with `m > 0`), the nearer of
two when two have that length. -/
def shortestOf (tie : TieBreak) (m : Nat) (e : Int) (lowerHalf : Bool) : Decimal :=
  let top := decimalExponent m e
  let rec search : Nat → Nat → Decimal
    | 0, n => ⟨(ratioPow2 m e).1 / (ratioPow10 1 (top - n + 1)).1, top - n + 1⟩
    | fuel + 1, n =>
      match candidateAt tie m e lowerHalf top n with
      | some d => d.normalize
      | none => search fuel (n + 1)
  search 17 1

/-- Shortest decimal digits of a finite, nonzero double given by its parts. -/
def shortestDigits (tie : TieBreak) (m : Nat) (e : Int) : Decimal :=
  shortestOf tie m e (m = Nat.pow 2 52 ∧ e > -1074)

end Reactive.Number
