/-!
Doubles as exact binary numbers. A finite double is `(-1)^s · m · 2^e` with a 53-bit
significand; this module splits a double into those parts and builds the double nearest to an
exact ratio of naturals, a tie going to the even significand. Exact remainder and truncation
are built on these two views.
-/

namespace Reactive.Number

/-- What a double is: not a number, an infinity, or a finite `(-1)^neg · mant · 2^exp`. -/
inductive Binary where
  | nan
  | infinite (neg : Bool)
  | finite (neg : Bool) (mant : Nat) (exp : Int)
  deriving Repr, Inhabited

/-- Splits a double into sign, integer significand and binary exponent. -/
def Binary.ofFloat (x : Float) : Binary :=
  let b : Nat := x.toBits.toNat
  let neg : Bool := b / Nat.pow 2 63 == 1
  let field : Nat := (b / Nat.pow 2 52) % 2048
  let frac : Nat := b % Nat.pow 2 52
  if field == 2047 then
    if frac == 0 then .infinite neg else .nan
  else if field == 0 then .finite neg frac (-1074)
  else .finite neg (frac + Nat.pow 2 52) ((field : Int) - 1075)

/-- Zero with the given sign. -/
def signedZero (neg : Bool) : Float :=
  Float.ofBits (if neg then UInt64.ofNat (Nat.pow 2 63) else 0)

/-- Infinity with the given sign. -/
def signedInfinity (neg : Bool) : Float :=
  Float.ofBits (UInt64.ofNat ((if neg then Nat.pow 2 63 else 0) + 2047 * Nat.pow 2 52))

/-- Quiet not-a-number. -/
def notANumber : Float :=
  Float.ofBits (UInt64.ofNat (2047 * Nat.pow 2 52 + Nat.pow 2 51))

/-- `num · 2^(-e) / den` as numerator and denominator. -/
def scaleRatio (num den : Nat) (e : Int) : Nat × Nat :=
  if 0 ≤ e then (num, den * Nat.pow 2 e.toNat) else (num * Nat.pow 2 (-e).toNat, den)

/-- The double nearest to `num / den` with the given sign: round to nearest, ties to even,
too large becoming infinity and too small becoming zero. -/
def ofRatio (neg : Bool) (num den : Nat) : Float :=
  if num = 0 ∨ den = 0 then signedZero neg
  else
    let e0 : Int := (Nat.log2 num : Int) - (Nat.log2 den : Int) - 52
    let (n0, d0) := scaleRatio num den e0
    let e1 := if n0 / d0 < Nat.pow 2 52 then e0 - 1 else e0
    let e := max e1 (-1074)
    let (n, d) := scaleRatio num den e
    let q := n / d
    let r := n % d
    let q := if 2 * r > d ∨ (2 * r = d ∧ q % 2 = 1) then q + 1 else q
    let (q, e) := if q = Nat.pow 2 53 then (Nat.pow 2 52, e + 1) else (q, e)
    if e > 971 then signedInfinity neg
    else
      let sign := if neg then Nat.pow 2 63 else 0
      if q < Nat.pow 2 52 then Float.ofBits (UInt64.ofNat (sign + q))
      else Float.ofBits (UInt64.ofNat (sign + (e + 1075).toNat * Nat.pow 2 52 + (q - Nat.pow 2 52)))

/-- The double nearest to a natural number. -/
def ofNatNearest (n : Nat) : Float := ofRatio false n 1

/-- The double nearest to `m · 10^e`, with the given sign. Exponents far outside the range of
doubles go straight to zero or infinity, so no huge power is ever built. -/
def ofDecimal (neg : Bool) (m : Nat) (e : Int) : Float :=
  if m = 0 then signedZero neg
  else
    let size : Int := (Nat.repr m).length
    if e + size > 330 then signedInfinity neg
    else if e + size < -400 then signedZero neg
    else if 0 ≤ e then ofRatio neg (m * Nat.pow 10 e.toNat) 1
    else ofRatio neg m (Nat.pow 10 (-e).toNat)

/-- Remainder of a truncating division, computed exactly: the result has the sign of the
dividend and is smaller in magnitude than the divisor. -/
def remainder (x y : Float) : Float :=
  match Binary.ofFloat x, Binary.ofFloat y with
  | .finite xn xm xe, .finite _ ym ye =>
    if ym = 0 then notANumber
    else if xm = 0 then x
    else
      let e := min xe ye
      let a := xm * Nat.pow 2 (xe - e).toNat
      let b := ym * Nat.pow 2 (ye - e).toNat
      let r := a % b
      if 0 ≤ e then ofRatio xn (r * Nat.pow 2 e.toNat) 1 else ofRatio xn r (Nat.pow 2 (-e).toNat)
  | .finite _ _ _, .infinite _ => x
  | _, _ => notANumber

/-- Rounds toward zero. -/
def truncate (x : Float) : Float :=
  if x ≥ 0 then x.floor else x.ceil

/-- The integer part of a double's magnitude, computed exactly from its binary parts: zero for
not-a-number and the infinities. -/
def truncMagnitude (x : Float) : Nat :=
  match Binary.ofFloat x with
  | .finite _ m e => if 0 ≤ e then m * Nat.pow 2 e.toNat else m / Nat.pow 2 (-e).toNat
  | _ => 0

/-- Whether a double is a whole number (infinities and not-a-number are not). -/
def isIntegral (x : Float) : Bool :=
  match Binary.ofFloat x with
  | .finite _ m e => 0 ≤ e || m % Nat.pow 2 (-e).toNat == 0
  | _ => false

end Reactive.Number
