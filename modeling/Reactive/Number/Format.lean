import Reactive.Number.Shortest

/-!
Texts of numbers. Three layouts are used:

* the *value text* of a number, which is what a number reads as wherever it becomes a string:
  whole numbers below `10^21` in full, everything else in its shortest digits, always
  positional;
* the *data text* of a number inside a JSON document: shortest digits, positional for decimal
  exponents from -5 to 15 with `.0` on whole numbers, scientific otherwise;
* the *fixed text* with a given count of places, rounding the exact binary value half to even.
-/

namespace Reactive.Number

/-- The decimal numeral of a natural number. -/
def natText (n : Nat) : String := Nat.repr n

/-- `n` copies of the digit zero. -/
def zeros (n : Nat) : String := String.ofList (List.replicate n '0')

/-- A decimal written without exponent: all digits, with a point where the exponent puts it. -/
def Decimal.positional (d : Decimal) : String :=
  let ds := natText d.digits
  if 0 ≤ d.exp then ds ++ zeros d.exp.toNat
  else
    let k := (-d.exp).toNat
    if k < ds.length then
      String.ofList (ds.toList.take (ds.length - k)) ++ "." ++ String.ofList (ds.toList.drop (ds.length - k))
    else "0." ++ zeros (k - ds.length) ++ ds

/-- The sign mark of a negative number. -/
def signMark (neg : Bool) : String := if neg then "-" else ""

/-- Shortest digits, positional, with `-0` for negative zero: the general display of a double. -/
def displayText (x : Float) : String :=
  match Binary.ofFloat x with
  | .nan => "NaN"
  | .infinite neg => signMark neg ++ "inf"
  | .finite neg m e =>
    if m = 0 then signMark neg ++ "0"
    else signMark neg ++ (shortestDigits .up m e).positional

/-- The exact decimal numeral of a whole double. -/
def integerText (neg : Bool) (m : Nat) (e : Int) : String :=
  let n := if 0 ≤ e then m * Nat.pow 2 e.toNat else m / Nat.pow 2 (-e).toNat
  signMark (neg ∧ n ≠ 0) ++ natText n

/-- The value text of a number: `NaN`, `Infinity`, `-Infinity`; both zeros as `0`; whole numbers
below `10^21` in magnitude in full; all others in shortest digits without exponent. -/
def valueText (x : Float) : String :=
  match Binary.ofFloat x with
  | .nan => "NaN"
  | .infinite neg => if neg then "-Infinity" else "Infinity"
  | .finite neg m e =>
    if m = 0 then "0"
    else if isIntegral x ∧ x.abs < 1e21 then integerText neg m e
    else displayText x

/-- The exponent of a scientific text, with `+` on exponents that are not negative when
`plus` holds. -/
def exponentText (plus : Bool) (k : Int) : String :=
  if k < 0 then "-" ++ natText (-k).toNat else (if plus then "+" else "") ++ natText k.toNat

/-- The shortest text of a finite number: shortest digits, ties to even; positional for decimal
exponents from -5 to 15, with `.0` on whole numbers; otherwise `d.ddde±k`, a positive exponent
marked `+` when `plus` holds. Not-a-number and the infinities have none. -/
def shortestText? (plus : Bool) (x : Float) : Option String :=
  match Binary.ofFloat x with
  | .nan => none
  | .infinite _ => none
  | .finite neg m e =>
    if m = 0 then some (signMark neg ++ "0.0")
    else
      let d := shortestDigits .even m e
      let ds := natText d.digits
      let n : Int := ds.length
      let kk := n + d.exp
      let body :=
        if 0 ≤ d.exp ∧ kk ≤ 16 then ds ++ zeros d.exp.toNat ++ ".0"
        else if 0 < kk ∧ kk ≤ 16 then d.positional
        else if -5 < kk ∧ kk ≤ 0 then d.positional
        else if ds.length = 1 then ds ++ "e" ++ exponentText plus (kk - 1)
        else
          String.ofList (ds.toList.take 1) ++ "." ++ String.ofList (ds.toList.drop 1) ++ "e" ++
            exponentText plus (kk - 1)
      some (signMark neg ++ body)

/-- The data text of a number inside a JSON document: its shortest text, exponents unmarked. -/
def dataText? (x : Float) : Option String := shortestText? false x

/-- Rounds `num / den` to a natural number, half to even. -/
def roundHalfEven (num den : Nat) : Nat :=
  let q := num / den
  let r := num % den
  if 2 * r > den ∨ (2 * r = den ∧ q % 2 = 1) then q + 1 else q

/-- The fixed text of a double with `places` digits after the point, from its exact binary value
rounded half to even; the sign of negative numbers (negative zero included) is kept, and the
non-finite values read `NaN`, `inf` and `-inf`. -/
def fixedText (x : Float) (places : Nat) : String :=
  match Binary.ofFloat x with
  | .nan => "NaN"
  | .infinite neg => signMark neg ++ "inf"
  | .finite neg m e =>
    let (num, den) := ratioPow2 (m * Nat.pow 10 places) e
    let r := roundHalfEven num den
    signMark neg ++ (Decimal.mk r (-(places : Int))).positional

end Reactive.Number
