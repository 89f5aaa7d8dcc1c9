import Reactive.Number.Binary

/-!
Reading numbers from text. A decimal numeral is an optional sign, digits with at most one point
(at least one digit on some side of it) and an optional exponent `e` or `E` with optional sign
and at least one digit; `inf`, `infinity` and `nan` in any case are also read. The result is the
double nearest to the exact value. Also the two prefix readers of the script library: the
longest decimal prefix of a text, and an integer prefix in a radix from 2 to 36.
-/

namespace Reactive.Number

/-- Whether a character is an ASCII decimal digit. -/
def isDigit (c : Char) : Bool := '0' ≤ c && c ≤ '9'

/-- Splits off the longest run of leading decimal digits. -/
def spanDigits (cs : List Char) : List Char × List Char :=
  (cs.takeWhile isDigit, cs.dropWhile isDigit)

/-- The value of a list of decimal digits. -/
def digitsValue (ds : List Char) : Nat :=
  ds.foldl (fun acc c => acc * 10 + (c.toNat - '0'.toNat)) 0

/-- Reads an exponent part `[+-]? digits` to its end; `none` if anything else is left. -/
def readExponent? (cs : List Char) : Option Int :=
  let (neg, rest) := match cs with
    | '+' :: r => (false, r)
    | '-' :: r => (true, r)
    | r => (false, r)
  let (ds, tail) := spanDigits rest
  if ds.isEmpty ∨ !tail.isEmpty then none
  else
    let v : Int := digitsValue ds
    some (if neg then -v else v)

/-- Reads an unsigned decimal numeral to its end as significand digits and a decimal exponent. -/
def readUnsignedDecimal? (cs : List Char) : Option (Nat × Int) :=
  let (whole, rest) := spanDigits cs
  let (frac, rest) := match rest with
    | '.' :: r => spanDigits r
    | r => ([], r)
  if whole.isEmpty ∧ frac.isEmpty then none
  else
    let m := digitsValue (whole ++ frac)
    let scale : Int := -(frac.length : Int)
    match rest with
    | [] => some (m, scale)
    | c :: r => if c = 'e' ∨ c = 'E' then (readExponent? r).map fun k => (m, scale + k) else none

/-- Lowercase of an ASCII letter; other characters unchanged. -/
def asciiLower (c : Char) : Char :=
  if 'A' ≤ c ∧ c ≤ 'Z' then Char.ofNat (c.toNat + 32) else c

/-- Reads a whole text as a double: a decimal numeral, or `inf`, `infinity`, `nan` in any case,
each with an optional sign. -/
def readFloat? (s : String) : Option Float :=
  let (neg, body) := match s.toList with
    | '+' :: r => (false, r)
    | '-' :: r => (true, r)
    | r => (false, r)
  let word := String.ofList (body.map asciiLower)
  if word = "inf" ∨ word = "infinity" then some (signedInfinity neg)
  else if word = "nan" then some notANumber
  else (readUnsignedDecimal? body).map fun (m, k) => ofDecimal neg m k

/-- Whether a character may appear in a decimal numeral: digits, signs, point and `e`. -/
def isNumeralChar (c : Char) : Bool :=
  isDigit c || c = '+' || c = '-' || c = '.' || c = 'e' || c = 'E'

/-- The value of the longest prefix of `cs` that reads as a decimal numeral, among prefixes of
numeral characters only; not-a-number when there is none. -/
def longestNumeralPrefix (cs : List Char) : Float :=
  let run := cs.takeWhile isNumeralChar
  let rec go : List Char → Nat → Float → Float
    | [], _, best => best
    | _ :: rest, n, best =>
      let best := match readFloat? (String.ofList (run.take (n + 1))) with
        | some v => v
        | none => best
      go rest (n + 1) best
  go run 0 notANumber

/-- Reads a number at the start of a text: `Infinity` with an optional sign, or else the longest
decimal prefix; not-a-number when nothing reads. -/
def readFloatPrefix (s : String) : Float :=
  if s.startsWith "Infinity" ∨ s.startsWith "+Infinity" then signedInfinity false
  else if s.startsWith "-Infinity" then signedInfinity true
  else longestNumeralPrefix s.toList

/-- The value of a digit or letter in radix `r`: `0`–`9`, then `a`–`z` in either case. -/
def digitIn (r : Nat) (c : Char) : Option Nat :=
  let d :=
    if isDigit c then some (c.toNat - '0'.toNat)
    else if 'a' ≤ c ∧ c ≤ 'z' then some (c.toNat - 'a'.toNat + 10)
    else if 'A' ≤ c ∧ c ≤ 'Z' then some (c.toNat - 'A'.toNat + 10)
    else none
  match d with
  | some v => if v < r then some v else none
  | none => none

/-- Accumulates leading digits of radix `r` in double arithmetic: each digit multiplies the
running value by the radix and adds the digit. -/
def accumulateDigits (r : Nat) : List Char → Option Float → Option Float
  | [], acc => acc
  | c :: rest, acc =>
    match digitIn r c with
    | some d => accumulateDigits r rest (some ((acc.getD 0) * ofNatNearest r + ofNatNearest d))
    | none => acc

/-- Reads an integer at the start of a text in radix `r`: an optional sign, then the longest run
of digits of that radix. Not-a-number when the radix is outside 2 to 36 or no digit follows. -/
def readIntPrefix (s : String) (r : Nat) : Float :=
  if r < 2 ∨ 36 < r then notANumber
  else
    let (neg, body) := match s.toList with
      | '-' :: rest => (true, rest)
      | '+' :: rest => (false, rest)
      | rest => (false, rest)
    match accumulateDigits r body none with
    | some v => if neg then -v else v
    | none => notANumber

end Reactive.Number
