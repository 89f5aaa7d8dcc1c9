import Reactive.Number.Format
import Reactive.Number.Read
import Reactive.Text.Blank

/-!
Run-time values and their conversions. Values are `undefined`, `null`, booleans, doubles,
strings and arrays, and convert into each other the way script values do:

* to a boolean: `undefined`, `null`, `false`, zero, not-a-number and the empty string are false;
  everything else, every array included, is true;
* to a number: strings are trimmed and read as decimal numerals (the empty string is zero, and
  `Infinity` with a sign counts), an array of no elements is zero and one of a single element is
  that element's number;
* to a string: numbers by their value text, arrays by their elements joined with commas, with
  `undefined` and `null` elements left empty.

Equality comes in two forms. Strict equality compares numbers as doubles (so not-a-number
differs from itself) and never holds between two arrays, which are always distinct objects.
Loose equality first converts arrays to strings and then compares numbers by value; `null` and
`undefined` equal each other and nothing else.
-/

namespace Reactive

/-- A run-time value. -/
inductive Value where
  | undefined
  | null
  | bool (b : Bool)
  | number (x : Float)
  | str (s : String)
  | array (items : List Value)
  deriving Inhabited

namespace Value

/-- Whether a value counts as true. -/
def truthy : Value → Bool
  | .undefined | .null => false
  | .bool b => b
  | .number x => x != 0.0 && !x.isNaN
  | .str s => !s.isEmpty
  | .array _ => true

/-- Whether a text is made only of digits, signs, points and exponent marks. -/
def numeralLike (s : String) : Bool :=
  !s.isEmpty && s.all Number.isNumeralChar

/-- The number a string reads as. -/
def stringNumber (s : String) : Float :=
  let t := Text.trimBoth s
  if t.isEmpty then 0.0
  else if t == "Infinity" || t == "+Infinity" then Number.signedInfinity false
  else if t == "-Infinity" then Number.signedInfinity true
  else if numeralLike t then (Number.readFloat? t).getD Number.notANumber
  else Number.notANumber

/-- The number a value converts to. -/
def toNumber : Value → Float
  | .undefined => Number.notANumber
  | .null => 0.0
  | .bool b => if b then 1.0 else 0.0
  | .number x => x
  | .str s => stringNumber s
  | .array [] => 0.0
  | .array [v] => toNumber v
  | .array _ => Number.notANumber

mutual
/-- The string a value converts to. -/
def toText : Value → String
  | .undefined => "undefined"
  | .null => "null"
  | .bool b => if b then "true" else "false"
  | .number x => Number.valueText x
  | .str s => s
  | .array items => ",".intercalate (elementTexts items)

/-- Texts of array elements: `undefined` and `null` give the empty text. -/
def elementTexts : List Value → List String
  | [] => []
  | v :: rest =>
    (match v with
      | .undefined | .null => ""
      | _ => toText v) :: elementTexts rest
end

/-- The type name of a value, as `typeof` gives it. -/
def typeName : Value → String
  | .undefined => "undefined"
  | .null | .array _ => "object"
  | .bool _ => "boolean"
  | .number _ => "number"
  | .str _ => "string"

mutual
/-- Structural equality with numbers compared as doubles. -/
def same : Value → Value → Bool
  | .undefined, .undefined => true
  | .null, .null => true
  | .bool a, .bool b => a == b
  | .number x, .number y => x == y
  | .str a, .str b => a == b
  | .array xs, .array ys => sameItems xs ys
  | _, _ => false

/-- Element-wise structural equality of two lists. -/
def sameItems : List Value → List Value → Bool
  | [], [] => true
  | x :: xs, y :: ys => same x y && sameItems xs ys
  | _, _ => false
end

/-- Strict equality: two arrays are never equal. -/
def strictEq : Value → Value → Bool
  | .array _, .array _ => false
  | a, b => same a b

/-- Whether a value is `undefined` or `null`. -/
def isNullish : Value → Bool
  | .undefined | .null => true
  | _ => false

/-- Loose equality on values that are not arrays. -/
def looseScalar (a b : Value) : Bool :=
  if a.isNullish || b.isNullish then a.isNullish && b.isNullish
  else match a, b with
    | .str x, .str y => x == y
    | .bool x, .bool y => x == y
    | _, _ => a.toNumber == b.toNumber

/-- Loose equality: arrays compare through their strings, and two arrays are never equal. -/
def looseEq (a b : Value) : Bool :=
  if a.isNullish || b.isNullish then a.isNullish && b.isNullish
  else match a, b with
    | .array _, .array _ => false
    | .array _, _ => looseScalar (.str a.toText) b
    | _, .array _ => looseScalar a (.str b.toText)
    | _, _ => looseScalar a b

/-- Lexicographic order of code point lists. -/
def compareChars : List Char → List Char → Ordering
  | [], [] => .eq
  | [], _ :: _ => .lt
  | _ :: _, [] => .gt
  | c :: cs, d :: ds => if c < d then .lt else if d < c then .gt else compareChars cs ds

/-- Order of doubles; none when either is not-a-number. -/
def compareNumbers (x y : Float) : Option Ordering :=
  if x.isNaN || y.isNaN then none
  else if x < y then some .lt
  else if y < x then some .gt
  else some .eq

/-- Order of two values: strings by code points, all else by number. -/
def compare (a b : Value) : Option Ordering :=
  match a, b with
  | .str x, .str y => some (compareChars x.toList y.toList)
  | _, _ => compareNumbers a.toNumber b.toNumber

end Value

end Reactive
