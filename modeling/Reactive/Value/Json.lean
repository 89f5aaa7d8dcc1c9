import Reactive.Value
import Reactive.Json.Basic
import Reactive.Number.Read
import Reactive.Number.Binary

/-!
Values as JSON documents. Reading: `null`, booleans, strings and arrays are themselves, a number
is the nearest double, an object with a `$undefined` key is `undefined`, an object whose `$num`
is a text is the number that text names (`NaN`, `Infinity`, `-Infinity`, `-0`, or a decimal
numeral; anything else is NaN), and every other object is `undefined`. Writing: `undefined` is
`{"undefined":true}` and a number is `{"n":text}`, the text being the number's display text with
negative zero written `-0`.
-/

namespace Reactive

/-- The double nearest to a JSON number. -/
def JsonNumber.toFloat : JsonNumber → Float
  | .nat n => Number.ofNatNearest n
  | .negInt n => -(Number.ofNatNearest n.natAbs)
  | .float x => x

/-- The number a `$num` text names. -/
def Number.ofMarkedText (t : String) : Float :=
  if t == "NaN" then Number.notANumber
  else if t == "Infinity" then Number.signedInfinity false
  else if t == "-Infinity" then Number.signedInfinity true
  else if t == "-0" then Number.signedZero true
  else (Number.readFloat? t).getD Number.notANumber

/-- The text of a number in a document: its display text, with negative zero written `-0`. -/
def Number.markedText (x : Float) : String :=
  if x == 0.0 && (Number.Binary.ofFloat x matches .finite true _ _) then "-0"
  else Number.valueText x

namespace Value

mutual
/-- Reads a value from a document. -/
def ofJson : Json → Value
  | .null => .null
  | .bool b => .bool b
  | .number n => .number n.toFloat
  | .string s => .str s
  | .array items => .array (listOfJson items)
  | .object fields =>
    if fields.any (·.1 == "$undefined") then .undefined
    else match (Json.object fields).field? "$num" with
      | some (.string t) => .number (Number.ofMarkedText t)
      | _ => .undefined

/-- Reads values from documents. -/
def listOfJson : List Json → List Value
  | [] => []
  | j :: js => ofJson j :: listOfJson js
end

mutual
/-- Writes a value as a document. -/
def toJson : Value → Json
  | .undefined => .object [("undefined", .bool true)]
  | .null => .null
  | .bool b => .bool b
  | .number x => .object [("n", .string (Number.markedText x))]
  | .str s => .string s
  | .array items => .array (listToJson items)

/-- Writes values as documents. -/
def listToJson : List Value → List Json
  | [] => []
  | v :: vs => toJson v :: listToJson vs
end

end Value

end Reactive
