import Reactive.Number.Format

/-!
JSON documents and their compact text. A number keeps the kind it was read as: a natural number
that fits 64 bits, a negative integer that fits 64 bits, or a double. Objects keep their fields
in order; `Json.sortFields` gives the canonical form with keys in byte order and the last of
equal keys kept. Strings are written with the short escapes `\" \\ \b \f \n \r \t`, other
control characters as `\u00xx`, and everything else as it is.
-/

namespace Reactive

/-- A JSON number, by the kind it was read as. -/
inductive JsonNumber where
  | nat (n : Nat)
  | negInt (n : Int)
  | float (x : Float)
  deriving Inhabited

/-- A JSON document. -/
inductive Json where
  | null
  | bool (b : Bool)
  | number (n : JsonNumber)
  | string (s : String)
  | array (items : List Json)
  | object (fields : List (String × Json))
  deriving Inhabited

namespace Json

/-- A double as a JSON number. -/
def ofFloat (x : Float) : Json := .number (.float x)

/-- A natural number as a JSON number. -/
def ofNat (n : Nat) : Json := .number (.nat n)

/-- A list of strings as a JSON array. -/
def ofStrings (xs : List String) : Json := .array (xs.map .string)

/-- The field of an object with the given key: the last one, as in a map. -/
def field? (j : Json) (key : String) : Option Json :=
  match j with
  | .object fields => (fields.reverse.find? (fun p => p.1 == key)).map (·.2)
  | _ => none

/-- The string held by a document, if it is one. -/
def getString? : Json → Option String
  | .string s => some s
  | _ => none

/-- The items of an array document. -/
def getArray? : Json → Option (List Json)
  | .array xs => some xs
  | _ => none

/-- The natural number held by a document, if it is one. -/
def getNat? : Json → Option Nat
  | .number (.nat n) => some n
  | _ => none

/-- The boolean held by a document. -/
def getBool? : Json → Option Bool
  | .bool b => some b
  | _ => none

end Json

/-- Hexadecimal digit, lowercase. -/
def hexDigitChar (n : Nat) : Char :=
  if n < 10 then Char.ofNat ('0'.toNat + n) else Char.ofNat ('a'.toNat + n - 10)

/-- The escaped form of one character inside a JSON string. -/
def jsonEscapeChar (c : Char) : List Char :=
  if c = '"' then ['\\', '"']
  else if c = '\\' then ['\\', '\\']
  else if c = '\n' then ['\\', 'n']
  else if c = '\r' then ['\\', 'r']
  else if c = '\t' then ['\\', 't']
  else if c.toNat = 8 then ['\\', 'b']
  else if c.toNat = 12 then ['\\', 'f']
  else if c.toNat < 0x20 then
    ['\\', 'u', '0', '0', hexDigitChar (c.toNat / 16), hexDigitChar (c.toNat % 16)]
  else [c]

/-- A string as a quoted JSON string. -/
def jsonQuote (s : String) : String :=
  "\"" ++ String.ofList (s.toList.flatMap jsonEscapeChar) ++ "\""

/-- The text of a JSON number; a positive exponent of a double is marked `+`, and doubles that are
not finite are written `null`. -/
def JsonNumber.render : JsonNumber → String
  | .nat n => Number.natText n
  | .negInt n => if n < 0 then "-" ++ Number.natText n.natAbs else Number.natText n.natAbs
  | .float x => (Number.shortestText? true x).getD "null"

mutual
/-- The compact text of a document. -/
def Json.render : Json → String
  | .null => "null"
  | .bool b => if b then "true" else "false"
  | .number n => n.render
  | .string s => jsonQuote s
  | .array items => "[" ++ renderItems items ++ "]"
  | .object fields => "\x7b" ++ renderFields fields ++ "\x7d"

/-- The items of an array, comma separated. -/
def renderItems : List Json → String
  | [] => ""
  | [j] => j.render
  | j :: rest => j.render ++ "," ++ renderItems rest

/-- The fields of an object, comma separated. -/
def renderFields : List (String × Json) → String
  | [] => ""
  | [(k, v)] => jsonQuote k ++ ":" ++ v.render
  | (k, v) :: rest => jsonQuote k ++ ":" ++ v.render ++ "," ++ renderFields rest
end

/-- Inserts a field into fields sorted by key, replacing a field of equal key. -/
def insertField (k : String) (v : Json) : List (String × Json) → List (String × Json)
  | [] => [(k, v)]
  | (k', v') :: rest =>
    if k < k' then (k, v) :: (k', v') :: rest
    else if k = k' then (k, v) :: rest
    else (k', v') :: insertField k v rest

/-- Fields sorted by key in byte order, the last of equal keys kept. -/
def sortedFields (fields : List (String × Json)) : List (String × Json) :=
  fields.foldl (fun acc (k, v) => insertField k v acc) []

mutual
/-- The canonical form of a document: every object's keys sorted, the last of equal keys kept. -/
def Json.sortFields : Json → Json
  | .array items => .array (sortItems items)
  | .object fields => .object (sortedFields (sortPairs fields))
  | j => j

/-- Canonical forms of array items. -/
def sortItems : List Json → List Json
  | [] => []
  | j :: rest => j.sortFields :: sortItems rest

/-- Canonical forms of field values. -/
def sortPairs : List (String × Json) → List (String × Json)
  | [] => []
  | (k, v) :: rest => (k, v.sortFields) :: sortPairs rest
end

end Reactive
