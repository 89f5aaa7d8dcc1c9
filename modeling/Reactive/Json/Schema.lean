import Reactive.Json.Reader
import Reactive.Text.Quoted

/-!
Typed reading of JSON. A `Shape` describes the data a reader expects: strings, 32-bit counts,
booleans, sequences, optional values, records with named fields (each with an optional default),
enumerations written as strings, and unions told apart by a tag field (the tag inside the record),
by a tag next to a content field, or by trying each alternative in turn.

Data is read in one of two ways, and both give the same *normal form*: a record becomes an
object holding every field in declaration order with defaults filled in; a union tagged inside
becomes its record with the tag first; a union with adjacent tag and content becomes an object of
the two; a union tried in turn becomes the pair of the index of the alternative that matched and
its value.

* `Shape.readText` reads straight from text and reports errors with their line and column. A
  record may also be written as an array of its fields in order. Unions tagged inside are read
  by buffering the value: the tag is read where it stands, and the rest is checked afterwards as a
  document, so errors found then carry no position of their own and are placed where the
  enclosing reader stops.
* `Shape.readDoc` checks a document already read, with errors that carry no position. A document
  given as it is and content buffered by an enclosing union differ in a few rules: what a tag
  inside may be, whether an empty map stands for a unit, and how left-over items are counted.

The error texts name what was found (`integer 5`, `string "x"`, `map`, …) and what was expected
(`a string`, `u32`, `struct Name`, …) in the usual way of typed JSON readers.
-/

namespace Reactive

/-- Shapes of typed JSON data. -/
inductive Shape where
  /-- a string -/
  | string
  /-- a string naming a file system path -/
  | path
  /-- a natural number below `2^32` -/
  | count
  /-- a boolean -/
  | flag
  | seq (item : Shape)
  /-- `null` for nothing, or a value of the inner shape -/
  | option (inner : Shape)
  | record (name : String) (fields : List (String × Shape × Option Json))
  /-- an enumeration of names written as strings -/
  | units (name : String) (variants : List String)
  /-- a union of records told apart by the tag field inside them -/
  | tagged (name tag : String) (variants : List (String × Shape))
  /-- a union told apart by a tag field next to a content field -/
  | adjacent (name tag content : String) (variants : List (String × Shape))
  /-- a union whose alternatives are tried in order -/
  | untagged (name : String) (variants : List Shape)
  /-- a shape given by name, for shapes that contain themselves -/
  | named (name : String)
  deriving Inhabited

namespace Shape

/-- The text of a natural number. -/
def natText (n : Nat) : String := Number.natText n

/-- A double as errors show it: its shortest text, a positive exponent marked `+`. -/
def floatForError (x : Float) : String := (Number.shortestText? true x).getD (Number.displayText x)

/-- How a number is named in an error. -/
def numberForError : JsonNumber → String
  | .nat n => "integer `" ++ natText n ++ "`"
  | .negInt n => "integer `-" ++ natText n.natAbs ++ "`"
  | .float x => "floating point `" ++ floatForError x ++ "`"

/-- How a value is named in an error. -/
def found : Json → String
  | .null => "null"
  | .bool b => "boolean `" ++ (if b then "true" else "false") ++ "`"
  | .number n => numberForError n
  | .string s => "string " ++ Text.quoted s
  | .array _ => "sequence"
  | .object _ => "map"

/-- A value of the wrong kind. -/
def invalidType (what expected : String) : String :=
  "invalid type: " ++ what ++ ", expected " ++ expected

/-- A value of the right kind but out of range. -/
def invalidValue (what expected : String) : String :=
  "invalid value: " ++ what ++ ", expected " ++ expected

/-- A sequence of the wrong length. -/
def invalidLength (n : Nat) (expected : String) : String :=
  "invalid length " ++ natText n ++ ", expected " ++ expected

/-- A required field that is missing. -/
def missingField (key : String) : String := "missing field `" ++ key ++ "`"

/-- A field given twice. -/
def duplicateField (key : String) : String := "duplicate field `" ++ key ++ "`"

/-- Names in backquotes. -/
def quotedName (n : String) : String := "`" ++ n ++ "`"

/-- The list of names an unknown variant could have been. -/
def oneOf : List String → String
  | [] => "nothing"
  | [a] => quotedName a
  | [a, b] => quotedName a ++ " or " ++ quotedName b
  | names => "one of " ++ ", ".intercalate (names.map quotedName)

/-- A variant name that is not one of `names`. -/
def unknownVariant (v : String) (names : List String) : String :=
  if names.isEmpty then "unknown variant `" ++ v ++ "`, there are no variants"
  else "unknown variant `" ++ v ++ "`, expected " ++ oneOf names

/-- The expectation of a record read as a sequence of its fields. -/
def recordLength (name : String) (n : Nat) : String :=
  "struct " ++ name ++ " with " ++ natText n ++ (if n == 1 then " element" else " elements")

/-- The expectation of a sequence with a known count. -/
def inSequence (n : Nat) : String :=
  if n == 1 then "1 element in sequence" else natText n ++ " elements in sequence"

/-- What a shape is called when a value of another kind is found. -/
def expectation : Shape → String
  | .string => "a string"
  | .path => "path string"
  | .count => "u32"
  | .flag => "a boolean"
  | .seq _ => "a sequence"
  | .option _ => "option"
  | .record name _ => "struct " ++ name
  | .units name _ => "enum " ++ name
  | .tagged name _ _ => "internally tagged enum " ++ name
  | .adjacent name _ _ _ => "adjacently tagged enum " ++ name
  | .untagged name _ => "untagged enum " ++ name
  | .named name => name

/-- The names of the variants of a union. -/
def variantNames (variants : List (String × Shape)) : List String := variants.map (·.1)

/-- The shape of the variant named `v`. -/
def variantShape? (variants : List (String × Shape)) (v : String) : Option Shape :=
  (variants.find? (·.1 == v)).map (·.2)

/-- The fields of an object in normal form. -/
def fieldsOf : Json → List (String × Json)
  | .object fs => fs
  | _ => []

/-- The index of a field key. -/
def keyIndex? (fields : List (String × Shape × Option Json)) (k : String) : Option Nat :=
  fields.findIdx? (·.1 == k)

/-- Completes a record from the values found for its fields: a missing field takes its default,
and the first missing field without one is an error. -/
def completeRecord : List (String × Shape × Option Json) → List (Option Json) →
    Except String (List (String × Json))
  | [], _ => pure []
  | (k, _, d) :: rest, got => do
    let v ← match got.head?.join, d with
      | some v, _ => pure v
      | none, some dv => pure dv
      | none, none => throw (missingField k)
    pure ((k, v) :: (← completeRecord rest got.tail))

/-- A count from a number read: in range, or the error for it. -/
def countOf : JsonNumber → Except String Json
  | .nat n => if n < Nat.pow 2 32 then pure (.number (.nat n))
    else throw (invalidValue (numberForError (.nat n)) "u32")
  | .negInt n => throw (invalidValue (numberForError (.negInt n)) "u32")
  | .float x => throw (invalidType (numberForError (.float x)) "u32")

/-- The tag of a union tagged inside, from a document: a string naming a variant, or, in
buffered content, the index of one. -/
def variantOfDoc (buffered : Bool) (names : List String) : Json → Except String String
  | .string s => if names.contains s then pure s else throw (unknownVariant s names)
  | .number (.nat n) =>
    if !buffered then throw (invalidType (numberForError (.nat n)) "variant identifier")
    else match names[n]? with
      | some v => pure v
      | none => throw (invalidValue (numberForError (.nat n))
          ("variant index 0 <= i < " ++ natText names.length))
  | j => throw (invalidType (found j) "variant identifier")

/-- A name of an enumeration from a document: a string naming one, or a map whose single key
names one and whose value is `null`; buffered content also takes an empty map for `null`. -/
def unitOfDoc (buffered : Bool) (names : List String) : Json → Except String String
  | .string s => if names.contains s then pure s else throw (unknownVariant s names)
  | .object [(k, v)] =>
    if !names.contains k then throw (unknownVariant k names)
    else match v with
      | .null => pure k
      | .object [] => if buffered then pure k else throw (invalidType "map" "unit")
      | other => throw (invalidType (found other) "unit")
  | .object _ => throw (invalidValue "map" "map with a single key")
  | other => throw (invalidType (found other) "string or map")

/-- The error for a sequence with items left over once `taken` were read: a plain document
counts them all, buffered content counts what was expected. -/
def leftOver (buffered : Bool) (total taken : Nat) : String :=
  invalidLength total (if buffered then inSequence taken else "fewer elements in array")

/-- Reads record fields from object entries, one after another, with `decode` for the values. -/
def recordEntries (fields : List (String × Shape × Option Json)) (decode : Shape → Json → Except String Json) :
    List (String × Json) → List (Option Json) → Except String (List (Option Json))
  | [], got => pure got
  | (k, v) :: rest, got =>
    match keyIndex? fields k with
    | some i =>
      if (got[i]?).join.isSome then throw (duplicateField k)
      else match fields[i]? with
        | some (_, shape, _) => do
          let x ← decode shape v
          recordEntries fields decode rest (got.set i (some x))
        | none => recordEntries fields decode rest got
    | none => recordEntries fields decode rest got

/-- Reads record fields from sequence items in order, with `decode` for the values; returns the
values and how many items were taken. -/
def recordItemsDoc (name : String) (total : Nat) (decode : Shape → Json → Except String Json) :
    List (String × Shape × Option Json) → List Json → Nat → Except String (List (String × Json) × Nat)
  | [], _, taken => pure ([], taken)
  | (k, shape, d) :: rest, items, taken => do
    match items with
    | v :: more =>
      let x ← decode shape v
      let (tail, n) ← recordItemsDoc name total decode rest more (taken + 1)
      pure ((k, x) :: tail, n)
    | [] =>
      match d with
      | some dv =>
        let (tail, n) ← recordItemsDoc name total decode rest [] taken
        pure ((k, dv) :: tail, n)
      | none => throw (invalidLength taken (recordLength name total))

/-- Which of the tag and content keys an entry has, if either. -/
inductive AdjacentKey where
  | tag | content
  deriving BEq

/-- The next entry whose key is the tag or the content key, with the entries after it. -/
def nextRelevant (tag content : String) :
    List (String × Json) → Option (AdjacentKey × Json × List (String × Json))
  | [] => none
  | (k, v) :: rest =>
    if k == tag then some (.tag, v, rest)
    else if k == content then some (.content, v, rest)
    else nextRelevant tag content rest

/-- Checks that no tag or content key follows, then gives the result. -/
def noMoreKeys (tag content : String) (rest : List (String × Json)) (ret : Json) :
    Except String Json :=
  match nextRelevant tag content rest with
  | some (.tag, _, _) => throw (duplicateField tag)
  | some (.content, _, _) => throw (duplicateField content)
  | none => pure ret

/-- Checks a document against a shape, giving its normal form. `resolve` gives the shapes
called by name; `fuel` bounds the depth. A document is read either as given (`buffered` false)
or as content buffered by an enclosing union, which is how everything inside a union tagged
inside or tried in turn, and the content of an adjacent union that comes before its tag, is
read. The two differ in what they take for a tag inside and for a unit, and in how they count
left-over items. -/
def readDoc (resolve : String → Shape) : Nat → Bool → Shape → Json → Except String Json
  | 0, _, _, _ => throw "recursion limit exceeded"
  | fuel + 1, buffered, shape, j =>
    match shape, j with
    | .named n, _ => readDoc resolve fuel buffered (resolve n) j
    | .string, .string s => pure (.string s)
    | .path, .string s => pure (.string s)
    | .count, .number n => countOf n
    | .flag, .bool b => pure (.bool b)
    | .seq item, .array items => do
      pure (.array (← items.mapM (readDoc resolve fuel buffered item)))
    | .option _, .null => pure .null
    | .option inner, _ => readDoc resolve fuel buffered inner j
    | .record _ fields, .object entries => do
      let got ← recordEntries fields (readDoc resolve fuel buffered) entries
        (fields.map fun _ => none)
      pure (.object (← completeRecord fields got))
    | .record name fields, .array items => do
      let (vals, taken) ←
        recordItemsDoc name fields.length (readDoc resolve fuel buffered) fields items 0
      if items.length > taken then throw (leftOver buffered items.length taken)
      pure (.object vals)
    | .units _ names, _ => do pure (.string (← unitOfDoc buffered names j))
    | .tagged _ tag variants, .object entries => do
      let (v, rest) ← taggedEntries buffered tag (variantNames variants) entries none []
      match variantShape? variants v with
      | some vs => do
        pure (.object ((tag, .string v) :: fieldsOf (← readDoc resolve fuel true vs (.object rest))))
      | none => throw (unknownVariant v (variantNames variants))
    | .tagged _ tag variants, .array items =>
      match items with
      | [] => throw (missingField tag)
      | t :: rest => do
        let v ← variantOfDoc buffered (variantNames variants) t
        match variantShape? variants v with
        | some vs => do
          pure (.object ((tag, .string v) :: fieldsOf (← readDoc resolve fuel true vs (.array rest))))
        | none => throw (unknownVariant v (variantNames variants))
    | .adjacent _ tag content variants, .object entries =>
      let names := variantNames variants
      let inner := fun (b : Bool) (v : String) (c : Json) =>
        match variantShape? variants v with
        | some vs => readDoc resolve fuel b vs c
        | none => throw (unknownVariant v names)
      let result := fun (v : String) (x : Json) => Json.object [(tag, .string v), (content, x)]
      match nextRelevant tag content entries with
      | none => throw (missingField tag)
      | some (.tag, tv, rest) => do
        let v ← unitOfDoc buffered names tv
        match nextRelevant tag content rest with
        | some (.tag, _, _) => throw (duplicateField tag)
        | some (.content, c, rest2) => do
          let x ← inner buffered v c
          noMoreKeys tag content rest2 (result v x)
        | none => throw (missingField content)
      | some (.content, c, rest) =>
        match nextRelevant tag content rest with
        | some (.tag, tv, rest2) => do
          let v ← unitOfDoc buffered names tv
          let x ← inner true v c
          noMoreKeys tag content rest2 (result v x)
        | some (.content, _, _) => throw (duplicateField content)
        | none => throw (missingField tag)
    | .adjacent name tag content variants, .array items =>
      let names := variantNames variants
      match items with
      | [] => throw (invalidLength 0 ("adjacently tagged enum " ++ name))
      | [_] => throw (invalidLength 1 ("adjacently tagged enum " ++ name))
      | tv :: c :: more => do
        let v ← unitOfDoc buffered names tv
        let x ← match variantShape? variants v with
          | some vs => readDoc resolve fuel buffered vs c
          | none => throw (unknownVariant v names)
        if !more.isEmpty then throw (leftOver buffered items.length 2)
        pure (Json.object [(tag, .string v), (content, x)])
    | .untagged name variants, _ =>
      let tries := (List.range variants.length).zip variants
      match tries.findSome? (fun (i, vs) => (readDoc resolve fuel true vs j).toOption.map (i, ·)) with
      | some (i, x) => pure (.array [.number (.nat i), x])
      | none => throw ("data did not match any variant of untagged enum " ++ name)
    | s, other => throw (invalidType (found other) (expectation s))
where
  /-- Splits the tag off the entries of a record tagged inside. -/
  taggedEntries (buffered : Bool) (tag : String) (names : List String) :
      List (String × Json) → Option String → List (String × Json) →
      Except String (String × List (String × Json))
    | [], some v, acc => pure (v, acc.reverse)
    | [], none, _ => throw (missingField tag)
    | (k, x) :: rest, found, acc =>
      if k == tag then
        if found.isSome then throw (duplicateField tag)
        else do
          let v ← variantOfDoc buffered names x
          taggedEntries buffered tag names rest (some v) acc
      else taggedEntries buffered tag names rest found ((k, x) :: acc)

end Shape

namespace JsonRead

open Shape

/-- Fails with a type error for the value at the current index, reading the value first when it
is a scalar; a bracket is not read. -/
def peekInvalidType {α : Type} (expected : String) : JsonRead α := do
  match ← peek with
  | some 'n' => do bump; expectWord ['u', 'l', 'l']; fail (invalidType "null" expected)
  | some 't' => do bump; expectWord ['r', 'u', 'e']; fail (invalidType "boolean `true`" expected)
  | some 'f' => do
    bump
    expectWord ['a', 'l', 's', 'e']
    fail (invalidType "boolean `false`" expected)
  | some '-' => do bump; let n ← number false; fail (invalidType (numberForError n) expected)
  | some '"' => do
    bump
    let s ← stringBody
    fail (invalidType ("string " ++ Text.quoted s) expected)
  | some '[' => fail (invalidType "sequence" expected)
  | some '{' => fail (invalidType "map" expected)
  | some c =>
    if isDigitChar c then do
      let n ← number true
      fail (invalidType (numberForError n) expected)
    else failPeek expectedValue
  | none => failPeek expectedValue

/-- Lifts a check: its error has no position yet. -/
def ofCheck {α : Type} : Except String α → JsonRead α
  | .ok a => pure a
  | .error e => failBare e

/-- Ends a sequence after its items were read (or failed), the way the items' error, else the
end's error, is reported. -/
def finishSeq {α : Type} (r : Except JsonError α) : JsonRead α := do
  let e ← capture endArray
  match r, e with
  | .error err, _ => rethrow err
  | .ok _, .error err => throw err
  | .ok v, .ok _ => pure v

/-- Ends an object after its fields were read (or failed). -/
def finishMap {α : Type} (r : Except JsonError α) : JsonRead α := do
  let e ← capture endObject
  match r, e with
  | .error err, _ => rethrow err
  | .ok _, .error err => throw err
  | .ok v, .ok _ => pure v

/-- Reads a string value, or fails naming `expected`. -/
def readStringAs (expected : String) : JsonRead String := withPosition do
  match ← skipBlanks with
  | none => failPeek eofValue
  | some '"' => do bump; stringBody
  | some _ => peekInvalidType expected

/-- Reads a variant name written as a string. -/
def readVariant (names : List String) : JsonRead String := withPosition do
  let v ← readStringAs "variant identifier"
  if names.contains v then pure v else failBare (unknownVariant v names)

/-- Reads sequence items with `item`, up to the closing bracket (not taken). -/
def readItems (item : JsonRead Json) (first : Bool) : JsonRead (List Json) := do
  let mut acc : Array Json := #[]
  let mut isFirst := first
  for _ in List.range ((← remaining) + 1) do
    if !(← nextItem isFirst) then break
    isFirst := false
    acc := acc.push (← item)
  pure acc.toList

/-- Reads the fields of a record written as an object, up to the closing brace (not taken). -/
def readRecordFields (fields : List (String × Shape × Option Json)) (readField : Shape → JsonRead Json) :
    JsonRead Json := do
  let mut got : List (Option Json) := fields.map fun _ => none
  let mut first := true
  for _ in List.range ((← remaining) + 1) do
    if !(← nextKey first) then break
    first := false
    let k ← key
    match keyIndex? fields k with
    | some i =>
      if (got[i]?).join.isSome then failBare (duplicateField k)
      colon
      match fields[i]? with
      | some (_, shape, _) =>
        let v ← readField shape
        got := got.set i (some v)
      | none => skipValue
    | none =>
      colon
      skipValue
  pure (.object (← ofCheck (completeRecord fields got)))

/-- Reads the fields of a record written as an array of them in order, up to the closing bracket
(not taken). -/
def readRecordItems (name : String) (fields : List (String × Shape × Option Json))
    (readField : Shape → JsonRead Json) : JsonRead Json := do
  let mut acc : Array (String × Json) := #[]
  let mut first := true
  let mut i := 0
  for (k, shape, d) in fields do
    if ← nextItem first then
      first := false
      acc := acc.push (k, ← readField shape)
    else
      match d with
      | some dv => acc := acc.push (k, dv)
      | none => failBare (invalidLength i (recordLength name fields.length))
    i := i + 1
  pure (.object acc.toList)

/-- Reads the entries of a union tagged inside, written as an object, up to the closing brace
(not taken): the variant, and the other entries in order, kept as written. -/
def readTaggedFields (tag : String) (names : List String) (depth : Nat) :
    JsonRead (String × Json) := do
  let mut variant : Option String := none
  let mut entries : Array (String × Json) := #[]
  let mut first := true
  for _ in List.range ((← remaining) + 1) do
    if !(← nextKey first) then break
    first := false
    let k ← key
    if k == tag then
      if variant.isSome then failBare (duplicateField tag)
      colon
      variant := some (← readVariant names)
    else
      colon
      entries := entries.push (k, ← valueFor false depth)
  match variant with
  | some v => pure (v, .object entries.toList)
  | none => failBare (missingField tag)

/-- Reads a union tagged inside, written as an array: the variant first, then the other items. -/
def readTaggedItems (tag : String) (names : List String) (depth : Nat) :
    JsonRead (String × Json) := do
  if !(← nextItem true) then failBare (missingField tag)
  let v ← readVariant names
  let rest ← readItems (valueFor false depth) false
  pure (v, .array rest)

/-- Reads a value of a shape from the text, giving its normal form. `resolve` gives the shapes
called by name; `depth` more levels of brackets may open, the last of them being refused, in
typed and buffered values alike; `fuel` bounds the steps through shapes. -/
def readTyped (resolve : String → Shape) : Nat → Nat → Shape → JsonRead Json
  | 0, _, _ => failPeek recursionLimit
  | fuel + 1, depth, shape =>
    match shape with
    | .named n => readTyped resolve fuel depth (resolve n)
    | .string => do pure (.string (← readStringAs "a string"))
    | .path => do pure (.string (← readStringAs "path string"))
    | .count => withPosition do
      match ← skipBlanks with
      | none => failPeek eofValue
      | some '-' => do bump; ofCheck (countOf (← number false))
      | some c => if isDigitChar c then do ofCheck (countOf (← number true)) else peekInvalidType "u32"
    | .flag => withPosition do
      match ← skipBlanks with
      | none => failPeek eofValue
      | some 't' => do bump; expectWord ['r', 'u', 'e']; pure (.bool true)
      | some 'f' => do bump; expectWord ['a', 'l', 's', 'e']; pure (.bool false)
      | some _ => peekInvalidType "a boolean"
    | .option inner => do
      match ← skipBlanks with
      | some 'n' => do bump; expectWord ['u', 'l', 'l']; pure .null
      | _ => readTyped resolve fuel depth inner
    | .seq item => withPosition do
      match ← skipBlanks with
      | none => failPeek eofValue
      | some '[' => do
        let inner ← openLevel depth
        let r ← capture (readItems (readTyped resolve fuel inner item) true)
        pure (.array (← finishSeq r))
      | some _ => peekInvalidType "a sequence"
    | .record name fields => withPosition do
      match ← skipBlanks with
      | none => failPeek eofValue
      | some '[' => do
        let inner ← openLevel depth
        let r ← capture (readRecordItems name fields (readTyped resolve fuel inner))
        finishSeq r
      | some '{' => do
        let inner ← openLevel depth
        let r ← capture (readRecordFields fields (readTyped resolve fuel inner))
        finishMap r
      | some _ => peekInvalidType ("struct " ++ name)
    | .units _ names => do
      match ← skipBlanks with
      | none => failPeek eofValue
      | some '"' => do pure (.string (← readVariant names))
      | some '{' => do
        let _ ← openLevel depth
        let v ← readVariant names
        colon
        withPosition do
          match ← skipBlanks with
          | none => failPeek eofValue
          | some 'n' => do bump; expectWord ['u', 'l', 'l']
          | some _ => peekInvalidType "unit"
        match ← skipBlanks with
        | some '}' => do bump; pure (.string v)
        | some _ => fail expectedValue
        | none => fail eofObject
      | some _ => failPeek expectedValue
    | .tagged name tag variants => do
      let names := variantNames variants
      let (v, content) ← withPosition do
        match ← skipBlanks with
        | none => failPeek eofValue
        | some '{' => do
          let inner ← openLevel depth
          let r ← capture (readTaggedFields tag names inner)
          finishMap r
        | some '[' => do
          let inner ← openLevel depth
          let r ← capture (readTaggedItems tag names inner)
          finishSeq r
        | some _ => peekInvalidType ("internally tagged enum " ++ name)
      match variantShape? variants v with
      | some vs =>
        let x ← ofCheck (readDoc resolve fuel true vs content)
        pure (.object ((tag, .string v) :: fieldsOf x))
      | none => failBare (unknownVariant v names)
    | _ => do
      let doc ← valueFor false depth
      ofCheck (readDoc resolve fuel true shape doc)

/-- Reads a whole text as a value of a shape: the value, then nothing but blanks. -/
def readWhole (resolve : String → Shape) (shape : Shape) : JsonRead Json := do
  let v ← readTyped resolve 4096 128 shape
  finish
  pure v

end JsonRead

/-- Reads a JSON text as a value of a shape, giving its normal form or the error. -/
def Shape.parseText (resolve : String → Shape) (shape : Shape) (text : String) :
    Except JsonError Json :=
  JsonRead.run (JsonRead.readWhole resolve shape) text

end Reactive
