import Reactive.Json.Basic
import Reactive.Number.Binary
import Reactive.Text.Table

/-!
Reading JSON text. The reader walks the characters of the text with an index and fails with a
`JsonError`: a text such as `expected value` and the position where it arose, as a line and a
column that counts UTF-8 bytes from the start of the line. Errors found past a value
(`peek` errors) point one byte further. Numbers are read the way a 64-bit reader does: digits
are gathered in a 64-bit significand while they fit and scaled by a power of ten in double
arithmetic; integers stay integers. Objects read as documents keep the last of equal keys and
sort their keys.
-/

namespace Reactive

/-- A reading error: its text, its line and column when known, and the character index where
reading stopped. An error raised while checking a value already read carries no position; the
reader that called the check places it where that reader stopped. -/
structure JsonError where
  text : String
  pos : Option (Nat × Nat) := none
  stop : Nat := 0
  deriving Inhabited

/-- The message of a reading error, with its position when it has one. -/
def JsonError.message (e : JsonError) : String :=
  match e.pos with
  | some (line, col) =>
    e.text ++ " at line " ++ Number.natText line ++ " column " ++ Number.natText col
  | none => e.text

/-- The reading monad: the characters of the text, the index of the next one, and failure. -/
abbrev JsonRead := ReaderT (Array Char) (StateT Nat (Except JsonError))

namespace JsonRead

/-- Line and byte column of a character index. -/
def positionOf (cs : Array Char) (i : Nat) : Nat × Nat :=
  let before := cs.toList.take i
  let lineStart := before.length - (before.reverse.takeWhile (· ≠ '\n')).length
  let line := 1 + (before.take lineStart).count '\n'
  let col := ((before.drop lineStart).map Char.utf8Size).foldl (· + ·) 0
  (line, col)

/-- Fails with a text at the current index. -/
def fail {α : Type} (text : String) : JsonRead α := do
  let cs ← read
  let i ← get
  throw ⟨text, some (positionOf cs i), i⟩

/-- Fails with a text that has no position yet. -/
def failBare {α : Type} (text : String) : JsonRead α := do
  throw ⟨text, none, ← get⟩

/-- Fails with a text one byte past the current index (not past the end). -/
def failPeek {α : Type} (text : String) : JsonRead α := do
  let cs ← read
  let i ← get
  let (line, col) := positionOf cs i
  let total := (cs.toList.map Char.utf8Size).foldl (· + ·) 0
  let here := ((cs.toList.take i).map Char.utf8Size).foldl (· + ·) 0
  throw ⟨text, some (line, if here < total then col + 1 else col), i⟩

/-- Gives an error without position the position of the index where reading stopped. -/
def fixPosition (cs : Array Char) (e : JsonError) : JsonError :=
  match e.pos with
  | some _ => e
  | none => { e with pos := some (positionOf cs e.stop) }

/-- Runs a step; an error without position gets the position where the step stopped. -/
def withPosition {α : Type} (x : JsonRead α) : JsonRead α :=
  tryCatch x fun e => do throw (fixPosition (← read) e)

/-- Runs a step and hands back its error instead of failing, leaving the index where the step
stopped. -/
def capture {α : Type} (x : JsonRead α) : JsonRead (Except JsonError α) :=
  tryCatch (do pure (.ok (← x))) fun e => do
    set e.stop
    pure (.error e)

/-- Fails again with an error, now stopped at the current index. -/
def rethrow {α : Type} (e : JsonError) : JsonRead α := do
  throw { e with stop := ← get }

/-- The next character, if any. -/
def peek : JsonRead (Option Char) := do
  let cs ← read
  let i ← get
  pure cs[i]?

/-- Moves past the next character. -/
def bump : JsonRead Unit := modify (· + 1)

/-- Takes the next character, if any. -/
def next : JsonRead (Option Char) := do
  let c ← peek
  if c.isSome then bump
  pure c

/-- Number of characters left. -/
def remaining : JsonRead Nat := do
  let cs ← read
  let i ← get
  pure (cs.size - i)

/-- Skips blanks (space, tab, line feed, carriage return), looking at most `fuel` ahead. -/
def skipBlanksFor : Nat → JsonRead (Option Char)
  | 0 => peek
  | fuel + 1 => do
    match ← peek with
    | some c => if c = ' ' ∨ c = '\n' ∨ c = '\t' ∨ c = '\r' then do bump; skipBlanksFor fuel
                else pure (some c)
    | none => pure none

/-- Skips blanks and returns the next character without taking it. -/
def skipBlanks : JsonRead (Option Char) := do skipBlanksFor (← remaining)

/-- Error texts of the reader. -/
def eofValue : String := "EOF while parsing a value"
def eofList : String := "EOF while parsing a list"
def eofObject : String := "EOF while parsing an object"
def eofString : String := "EOF while parsing a string"
def expectedColon : String := "expected `:`"
def expectedListCommaOrEnd : String := "expected `,` or `]`"
def expectedObjectCommaOrEnd : String := "expected `,` or `\x7d`"
def expectedIdent : String := "expected ident"
def expectedValue : String := "expected value"
def invalidEscape : String := "invalid escape"
def invalidNumber : String := "invalid number"
def numberOutOfRange : String := "number out of range"
def controlInString : String := "control character (\\u0000-\\u001F) found while parsing a string"
def keyMustBeString : String := "key must be a string"
def loneSurrogate : String := "lone leading surrogate in hex escape"
def endOfHexEscape : String := "unexpected end of hex escape"
def trailingComma : String := "trailing comma"
def trailingCharacters : String := "trailing characters"

/-- Expects the rest of a keyword such as the `ull` of `null`. -/
def expectWord : List Char → JsonRead Unit
  | [] => pure ()
  | c :: rest => do
    match ← peek with
    | none => fail eofValue
    | some d => if d = c then do bump; expectWord rest else failPeek expectedIdent

/-- How many characters from the start of a list cover at least `n` bytes, and how many bytes
they hold; none when the list holds fewer than `n` bytes. -/
def coverBytes (n : Nat) : List Char → Nat → Nat → Option (Nat × Nat)
  | [], k, bytes => if n ≤ bytes then some (k, bytes) else none
  | c :: rest, k, bytes => if n ≤ bytes then some (k, bytes) else coverBytes n rest (k + 1) (bytes + c.utf8Size)

/-- Reads the four bytes of a `\u` escape as hexadecimal digits. Fewer than four bytes left is
the end of the text; four bytes that are not all digits are an invalid escape, reported after
the fourth byte even when it falls inside a character. -/
def hexEscape : JsonRead Nat := do
  let cs ← read
  let i ← get
  match coverBytes 4 (cs.toList.drop i) 0 0 with
  | none =>
    set cs.size
    fail eofString
  | some (k, bytes) =>
    set (i + k)
    let ds := (List.range 4).map fun m => cs[i + m]?.bind Text.hexValue?
    match k, ds with
    | 4, [some a, some b, some c, some d] => pure (((a * 16 + b) * 16 + c) * 16 + d)
    | _, _ =>
      let (line, col) := positionOf cs (i + k)
      throw ⟨invalidEscape, some (line, col - (bytes - 4)), i + k⟩

/-- Reads the rest of a `\u` escape, joining a surrogate pair into one character. -/
def unicodeEscape : JsonRead Char := do
  let n ← hexEscape
  if 0xDC00 ≤ n ∧ n ≤ 0xDFFF then fail loneSurrogate
  else if n < 0xD800 ∨ 0xDBFF < n then pure (Char.ofNat n)
  else
    match ← peek with
    | none => fail eofString
    | some '\\' =>
      bump
      match ← peek with
      | none => fail eofString
      | some 'u' =>
        bump
        let m ← hexEscape
        if m < 0xDC00 ∨ 0xDFFF < m then fail loneSurrogate
        else pure (Char.ofNat ((((n - 0xD800) * 1024) ||| (m - 0xDC00)) + 0x10000))
      | some _ => failPeek endOfHexEscape
    | some _ => failPeek endOfHexEscape

/-- The character a one-letter escape stands for. -/
def simpleEscape? : Char → Option Char
  | '"' => some '"'
  | '\\' => some '\\'
  | '/' => some '/'
  | 'b' => some (Char.ofNat 8)
  | 'f' => some (Char.ofNat 12)
  | 'n' => some '\n'
  | 'r' => some '\r'
  | 't' => some '\t'
  | _ => none

/-- Reads the character after a backslash; a character that starts no escape is reported one
byte into it. -/
def escape : JsonRead Char := do
  match ← peek with
  | none => fail eofString
  | some 'u' => do bump; unicodeEscape
  | some c =>
    match simpleEscape? c with
    | some d => do bump; pure d
    | none => failPeek invalidEscape

/-- Reads string characters up to the closing quote, looking at most `fuel` ahead. -/
def stringBodyFor : Nat → List Char → JsonRead String
  | 0, _ => fail eofString
  | fuel + 1, acc => do
    match ← peek with
    | none => fail eofString
    | some '"' => do bump; pure (String.ofList acc.reverse)
    | some '\\' => do
      bump
      let c ← escape
      stringBodyFor fuel (c :: acc)
    | some c =>
      if c.toNat < 0x20 then do bump; fail controlInString
      else do bump; stringBodyFor fuel (c :: acc)

/-- Reads a string whose opening quote has been taken. -/
def stringBody : JsonRead String := do stringBodyFor ((← remaining) + 1) []

/-- Whether a character is an ASCII digit. -/
def isDigitChar (c : Char) : Bool := '0' ≤ c ∧ c ≤ '9'

/-- Value of an ASCII digit. -/
def digitOf (c : Char) : Nat := c.toNat - '0'.toNat

/-- Takes a digit; a character that is not one is reported where it stands, and the end of the
text with its own text. -/
def digitOr (atEnd : String) : JsonRead Char := do
  match ← peek with
  | none => fail atEnd
  | some c => if isDigitChar c then do bump; pure c else failPeek invalidNumber

/-- The largest 64-bit unsigned integer. -/
def maxU64 : Nat := Nat.pow 2 64 - 1

/-- Powers of ten as doubles, each the nearest double to the exact power. -/
def powerOfTen (k : Nat) : Float := Number.ofRatio false (Nat.pow 10 k) 1

/-- Scales a 64-bit significand by a power of ten in double arithmetic: multiplying for positive
exponents, dividing for negative ones, in steps of `10^308` below that. -/
def scaleFor : Nat → Float → Int → JsonRead Float
  | 0, f, _ => pure f
  | fuel + 1, f, e =>
    if e.natAbs ≤ 308 then
      if 0 ≤ e then
        let g := f * powerOfTen e.natAbs
        if g.isInf then fail numberOutOfRange else pure g
      else pure (f / powerOfTen e.natAbs)
    else if f == 0 then pure f
    else if 0 ≤ e then fail numberOutOfRange
    else scaleFor fuel (f / powerOfTen 308) (e + 308)

/-- The double of a significand and decimal exponent. -/
def fromParts (positive : Bool) (sig : Nat) (e : Int) : JsonRead Float := do
  let f ← scaleFor (e.natAbs / 308 + 2) (Number.ofNatNearest sig) e
  pure (if positive then f else -f)

/-- Skips digits, at most `fuel` of them, counting them. -/
def skipDigitsFor : Nat → Nat → JsonRead Nat
  | 0, k => pure k
  | fuel + 1, k => do
    match ← peek with
    | some c => if isDigitChar c then do bump; skipDigitsFor fuel (k + 1) else pure k
    | none => pure k

/-- Reads exponent digits into an integer; `none` when they overflow 32 bits. -/
def exponentDigitsFor : Nat → Nat → JsonRead (Option Nat)
  | 0, v => pure (some v)
  | fuel + 1, v => do
    match ← peek with
    | some c =>
      if isDigitChar c then do
        bump
        let w := v * 10 + digitOf c
        if w > Nat.pow 2 31 - 1 then
          let _ ← skipDigitsFor fuel 0
          pure none
        else exponentDigitsFor fuel w
      else pure (some v)
    | none => pure (some v)

/-- Reads an exponent part after `e` or `E`. -/
def exponentPart (positive : Bool) (sig : Nat) (start : Int) : JsonRead Float := do
  bump
  let positiveExp ← do
    match ← peek with
    | some '+' => do bump; pure true
    | some '-' => do bump; pure false
    | _ => pure true
  let c ← digitOr eofValue
  match ← exponentDigitsFor (← remaining) (digitOf c) with
  | none =>
    if sig ≠ 0 ∧ positiveExp then fail numberOutOfRange
    else pure (if positive then 0 else Number.signedZero true)
  | some v =>
    let e : Int := if positiveExp then start + v else start - v
    fromParts positive sig e

/-- Reads digits after a decimal point. -/
def fractionFor : Nat → Bool → Nat → Int → Bool → JsonRead Float
  | 0, positive, sig, e, _ => fromParts positive sig e
  | fuel + 1, positive, sig, e, any => do
    match ← peek with
    | some c =>
      if isDigitChar c then
        let w := sig * 10 + digitOf c
        if w > maxU64 then do
          let _ ← skipDigitsFor fuel 0
          match ← peek with
          | some 'e' => exponentPart positive sig e
          | some 'E' => exponentPart positive sig e
          | _ => fromParts positive sig e
        else do bump; fractionFor fuel positive w (e - 1) true
      else if !any then failPeek invalidNumber
      else if c = 'e' ∨ c = 'E' then exponentPart positive sig e
      else fromParts positive sig e
    | none => if !any then failPeek eofValue else fromParts positive sig e

/-- Reads what follows the integer digits of a number: a fraction, an exponent, or nothing. -/
def numberTail (positive : Bool) (sig : Nat) : JsonRead JsonNumber := do
  match ← peek with
  | some '.' => do bump; pure (.float (← fractionFor (← remaining) positive sig 0 false))
  | some 'e' => pure (.float (← exponentPart positive sig 0))
  | some 'E' => pure (.float (← exponentPart positive sig 0))
  | _ =>
    if positive then pure (.nat sig)
    else if sig = 0 ∨ sig > Nat.pow 2 63 then pure (.float (-(Number.ofNatNearest sig)))
    else pure (.negInt (-(sig : Int)))

/-- Reads integer digits into a 64-bit significand; past that, digits only raise the exponent. -/
def integerDigitsFor : Nat → Bool → Nat → JsonRead JsonNumber
  | 0, positive, sig => numberTail positive sig
  | fuel + 1, positive, sig => do
    match ← peek with
    | some c =>
      if isDigitChar c then
        let w := sig * 10 + digitOf c
        if w > maxU64 then do
          let extra ← skipDigitsFor fuel 0
          match ← peek with
          | some '.' => do bump; pure (.float (← fractionFor (← remaining) positive sig extra false))
          | some 'e' => pure (.float (← exponentPart positive sig extra))
          | some 'E' => pure (.float (← exponentPart positive sig extra))
          | _ => pure (.float (← fromParts positive sig extra))
        else do bump; integerDigitsFor fuel positive w
      else numberTail positive sig
    | none => numberTail positive sig

/-- Reads a number whose sign, if any, has been taken. -/
def number (positive : Bool) : JsonRead JsonNumber := do
  let c ← digitOr eofValue
  if c = '0' then
    match ← peek with
    | some d => if isDigitChar d then failPeek invalidNumber else numberTail positive 0
    | none => numberTail positive 0
  else integerDigitsFor (← remaining) positive (digitOf c)

/-- Expects a colon between a key and its value. -/
def colon : JsonRead Unit := do
  match ← skipBlanks with
  | some ':' => bump
  | some _ => failPeek expectedColon
  | none => failPeek eofObject

/-- Closes an array after its last item was read. -/
def endArray : JsonRead Unit := do
  match ← skipBlanks with
  | some ']' => bump
  | some ',' => do
    bump
    match ← skipBlanks with
    | some ']' => failPeek trailingComma
    | _ => failPeek trailingCharacters
  | some _ => failPeek trailingCharacters
  | none => failPeek eofList

/-- Closes an object after its last field was read. -/
def endObject : JsonRead Unit := do
  match ← skipBlanks with
  | some '}' => bump
  | some ',' => failPeek trailingComma
  | some _ => failPeek trailingCharacters
  | none => failPeek eofObject

/-- Moves to the next array item: `false` at the closing bracket. `first` tells whether no item
has been read yet; a first item is not checked here, so a misplaced comma is refused by the
reader of the item. -/
def nextItem (first : Bool) : JsonRead Bool := do
  match ← skipBlanks with
  | none => failPeek eofList
  | some ']' => pure false
  | some c =>
    if first then pure true
    else if c = ',' then do
      bump
      match ← skipBlanks with
      | some ']' => failPeek trailingComma
      | some _ => pure true
      | none => failPeek eofValue
    else failPeek expectedListCommaOrEnd

/-- Moves to the next object key, stopping at its opening quote: `false` at the closing brace. -/
def nextKey (first : Bool) : JsonRead Bool := do
  match ← skipBlanks with
  | none => failPeek eofObject
  | some '}' => pure false
  | some c =>
    if first then
      if c = '"' then pure true else failPeek keyMustBeString
    else if c = ',' then do
      bump
      match ← skipBlanks with
      | some '"' => pure true
      | some '}' => failPeek trailingComma
      | some _ => failPeek keyMustBeString
      | none => failPeek eofValue
    else failPeek expectedObjectCommaOrEnd

/-- Reads an object key (at its opening quote). -/
def key : JsonRead String := do bump; stringBody

/-- The error of a bracket opened one level too deep. -/
def recursionLimit : String := "recursion limit exceeded"

/-- Opens a bracket at the current index when `depth` more levels may still open, giving the
levels left inside it; the last level is refused, pointing at the bracket. -/
def openLevel (depth : Nat) : JsonRead Nat :=
  if depth ≤ 1 then failPeek recursionLimit else do bump; pure (depth - 1)

/-- Reads any value as a document, where `depth` more levels of brackets may open, the last of
them being refused. With `sorted`, objects keep the last of equal keys and are sorted by key;
otherwise they keep every field in the order written. -/
def valueFor (sorted : Bool) : Nat → JsonRead Json
  | 0 => failPeek recursionLimit
  | depth + 1 => withPosition do
    match ← skipBlanks with
    | none => failPeek eofValue
    | some 'n' => do bump; expectWord ['u', 'l', 'l']; pure .null
    | some 't' => do bump; expectWord ['r', 'u', 'e']; pure (.bool true)
    | some 'f' => do bump; expectWord ['a', 'l', 's', 'e']; pure (.bool false)
    | some '-' => do bump; pure (.number (← number false))
    | some '"' => do bump; pure (.string (← stringBody))
    | some '[' => do
      if depth = 0 then failPeek recursionLimit
      bump
      let items ← itemsFor depth (← remaining) true []
      endArray
      pure (.array items)
    | some '{' => do
      if depth = 0 then failPeek recursionLimit
      bump
      let fields ← fieldsFor depth (← remaining) true []
      endObject
      pure (.object (if sorted then sortedFields fields else fields))
    | some c => if isDigitChar c then pure (.number (← number true)) else failPeek expectedValue
where
  /-- Reads array items. -/
  itemsFor (depth : Nat) : Nat → Bool → List Json → JsonRead (List Json)
    | 0, _, acc => pure acc.reverse
    | n + 1, first, acc => do
      if ← nextItem first then
        let v ← valueFor sorted depth
        itemsFor depth n false (v :: acc)
      else pure acc.reverse
  /-- Reads object fields. -/
  fieldsFor (depth : Nat) : Nat → Bool → List (String × Json) → JsonRead (List (String × Json))
    | 0, _, acc => pure acc.reverse
    | n + 1, first, acc => do
      if ← nextKey first then
        let k ← key
        colon
        let v ← valueFor sorted depth
        fieldsFor depth n false ((k, v) :: acc)
      else pure acc.reverse

/-- Skips digits. -/
def skipDigits : JsonRead Unit := do let _ ← skipDigitsFor (← remaining) 0

/-- Skips an exponent part from its `e`. -/
def skipExponent : JsonRead Unit := do
  bump
  match ← peek with
  | some '+' | some '-' => bump
  | _ => pure ()
  let _ ← digitOr invalidNumber
  skipDigits

/-- Skips a number whose sign, if any, has been taken, checking only its shape. -/
def skipNumber : JsonRead Unit := do
  if (← digitOr invalidNumber) = '0' then
    match ← peek with
    | some c => if isDigitChar c then failPeek invalidNumber else pure ()
    | none => pure ()
  else skipDigits
  match ← peek with
  | some '.' =>
    bump
    let k ← skipDigitsFor (← remaining) 0
    if k = 0 then failPeek invalidNumber
    match ← peek with
    | some 'e' | some 'E' => skipExponent
    | _ => pure ()
  | some 'e' | some 'E' => skipExponent
  | _ => pure ()

/-- Skips string characters up to the closing quote, looking at most `fuel` ahead. Escapes are
checked for shape only: a `\u` escape needs four hexadecimal digits but may name a lone
surrogate, since the text is never decoded. A control character is reported where it stands. -/
def skipStringFor : Nat → JsonRead Unit
  | 0 => fail eofString
  | fuel + 1 => do
    match ← peek with
    | none => fail eofString
    | some '"' => bump
    | some '\\' => do
      bump
      match ← peek with
      | none => fail eofString
      | some 'u' => do bump; let _ ← hexEscape; skipStringFor fuel
      | some c =>
        if (simpleEscape? c).isSome then do bump; skipStringFor fuel
        else failPeek invalidEscape
    | some c => if c.toNat < 0x20 then fail controlInString else do bump; skipStringFor fuel

/-- Skips a string whose opening quote has been taken. -/
def skipString : JsonRead Unit := do skipStringFor ((← remaining) + 1)

/-- Skips one scalar value or opens a bracket, returning the bracket opened. -/
def skipScalarOrOpen : JsonRead (Option Char) := do
  match ← skipBlanks with
  | none => failPeek eofValue
  | some 'n' => do bump; expectWord ['u', 'l', 'l']; pure none
  | some 't' => do bump; expectWord ['r', 'u', 'e']; pure none
  | some 'f' => do bump; expectWord ['a', 'l', 's', 'e']; pure none
  | some '-' => do bump; skipNumber; pure none
  | some '"' => do bump; skipString; pure none
  | some '[' => do bump; pure (some '[')
  | some '{' => do bump; pure (some '{')
  | some c => if isDigitChar c then do skipNumber; pure none else failPeek expectedValue

/-- After an object is opened or a comma taken inside one, skips the next key and its colon. -/
def skipKey : JsonRead Unit := do
  match ← skipBlanks with
  | some '"' => do bump; skipString
  | some _ => failPeek keyMustBeString
  | none => failPeek eofObject
  match ← skipBlanks with
  | some ':' => bump
  | some _ => failPeek expectedColon
  | none => failPeek eofObject

/-- Closes brackets after a value inside the open brackets `stack` (innermost first): returns
the brackets still open once a comma has been taken, or none when every bracket is closed. Any
character that does not close the innermost bracket is reported as a missing comma or closing
mark of that bracket. -/
def closeFor : Nat → List Char → JsonRead (Option (List Char))
  | 0, _ => pure none
  | _ + 1, [] => pure none
  | fuel + 1, b :: rest => do
    match ← skipBlanks with
    | some ',' => do
      bump
      if b = '{' then skipKey
      pure (some (b :: rest))
    | some ']' => if b = '[' then do bump; closeFor fuel rest else failPeek expectedObjectCommaOrEnd
    | some '}' => if b = '{' then do bump; closeFor fuel rest else failPeek expectedListCommaOrEnd
    | some _ => failPeek (if b = '[' then expectedListCommaOrEnd else expectedObjectCommaOrEnd)
    | none => failPeek (if b = '[' then eofList else eofObject)

/-- Skips a value the way an ignored field is skipped: its shape is checked, numbers are not
converted, and brackets are tracked with a stack instead of a depth limit. -/
def skipFor : Nat → List Char → JsonRead Unit
  | 0, _ => pure ()
  | fuel + 1, stack => do
    match ← skipScalarOrOpen with
    | some b =>
      match ← skipBlanks with
      | some c =>
        if (b = '[' ∧ c = ']') ∨ (b = '{' ∧ c = '}') then do
          bump
          afterClose fuel stack
        else do
          if b = '{' then skipKey
          skipFor fuel (b :: stack)
      | none => failPeek (if b = '[' then eofList else eofObject)
    | none => afterClose fuel stack
where
  /-- Continues after a complete value inside `stack`. -/
  afterClose (fuel : Nat) (stack : List Char) : JsonRead Unit := do
    match ← closeFor (fuel + 1) stack with
    | some opened => skipFor fuel opened
    | none => pure ()

/-- Skips one value as an ignored field. -/
def skipValue : JsonRead Unit := do skipFor ((← remaining) + 1) []

/-- Expects the end of the text after blanks. -/
def finish : JsonRead Unit := do
  match ← skipBlanks with
  | some _ => failPeek trailingCharacters
  | none => pure ()

/-- Runs a reading step over a text. -/
def run {α : Type} (x : JsonRead α) (s : String) : Except JsonError α :=
  StateT.run' (ReaderT.run x s.toList.toArray) 0

end JsonRead

/-- Reads a JSON text as a document, objects sorted by key with the last of equal keys kept; at
most 127 levels of brackets may nest. -/
def Json.parse (s : String) : Except JsonError Json :=
  JsonRead.run (do let v ← JsonRead.valueFor true 128; JsonRead.finish; pure v) s

end Reactive
