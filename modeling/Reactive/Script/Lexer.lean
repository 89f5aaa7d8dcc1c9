import Reactive.Script.Token
import Reactive.Text.Table
import Reactive.Text.IdentData
import Reactive.Text.Blank
import Reactive.Number.Binary

/-!
Splitting script source into tokens, one at a time. Blanks, line breaks and comments before a
token are skipped and the token records whether a line break was among them. Identifiers may
use Unicode letters and `\u` escapes; numbers may be decimal (with fraction, exponent and `_`
separators between digits), hexadecimal, octal, binary or legacy octal, with an optional `n`
suffix on integers; strings and templates know every escape of the language. A slash is always
read as a punctuator here: the parser asks for a regular expression when a slash starts an
operand, and for the rest of a template when a `}` closes a substitution.
-/

namespace Reactive.Script

/-- Non-ASCII letters that may start an identifier. -/
def identStartSet : Text.RangeSet := Text.RangeSet.ofText Text.IdentData.startText

/-- Non-ASCII characters that may continue an identifier. -/
def identPartSet : Text.RangeSet := Text.RangeSet.ofText Text.IdentData.partText

/-- Whether a character is an ASCII decimal digit. -/
def isDecimalDigit (c : Char) : Bool := '0' ≤ c && c ≤ '9'

/-- Whether a character may start an identifier. -/
def isIdentStart (c : Char) : Bool :=
  ('a' ≤ c && c ≤ 'z') || ('A' ≤ c && c ≤ 'Z') || c = '$' || c = '_' ||
  (c.toNat ≥ 0x80 && identStartSet.contains c.toNat)

/-- Whether a character may continue an identifier. -/
def isIdentPart (c : Char) : Bool :=
  isIdentStart c || isDecimalDigit c || c.toNat = 0x200C || c.toNat = 0x200D ||
  (c.toNat ≥ 0x80 && identPartSet.contains c.toNat)

/-- The scanning monad: the source characters, the index of the next one, and failure. -/
abbrev Scan := ReaderT (Array Char) (StateT Nat (Except String))

namespace Scan

/-- The character `k` places ahead of the index. -/
def peekAt (k : Nat) : Scan (Option Char) := do
  let cs ← read
  let i ← get
  pure cs[i + k]?

/-- Moves the index forward. -/
def advance (k : Nat) : Scan Unit := modify (· + k)

/-- Characters left after the index. -/
def left : Scan Nat := do
  let cs ← read
  let i ← get
  pure (cs.size - i)

/-- Skips to the end of the line (the line break stays). -/
def skipLineFor : Nat → Scan Unit
  | 0 => pure ()
  | fuel + 1 => do
    match ← peekAt 0 with
    | some c => if Text.isLineBreak c then pure () else do advance 1; skipLineFor fuel
    | none => pure ()

/-- Skips the body of a block comment up to and including its `*/`; tells whether it held a
line break. -/
def skipBlockFor : Nat → Bool → Scan Bool
  | 0, _ => throw "unterminated comment"
  | fuel + 1, nl => do
    match ← peekAt 0 with
    | none => throw "unterminated comment"
    | some '*' =>
      if (← peekAt 1) == some '/' then do advance 2; pure nl
      else do advance 1; skipBlockFor fuel nl
    | some c => do advance 1; skipBlockFor fuel (nl || Text.isLineBreak c)

/-- Skips blanks, line breaks and comments; tells whether a line break was skipped. -/
def skipTriviaFor : Nat → Bool → Scan Bool
  | 0, nl => pure nl
  | fuel + 1, nl => do
    match ← peekAt 0 with
    | none => pure nl
    | some c =>
      if Text.isLineBreak c then do advance 1; skipTriviaFor fuel true
      else if Text.isSourceBlank c then do advance 1; skipTriviaFor fuel nl
      else if c = '/' then
        match ← peekAt 1 with
        | some '/' => do advance 2; skipLineFor (← left); skipTriviaFor fuel nl
        | some '*' => do
          advance 2
          let nl' ← skipBlockFor ((← left) + 1) nl
          skipTriviaFor fuel nl'
        | _ => pure nl
      else pure nl

/-- Skips trivia before a token. -/
def skipTrivia : Scan Bool := do skipTriviaFor ((← left) + 1) false

/-- Reads exactly `n` hexadecimal digits. -/
def hexDigitsFor : Nat → Nat → Scan (Option Nat)
  | 0, v => pure (some v)
  | n + 1, v => do
    match (← peekAt 0).bind Text.hexValue? with
    | some d => do advance 1; hexDigitsFor n (v * 16 + d)
    | none => pure none

/-- Reads hexadecimal digits up to a closing brace, for `\u{…}`. -/
def bracedHexFor : Nat → Nat → Bool → Scan (Option Nat)
  | 0, _, _ => pure none
  | fuel + 1, v, any => do
    match ← peekAt 0 with
    | some '\x7d' => if any then do advance 1; pure (some v) else pure none
    | some c =>
      match Text.hexValue? c with
      | some d =>
        if v * 16 + d > 0x10FFFF then pure none
        else do advance 1; bracedHexFor fuel (v * 16 + d) true
      | none => pure none
    | none => pure none

/-- Reads the code of a `\u` escape after the `u`: four digits or a braced code point. -/
def unicodeCode : Scan (Option Nat) := do
  if (← peekAt 0) == some '\x7b' then do advance 1; bracedHexFor ((← left) + 1) 0 false
  else hexDigitsFor 4 0

/-- Whether a code is a leading surrogate. -/
def isLeadSurrogate (n : Nat) : Bool := 0xD800 ≤ n && n ≤ 0xDBFF

/-- Whether a code is a trailing surrogate. -/
def isTrailSurrogate (n : Nat) : Bool := 0xDC00 ≤ n && n ≤ 0xDFFF

/-- A piece of a decoded literal: a character, or a surrogate code that no partner completes. -/
inductive Piece where
  | char (c : Char)
  | lone (code : Nat)
  deriving Inhabited

/-- A hexadecimal digit, lowercase. -/
def lowerHexDigit (d : Nat) : Char := if d < 10 then Char.ofNat (48 + d) else Char.ofNat (87 + d)

/-- Four lowercase hexadecimal digits of a code below `0x10000`. -/
def hex4 (n : Nat) : List Char :=
  [n / 4096 % 16, n / 256 % 16, n / 16 % 16, n % 16].map lowerHexDigit

/-- The text of a decoded literal. When it holds a lone surrogate, each lone surrogate is written
as the replacement character followed by its four hexadecimal digits, and each replacement
character of the literal as the replacement character followed by `fffd`, so that the two never
meet; otherwise the characters are the text. -/
def piecesText (ps : List Piece) : String :=
  if ps.any (fun p => p matches .lone _) then
    String.ofList (ps.flatMap fun
      | .lone n => Char.ofNat 0xFFFD :: hex4 n
      | .char c => if c.toNat = 0xFFFD then c :: hex4 0xFFFD else [c])
  else String.ofList (ps.filterMap fun
      | .char c => some c
      | .lone _ => none)

/-- The piece of a `\u` escape in a literal. A leading surrogate of four digits is joined to a
trailing surrogate written right after it as `\u` with four digits; any other surrogate is lone. -/
def unicodePiece : Scan (Option Piece) := do
  let braced := (← peekAt 0) == some '\x7b'
  match ← unicodeCode with
  | none => pure none
  | some n =>
    if isLeadSurrogate n && !braced then
      let save ← get
      if (← peekAt 0) == some '\\' && (← peekAt 1) == some 'u' && (← peekAt 2) != some '\x7b' then do
        advance 2
        match ← unicodeCode with
        | some m =>
          if isTrailSurrogate m then pure (some (.char (Char.ofNat ((n - 0xD800) * 1024 + (m - 0xDC00) + 0x10000))))
          else do set save; pure (some (.lone n))
        | none => do set save; pure (some (.lone n))
      else pure (some (.lone n))
    else if isLeadSurrogate n || isTrailSurrogate n then pure (some (.lone n))
    else pure (some (.char (Char.ofNat n)))

/-- Whether a character is an octal digit. -/
def isOctal (c : Char) : Bool := '0' ≤ c && c ≤ '7'

/-- Reads a legacy octal escape whose first digit `d` has been taken. -/
def legacyOctal (d : Nat) : Scan Char := do
  match ← peekAt 0 with
  | some c =>
    if isOctal c then
      let v := d * 8 + (c.toNat - '0'.toNat)
      advance 1
      if d ≤ 3 then
        match ← peekAt 0 with
        | some c2 =>
          if isOctal c2 then do advance 1; pure (Char.ofNat (v * 8 + (c2.toNat - '0'.toNat)))
          else pure (Char.ofNat v)
        | none => pure (Char.ofNat v)
      else pure (Char.ofNat v)
    else pure (Char.ofNat d)
  | none => pure (Char.ofNat d)

/-- Reads an escape of a string literal after the backslash; a line continuation gives nothing. -/
def stringEscape : Scan (List Piece) := do
  match ← peekAt 0 with
  | none => throw "unterminated string"
  | some c => do
    advance 1
    match c with
    | 'n' => pure [.char '\n']
    | 't' => pure [.char '\t']
    | 'r' => pure [.char '\r']
    | 'b' => pure [.char (Char.ofNat 8)]
    | 'f' => pure [.char (Char.ofNat 12)]
    | 'v' => pure [.char (Char.ofNat 11)]
    | 'x' =>
      match ← hexDigitsFor 2 0 with
      | some v => pure [.char (Char.ofNat v)]
      | none => throw "invalid hexadecimal escape"
    | 'u' =>
      match ← unicodePiece with
      | some p => pure [p]
      | none => throw "invalid unicode escape"
    | '\r' => do
      if (← peekAt 0) == some '\n' then advance 1
      pure []
    | _ =>
      if Text.isLineBreak c then pure []
      else if '0' ≤ c && c ≤ '7' then do pure [.char (← legacyOctal (c.toNat - '0'.toNat))]
      else pure [.char c]

/-- Reads the body of a string literal after its opening quote, as its pieces. -/
def stringBodyFor (quote : Char) : Nat → List Piece → Scan (List Piece)
  | 0, _ => throw "unterminated string"
  | fuel + 1, acc => do
    match ← peekAt 0 with
    | none => throw "unterminated string"
    | some c =>
      if c = quote then do advance 1; pure acc.reverse
      else if c = '\n' || c = '\r' then throw "unterminated string"
      else if c = '\\' then do
        advance 1
        let e ← stringEscape
        stringBodyFor quote fuel (e.reverse ++ acc)
      else do advance 1; stringBodyFor quote fuel (.char c :: acc)

/-- Reads an escape of a template after the backslash: `none` when it is malformed. -/
def templateEscape : Scan (Option (List Piece)) := do
  match ← peekAt 0 with
  | none => throw "unterminated template"
  | some c => do
    advance 1
    match c with
    | 'n' => pure (some [.char '\n'])
    | 't' => pure (some [.char '\t'])
    | 'r' => pure (some [.char '\r'])
    | 'b' => pure (some [.char (Char.ofNat 8)])
    | 'f' => pure (some [.char (Char.ofNat 12)])
    | 'v' => pure (some [.char (Char.ofNat 11)])
    | 'x' => pure ((← hexDigitsFor 2 0).map fun v => [.char (Char.ofNat v)])
    | 'u' => pure ((← unicodePiece).map fun p => [p])
    | '0' =>
      match ← peekAt 0 with
      | some d => if isDecimalDigit d then pure none else pure (some [.char (Char.ofNat 0)])
      | none => pure (some [.char (Char.ofNat 0)])
    | '\r' => do
      if (← peekAt 0) == some '\n' then advance 1
      pure (some [])
    | _ =>
      if Text.isLineBreak c then pure (some [])
      else if isDecimalDigit c then pure none
      else pure (some [.char c])

/-- Reads template characters up to a closing backtick or a `${`. The value is `none` once a
malformed escape is met; carriage returns read as line feeds. -/
def templateBodyFor : Nat → Option (List Piece) → Scan (Option String × Bool)
  | 0, _ => throw "unterminated template"
  | fuel + 1, acc => do
    match ← peekAt 0 with
    | none => throw "unterminated template"
    | some '`' => do advance 1; pure (acc.map (fun ps => piecesText ps.reverse), true)
    | some '$' =>
      if (← peekAt 1) == some '\x7b' then do
        advance 2
        pure (acc.map (fun ps => piecesText ps.reverse), false)
      else do advance 1; templateBodyFor fuel (acc.map (.char '$' :: ·))
    | some '\\' => do
      advance 1
      match ← templateEscape with
      | some e => templateBodyFor fuel (acc.map (e.reverse ++ ·))
      | none => templateBodyFor fuel none
    | some '\r' => do
      advance 1
      if (← peekAt 0) == some '\n' then advance 1
      templateBodyFor fuel (acc.map (.char '\n' :: ·))
    | some c => do advance 1; templateBodyFor fuel (acc.map (.char c :: ·))

/-- Reads a run of digits of radix `r` with `_` separators between digits. -/
def digitRunFor (r : Nat) : Nat → List Nat → Bool → Scan (List Nat)
  | 0, acc, _ => pure acc.reverse
  | fuel + 1, acc, afterSep => do
    match ← peekAt 0 with
    | some '_' =>
      if acc.isEmpty || afterSep then throw "misplaced numeric separator"
      else do advance 1; digitRunFor r fuel acc true
    | some c =>
      match Text.hexValue? c with
      | some d =>
        if d < r then do advance 1; digitRunFor r fuel (d :: acc) false
        else if afterSep then throw "misplaced numeric separator" else pure acc.reverse
      | none => if afterSep then throw "misplaced numeric separator" else pure acc.reverse
    | none => if afterSep then throw "misplaced numeric separator" else pure acc.reverse

/-- Reads digits of radix `r`. -/
def digitRun (r : Nat) : Scan (List Nat) := do digitRunFor r ((← left) + 1) [] false

/-- The value of digits in radix `r`. -/
def digitValue (r : Nat) (ds : List Nat) : Nat := ds.foldl (fun acc d => acc * r + d) 0

/-- How many digits of radix `r` always fit 64 bits. -/
def wordDigits (r : Nat) : Nat := if r = 2 then 64 else if r = 8 then 21 else 16

/-- The double that digits of radix `r` stand for, written in `written` characters with their
separators. A text no longer than the digits that always fit 64 bits gives the nearest double;
a longer one, separators counted, is accumulated digit by digit in double arithmetic, each step
rounded, so its last digits may be rounded away more than once. -/
def radixValue (r written : Nat) (ds : List Nat) : Float :=
  if written ≤ wordDigits r then Number.ofNatNearest (digitValue r ds)
  else ds.foldl (fun acc d => acc * r.toFloat + d.toFloat) 0

/-- Reads decimal digits without separators. -/
def plainDigitsFor : Nat → List Nat → Scan (List Nat)
  | 0, acc => pure acc.reverse
  | fuel + 1, acc => do
    match ← peekAt 0 with
    | some c =>
      if isDecimalDigit c then do advance 1; plainDigitsFor fuel ((c.toNat - '0'.toNat) :: acc)
      else pure acc.reverse
    | none => pure acc.reverse

/-- Fails when a numeric literal runs straight into an identifier or a digit. -/
def numberEnd : Scan Unit := do
  match ← peekAt 0 with
  | some c =>
    if isIdentStart c || isDecimalDigit c || c = '\\' then throw "identifier directly after number"
    else pure ()
  | none => pure ()

/-- Reads an optional exponent part; gives its value. -/
def exponentPart : Scan (Option Int) := do
  match ← peekAt 0 with
  | some 'e' | some 'E' => do
    advance 1
    let neg ← do
      match ← peekAt 0 with
      | some '+' => do advance 1; pure false
      | some '-' => do advance 1; pure true
      | _ => pure false
    let ds ← digitRun 10
    if ds.isEmpty then throw "missing exponent"
    let v : Int := digitValue 10 ds
    pure (some (if neg then -v else v))
  | _ => pure none

/-- Reads a decimal literal: integer digits, then an optional fraction and exponent; a literal
with neither may be a big integer when `bigAllowed`. -/
def decimalLiteral (whole : List Nat) (bigAllowed : Bool) : Scan TokenKind := do
  let (frac, hadPoint) ← do
    if (← peekAt 0) == some '.' then do
      advance 1
      if (← peekAt 0) == some '_' then throw "misplaced numeric separator"
      pure (← digitRun 10, true)
    else pure ([], false)
  let e ← exponentPart
  if bigAllowed && !hadPoint && e.isNone && (← peekAt 0) == some 'n' then do
    advance 1
    numberEnd
    pure (.number (Number.ofNatNearest (digitValue 10 whole)) true)
  else do
    numberEnd
    let m := digitValue 10 (whole ++ frac)
    pure (.number (Number.ofDecimal false m (e.getD 0 - frac.length)) false)

/-- Reads a numeric literal starting at the index. -/
def numberLiteral : Scan TokenKind := do
  let c0 ← peekAt 0
  let c1 ← peekAt 1
  if c0 == some '.' then decimalLiteral [] true
  else if c0 == some '0' then
    let radix := match c1 with
      | some 'x' | some 'X' => 16
      | some 'o' | some 'O' => 8
      | some 'b' | some 'B' => 2
      | _ => 0
    if radix ≠ 0 then do
      advance 2
      let before ← left
      let ds ← digitRun radix
      let written := before - (← left)
      if ds.isEmpty then throw "missing digits"
      let big ← do
        if (← peekAt 0) == some 'n' then do advance 1; pure true else pure false
      numberEnd
      pure (.number (radixValue radix written ds) big)
    else if c1 == some '_' then throw "misplaced numeric separator"
    else if c1.any isDecimalDigit then do
      advance 1
      let ds ← plainDigitsFor ((← left) + 1) []
      if ds.all (· < 8) then do
        numberEnd
        pure (.number (radixValue 8 ds.length ds) false)
      else decimalLiteral (0 :: ds) false
    else do
      advance 1
      decimalLiteral [0] true
  else do
    let ds ← digitRun 10
    decimalLiteral ds true

/-- Reads an identifier body; the result tells whether an escape was used. -/
def identifierFor : Nat → Bool → List Char → Bool → Scan (String × Bool)
  | 0, _, acc, esc => pure (String.ofList acc.reverse, esc)
  | fuel + 1, first, acc, esc => do
    match ← peekAt 0 with
    | some '\\' =>
      if (← peekAt 1) == some 'u' then do
        advance 2
        match ← unicodeCode with
        | some n =>
          let ch := Char.ofNat n
          if (if first then isIdentStart ch else isIdentPart ch) then
            identifierFor fuel false (ch :: acc) true
          else throw "invalid identifier escape"
        | none => throw "invalid identifier escape"
      else if first then throw "invalid character" else pure (String.ofList acc.reverse, esc)
    | some c =>
      if (if first then isIdentStart c else isIdentPart c) then do
        advance 1
        identifierFor fuel false (c :: acc) esc
      else if first then throw "invalid character"
      else pure (String.ofList acc.reverse, esc)
    | none => if first then throw "invalid character" else pure (String.ofList acc.reverse, esc)

/-- Reads an identifier. -/
def identifier : Scan (String × Bool) := do identifierFor ((← left) + 1) true [] false

/-- Punctuators, longest first. -/
def punctuators : List String :=
  [">>>=", "...", "===", "!==", "**=", "<<=", ">>=", ">>>", "&&=", "||=", "??=",
   "=>", "==", "!=", "<=", ">=", "&&", "||", "??", "?.", "++", "--", "+=", "-=", "*=", "/=",
   "%=", "&=", "|=", "^=", "**", "<<", ">>",
   "\x7b", "\x7d", "(", ")", "[", "]", ";", ",", "<", ">", "+", "-", "*", "/", "%", "&", "|",
   "^", "!", "~", "?", ":", "=", ".", "@"]

/-- Whether the source continues with the given text at the index. -/
def lookingAt (p : String) : Scan Bool := do
  let cs ← read
  let i ← get
  pure ((p.toList.zipIdx.all fun (c, k) => cs[i + k]? == some c))

/-- Reads the longest punctuator at the index; `?.` only when no digit follows. -/
def punctuator : Scan String := do
  let rec go : List String → Scan String
    | [] => throw "invalid character"
    | p :: rest => do
      if ← lookingAt p then
        if p == "?." && (← peekAt 2).any isDecimalDigit then go rest
        else do advance p.length; pure p
      else go rest
  go punctuators

/-- Reads the token at the index, after trivia. -/
def token : Scan Token := do
  let nl ← skipTrivia
  let start ← get
  let kind ← do
    match ← peekAt 0 with
    | none => pure TokenKind.eof
    | some c =>
      if isIdentStart c || c = '\\' then do
        let (name, esc) ← identifier
        pure (.word name esc)
      else if isDecimalDigit c || (c = '.' && (← peekAt 1).any isDecimalDigit) then numberLiteral
      else if c = '"' || c = '\'' then do
        advance 1
        let ps ← stringBodyFor c ((← left) + 1) []
        pure (.string (piecesText ps) (ps.all fun p => p matches .char _))
      else if c = '`' then do
        advance 1
        let (cooked, tail) ← templateBodyFor ((← left) + 1) (some [])
        pure (.template cooked tail)
      else if c = '#' then do
        advance 1
        let (name, _) ← identifier
        pure (.privateName name)
      else pure (.punct (← punctuator))
  let stop ← get
  pure ⟨kind, start, stop, nl⟩

/-- Whether a character may be read as a regular expression flag: an ASCII letter, digit, `$`
or `_`. Anything else ends the flags. -/
def isFlagChar (c : Char) : Bool :=
  ('a' ≤ c && c ≤ 'z') || ('A' ≤ c && c ≤ 'Z') || isDecimalDigit c || c = '$' || c = '_'

/-- Reads the flags of a regular expression: distinct letters among `dgimsuyv`, not both `u`
and `v`. -/
def regexFlagsFor : Nat → List Char → Scan Unit
  | 0, _ => pure ()
  | fuel + 1, seen => do
    match ← peekAt 0 with
    | some c =>
      if isFlagChar c then
        if "dgimsuyv".toList.contains c && !seen.contains c then do
          advance 1
          regexFlagsFor fuel (c :: seen)
        else throw "invalid regular expression flag"
      else if seen.contains 'u' && seen.contains 'v' then throw "flags u and v together"
      else pure ()
    | none => if seen.contains 'u' && seen.contains 'v' then throw "flags u and v together" else pure ()

/-- Reads the body of a regular expression up to its closing slash. -/
def regexBodyFor : Nat → Bool → Scan Unit
  | 0, _ => throw "unterminated regular expression"
  | fuel + 1, inClass => do
    match ← peekAt 0 with
    | none => throw "unterminated regular expression"
    | some c =>
      if Text.isLineBreak c then throw "unterminated regular expression"
      else if c = '\\' then do
        advance 1
        match ← peekAt 0 with
        | some d => if Text.isLineBreak d then throw "unterminated regular expression"
                    else do advance 1; regexBodyFor fuel inClass
        | none => throw "unterminated regular expression"
      else if c = '[' then do advance 1; regexBodyFor fuel true
      else if c = ']' then do advance 1; regexBodyFor fuel false
      else if c = '/' && !inClass then advance 1
      else do advance 1; regexBodyFor fuel inClass

/-- Reads a regular expression literal whose slash is at the index. -/
def regex : Scan TokenKind := do
  advance 1
  regexBodyFor ((← left) + 1) false
  regexFlagsFor ((← left) + 1) []
  pure .regex

/-- Reads the rest of a template after the `}` that closes a substitution. -/
def templateRest : Scan TokenKind := do
  advance 1
  let (cooked, tail) ← templateBodyFor ((← left) + 1) (some [])
  pure (.template cooked tail)

end Scan

/-- Runs a scan at a character index; gives the result and the index after it. -/
def runScan {α : Type} (s : Scan α) (cs : Array Char) (i : Nat) : Except String (α × Nat) :=
  StateT.run (ReaderT.run s cs) i

/-- The token at a character index, after any trivia. -/
def tokenAt (cs : Array Char) (i : Nat) : Except String Token :=
  (runScan Scan.token cs i).map (·.1)

/-- Reads again, as a regular expression, a slash token. -/
def regexAt (cs : Array Char) (t : Token) : Except String Token :=
  (runScan Scan.regex cs t.start).map fun (k, stop) => ⟨k, t.start, stop, t.newlineBefore⟩

/-- Reads again, as the rest of a template, a `}` token. -/
def templateAt (cs : Array Char) (t : Token) : Except String Token :=
  (runScan Scan.templateRest cs t.start).map fun (k, stop) => ⟨k, t.start, stop, t.newlineBefore⟩

end Reactive.Script
