/-!
Tokens of script source text. A token records its kind, where it starts and stops (as character
indices) and whether a line break stands between it and the token before, which decides
automatic semicolons and several restricted productions.
-/

namespace Reactive.Script

/-- What a token is. -/
inductive TokenKind where
  /-- an identifier or reserved word; `escaped` when written with a `\u` escape -/
  | word (name : String) (escaped : Bool)
  /-- a private name `#x` -/
  | privateName (name : String)
  /-- a numeric literal; `big` for a big-integer literal such as `1n` -/
  | number (value : Float) (big : Bool)
  /-- a string literal, by its value; `wellFormed` when it holds no lone surrogate -/
  | string (value : String) (wellFormed : Bool)
  /-- a piece of a template literal: its value (none when an escape is malformed) and whether
  it ends the literal -/
  | template (cooked : Option String) (tail : Bool)
  /-- a regular expression literal -/
  | regex
  /-- a punctuator such as `=>` or `?.` -/
  | punct (text : String)
  /-- the end of the source -/
  | eof
  deriving Inhabited

/-- A token with its extent and the line break before it. -/
structure Token where
  kind : TokenKind
  start : Nat
  stop : Nat
  newlineBefore : Bool
  deriving Inhabited

namespace Token

/-- Whether the token is the punctuator `p`. -/
def isPunct (t : Token) (p : String) : Bool :=
  match t.kind with
  | .punct q => q == p
  | _ => false

/-- Whether the token is the word `w` written without escapes. -/
def isWord (t : Token) (w : String) : Bool :=
  match t.kind with
  | .word name escaped => name == w && !escaped
  | _ => false

/-- The word of a word token. -/
def word? (t : Token) : Option String :=
  match t.kind with
  | .word name _ => some name
  | _ => none

/-- Whether the token ends the source. -/
def isEof (t : Token) : Bool :=
  match t.kind with
  | .eof => true
  | _ => false

end Token

/-- Words that never name a variable. -/
def reservedWords : List String :=
  ["break", "case", "catch", "class", "const", "continue", "debugger", "default", "delete", "do",
   "else", "enum", "export", "extends", "false", "finally", "for", "function", "if", "import",
   "in", "instanceof", "new", "null", "return", "super", "switch", "this", "throw", "true",
   "try", "typeof", "var", "void", "while", "with"]

/-- Whether a word is reserved. -/
def isReservedWord (w : String) : Bool := reservedWords.contains w

end Reactive.Script
