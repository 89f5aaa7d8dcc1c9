import Reactive.Script.Lexer
import Reactive.Script.Source

/-!
The script parser: module-goal ECMAScript, read by recursive descent with one token of
lookahead and, where arrow functions must be told from parenthesized expressions, a few tokens
more and a retry. It accepts and refuses what the language accepts and refuses, and builds the
source tree of `Source`. Binary operators are read by precedence climbing; `??` may not be mixed
with `&&` or `||` without parentheses, and a prefix operator may not stand directly to the left
of `**`.

Two entry points: `parseExpressionText` reads one expression at the start of a text and leaves
whatever follows it (the token right after it must still be well formed), and `parseModuleText`
reads a whole text as a list of statements.

Every function takes a fuel argument, a bound on the depth of the descent; the entry points give
enough fuel for any text of their length.
-/

namespace Reactive.Script

/-- Grammatical context of the text being read. -/
structure ParseCtx where
  /-- whether `in` is an operator here (not in the head of a `for`) -/
  allowIn : Bool := true
  /-- whether `return` may appear -/
  inFunction : Bool := false
  /-- whether `yield` is an operator -/
  inGenerator : Bool := false
  /-- whether `await` is an operator -/
  inAsync : Bool := true
  /-- whether this is a class static block, where `await` is no name either -/
  inStaticBlock : Bool := false
  /-- whether `import` and `export` declarations may appear -/
  topLevel : Bool := false
  deriving Inhabited

/-- The context inside a function body. -/
def ParseCtx.functionBody (c : ParseCtx) (gen isAsync : Bool) : ParseCtx :=
  { c with
    inFunction := true, inGenerator := gen, inAsync := isAsync, inStaticBlock := false,
    topLevel := false, allowIn := true }

/-- The context inside a class static block. -/
def ParseCtx.staticBlock (c : ParseCtx) : ParseCtx :=
  { c with
    inFunction := false, inGenerator := false, inAsync := false, inStaticBlock := true,
    topLevel := false }

/-- What a parse reads from: the source characters and the context. -/
structure ParseEnv where
  src : Array Char
  ctx : ParseCtx

/-- The current token and the end of the one before it. -/
structure ParseState where
  tok : Token
  prevEnd : Nat
  /-- the names the module exports so far -/
  exported : List String := []
  deriving Inhabited

/-- The parsing monad. -/
abbrev Parse := ReaderT ParseEnv (StateT ParseState (Except String))

/-- Left brace. -/
def lbrace : String := "\x7b"
/-- Right brace. -/
def rbrace : String := "\x7d"

/-- How likely a parenthesis starts an arrow function. -/
inductive ArrowGuess where
  | yes | no | maybe
  deriving Inhabited, BEq

mutual
/-- Whether an expression still holds a shorthand default that no destructuring took. -/
def SrcExpr.hasCoverInit : SrcExpr → Bool
  | .object entries flag => flag || coverInitList entries
  | .array items _ => coverInitList items
  | .prop v => v.hasCoverInit
  | .spread v => v.hasCoverInit
  | .paren e => e.hasCoverInit
  | .seq items => coverInitList items
  | .unary _ a => a.hasCoverInit
  | .await a => a.hasCoverInit
  | .binary _ l r => l.hasCoverInit || r.hasCoverInit
  | .logical _ l r => l.hasCoverInit || r.hasCoverInit
  | .cond t c a => t.hasCoverInit || c.hasCoverInit || a.hasCoverInit
  | .call f args => f.hasCoverInit || coverInitList args
  | .member o _ => o.hasCoverInit
  | .index o i => o.hasCoverInit || i.hasCoverInit
  | .template _ es => coverInitList es
  | _ => false

/-- Whether any expression of a list holds a shorthand default. -/
def coverInitList : List SrcExpr → Bool
  | [] => false
  | e :: rest => e.hasCoverInit || coverInitList rest
end

namespace Parse

/-- Message for a descent deeper than the fuel allows. -/
def tooDeep : String := "expression nested too deeply"

/-- The current token. -/
def cur : Parse Token := do pure (← get).tok

/-- The context. -/
def ctx : Parse ParseCtx := do pure (← read).ctx

/-- Runs a step in a changed context. -/
def withCtx {α : Type} (f : ParseCtx → ParseCtx) (x : Parse α) : Parse α :=
  withReader (fun e => { e with ctx := f e.ctx }) x

/-- Turns a scanning result into a parse step. -/
def ofScan {α : Type} : Except String α → Parse α
  | .ok a => pure a
  | .error e => throw e

/-- Moves to the next token. -/
def advance : Parse Unit := do
  let t ← cur
  let env ← read
  let next ← ofScan (tokenAt env.src t.stop)
  set ({ (← get) with tok := next, prevEnd := t.stop } : ParseState)

/-- Moves `k` tokens ahead. -/
def advanceN : Nat → Parse Unit
  | 0 => pure ()
  | k + 1 => do advance; advanceN k

/-- The token `k` places ahead, if it reads; the position does not change. -/
def peekAhead (k : Nat) : Parse (Option Token) := do
  let s ← get
  let r ← tryCatch (do advanceN k; pure (some (← cur))) (fun _ => pure none)
  set s
  pure r

/-- Whether the current token is the punctuator `p`. -/
def atP (p : String) : Parse Bool := do pure ((← cur).isPunct p)

/-- Whether the current token is the unescaped word `w`. -/
def atW (w : String) : Parse Bool := do pure ((← cur).isWord w)

/-- Takes the punctuator `p` if it is next. -/
def eat (p : String) : Parse Bool := do
  if ← atP p then do advance; pure true else pure false

/-- Takes the word `w` if it is next. -/
def eatW (w : String) : Parse Bool := do
  if ← atW w then do advance; pure true else pure false

/-- Takes the punctuator `p`, which must be next. -/
def expect (p : String) : Parse Unit := do
  if ← atP p then advance else throw ("expected " ++ p)

/-- Takes the word `w`, which must be next. -/
def expectW (w : String) : Parse Unit := do
  if ← atW w then advance else throw ("expected " ++ w)

/-- Ends a statement: a semicolon, or a line break, a closing brace or the end before the next
token. -/
def semicolon : Parse Unit := do
  let t ← cur
  if t.isPunct ";" then advance
  else if t.isPunct rbrace || t.isEof || t.newlineBefore then pure ()
  else throw "expected ;"

/-- The name a token gives as a binding or reference, if it may be one here. -/
def nameOf (t : Token) (c : ParseCtx) : Option String :=
  match t.kind with
  | .word w _ =>
    if isReservedWord w then none
    else if (w == "yield" && c.inGenerator) || (w == "await" && (c.inAsync || c.inStaticBlock)) then
      none
    else some w
  | _ => none

/-- Whether a token is a word that is not reserved. -/
def isPlainWord (t : Token) : Bool :=
  match t.kind with
  | .word w _ => !isReservedWord w
  | _ => false

/-- Whether a token can start the name of a class member: a word, a string, a number, a private
name or a bracket. -/
def startsMemberName (t : Token) : Bool :=
  match t.kind with
  | .word _ _ | .string _ _ | .number _ _ | .privateName _ => true
  | .punct p => p == "["
  | _ => false

/-- Words that a module may not export as local names: the reserved words, with `await`,
`yield` and the words reserved for the future. -/
def unexportableWords : List String :=
  ["await", "yield", "implements", "interface", "package", "private", "protected", "public",
   "static"]

/-- Whether a token is a literal. -/
def isLiteral (t : Token) : Bool :=
  match t.kind with
  | .number _ _ | .string _ _ | .template _ _ | .regex => true
  | .word w false => w == "true" || w == "false" || w == "null"
  | _ => false

/-- Whether a token can start an expression (used after `yield`). -/
def startsExpression (t : Token) : Bool :=
  match t.kind with
  | .eof => false
  | .punct p => !(p == ")" || p == "]" || p == rbrace || p == "," || p == ";" || p == ":" ||
      p == "=>" || p == "?" || p == "=")
  | .word w false => !(w == "in" || w == "of" || w == "instanceof")
  | _ => true

/-- The precedence of a binary operator token: `??` lowest, `**` highest. -/
def binaryPrec (t : Token) (allowIn : Bool) : Option Nat :=
  match t.kind with
  | .punct p =>
    if p == "??" then some 1
    else if p == "||" then some 2
    else if p == "&&" then some 3
    else if p == "|" then some 4
    else if p == "^" then some 5
    else if p == "&" then some 6
    else if p == "==" || p == "!=" || p == "===" || p == "!==" then some 7
    else if p == "<" || p == ">" || p == "<=" || p == ">=" then some 8
    else if p == "<<" || p == ">>" || p == ">>>" then some 9
    else if p == "+" || p == "-" then some 10
    else if p == "*" || p == "/" || p == "%" then some 11
    else if p == "**" then some 12
    else none
  | .word "instanceof" false => some 8
  | .word "in" false => if allowIn then some 8 else none
  | _ => none

/-- The text of an operator token. -/
def opText (t : Token) : String :=
  match t.kind with
  | .punct p => p
  | .word w _ => w
  | _ => ""

/-- Assignment operators. -/
def assignOps : List String :=
  ["=", "+=", "-=", "*=", "/=", "%=", "**=", "<<=", ">>=", ">>>=", "&=", "|=", "^=",
   "&&=", "||=", "??="]

/-- The assignment operator a token is, if any. -/
def assignOp? (t : Token) : Option String :=
  match t.kind with
  | .punct p => if assignOps.contains p then some p else none
  | _ => none

/-- Prefix operators. -/
def prefixOps : List String := ["+", "-", "!", "~"]

/-- The prefix operator a token is, if any. -/
def prefixOp? (t : Token) : Option String :=
  match t.kind with
  | .punct p => if prefixOps.contains p then some p else none
  | .word w false => if w == "typeof" || w == "void" || w == "delete" then some w else none
  | _ => none

/-- An expression with all its enclosing parentheses taken off. -/
def unparen : SrcExpr → SrcExpr
  | .paren e => unparen e
  | e => e

/-- The simple target an expression names, looking through any parentheses: a name or a
property. -/
def simpleTarget? (e : SrcExpr) : Option SrcExpr :=
  match unparen e with
  | .ident n => some (.ident n)
  | .member o p => some (.member o p)
  | .index o i => some (.index o i)
  | .privateMember o => some (.privateMember o)
  | _ => none

/-- A target of an increment or compound assignment: a name or a property, in parentheses or
not. -/
def simpleTarget (e : SrcExpr) : Parse SrcExpr :=
  match simpleTarget? e with
  | some t => pure t
  | none => throw "invalid assignment target"


mutual
/-- Reads an expression as a destructuring target: names, properties, and array and object
literals whose parts are targets. -/
def patternTarget : SrcExpr → Except String SrcExpr
  | .array items trailing => do
    let _ ← arrayTargets items trailing
    pure .other
  | .object entries _ => do
    let _ ← objectTargets entries
    pure .other
  | .assign "=" t v => pure (.assign "=" t v)
  | e => match simpleTarget? e with
    | some t => pure t
    | none => throw "invalid destructuring target"

/-- Checks the elements of an array destructuring target. -/
def arrayTargets : List SrcExpr → Bool → Except String Unit
  | [], _ => pure ()
  | [.spread v], trailing =>
    if trailing then throw "rest element with trailing comma"
    else match v with
      | .assign _ _ _ => throw "rest element with default"
      | _ => do let _ ← patternTarget v; pure ()
  | .spread _ :: _ :: _, _ => throw "rest element must be last"
  | .hole :: rest, trailing => arrayTargets rest trailing
  | e :: rest, trailing => do
    let _ ← patternTarget e
    arrayTargets rest trailing

/-- Checks the entries of an object destructuring target. -/
def objectTargets : List SrcExpr → Except String Unit
  | [] => pure ()
  | [.spread v] => match simpleTarget? v with
    | some _ => pure ()
    | none => throw "invalid rest property"
  | .spread _ :: _ :: _ => throw "rest property must be last"
  | .prop v :: rest => do
    let _ ← patternTarget v
    objectTargets rest
  | .shorthand _ _ :: rest => objectTargets rest
  | _ :: _ => throw "invalid destructuring target"
end

/-- The target of an assignment with operator `op`: destructuring only for plain `=`. -/
def assignTarget (op : String) (lhs : SrcExpr) : Parse SrcExpr :=
  if op == "=" then
    match lhs with
    | .array _ _ | .object _ _ =>
      match patternTarget lhs with
      | .ok _ => pure .other
      | .error e => throw e
    | _ => simpleTarget lhs
  else simpleTarget lhs

/-- Combines two operands with a binary or short-circuit operator, refusing `??` mixed with
`&&` or `||`, and a prefix operation directly left of `**`. -/
def combine (op : String) (l r : SrcExpr) : Parse SrcExpr := do
  let isAndOr : SrcExpr → Bool := fun
    | .logical o _ _ => o == "&&" || o == "||"
    | _ => false
  let isCoalesce : SrcExpr → Bool := fun
    | .logical o _ _ => o == "??"
    | _ => false
  if op == "??" then
    if isAndOr l || isAndOr r then throw "?? mixed with && or ||"
    else pure (.logical op l r)
  else if op == "&&" || op == "||" then
    if isCoalesce l || isCoalesce r then throw "?? mixed with && or ||"
    else pure (.logical op l r)
  else if op == "**" then
    match l with
    | .unary _ _ | .await _ => throw "prefix operation left of **"
    | _ => pure (.binary op l r)
  else pure (.binary op l r)

/-- Guesses whether the current `(` (or `async (`) starts an arrow function. -/
def arrowGuess : Parse ArrowGuess := do
  let t0 ← cur
  let (offset, ok) ← do
    if t0.isWord "async" then
      match ← peekAhead 1 with
      | some t1 => pure (1, !t1.newlineBefore && t1.isPunct "(")
      | none => pure (1, false)
    else pure (0, t0.isPunct "(")
  if !ok then return .no
  let some second ← peekAhead (offset + 1) | return .no
  if second.isPunct ")" then
    let some third ← peekAhead (offset + 2) | return .no
    return (if third.isPunct "=>" || third.isPunct lbrace then .yes else .no)
  if second.isPunct "[" || second.isPunct lbrace then return .maybe
  if second.isPunct "..." then
    let some third ← peekAhead (offset + 2) | return .no
    return (if isPlainWord third then .yes else if isLiteral third then .no else .maybe)
  if !isPlainWord second && !second.isWord "this" then return .no
  let some third ← peekAhead (offset + 2) | return .no
  if third.isPunct ":" then return .yes
  if third.isPunct "?" then
    let some fourth ← peekAhead (offset + 3) | return .no
    return (if fourth.isPunct ":" || fourth.isPunct "," || fourth.isPunct "=" || fourth.isPunct ")"
      then .yes else .no)
  if third.isPunct "," || third.isPunct "=" || third.isPunct ")" then return .maybe
  return .no

/-- How many parameters an accessor introduced by a token takes: none after `get`, one after
`set`; other methods have no fixed count. -/
def accessorArity (t : Token) : Option Nat :=
  if t.isWord "get" then some 0 else if t.isWord "set" then some 1 else none

/-- Whether a token starts a declaration that may not stand where a single statement is
expected, given the token after it: a lexical declaration, a class, or a generator or async
function. A `let` counts only before `[`; elsewhere it is read as a name. -/
def declarationStart (t : Token) (next : Option Token) : Bool :=
  t.isWord "const" || t.isWord "class" || t.isPunct "@" ||
    (t.isWord "let" && next.any (·.isPunct "[")) ||
    (t.isWord "function" && next.any (·.isPunct "*")) ||
    (t.isWord "async" && next.any (fun n => n.isWord "function" && !n.newlineBefore))

mutual

/-- Expression: assignment expressions separated by commas. -/
def expression : Nat → Parse SrcExpr
  | 0 => throw tooDeep
  | fuel + 1 => do
    let first ← assignment fuel true
    if ← atP "," then
      let rest ← sequenceRest fuel []
      pure (.seq (first :: rest))
    else pure first

/-- The items of a comma sequence after the first. -/
def sequenceRest : Nat → List SrcExpr → Parse (List SrcExpr)
  | 0, _ => throw tooDeep
  | fuel + 1, acc => do
    if ← eat "," then
      let e ← assignment fuel true
      sequenceRest fuel (e :: acc)
    else pure acc.reverse

/-- Assignment expression: `yield`, arrow functions, assignments and conditionals. With
`checkCover`, a shorthand default `{a = 1}` left in the result is an error; array and object
literal elements are read without that check, since the literal may still become a target. -/
def assignment : Nat → Bool → Parse SrcExpr
  | 0, _ => throw tooDeep
  | fuel + 1, checkCover => do
    let c ← ctx
    let t ← cur
    if t.isWord "yield" then
      if c.inGenerator then return ← yieldExpr fuel
      match ← peekAhead 1 with
      | some t1 =>
        if !t1.newlineBefore && (isLiteral t1 || (match t1.kind with | .word _ _ => true | _ => false)) then
          throw "yield outside a generator"
      | none => pure ()
    match ← arrowFunction fuel with
    | some e => return e
    | none => pure ()
    let lhs ← binary fuel 0
    let t ← cur
    match lhs with
    | .ident _ =>
      if t.isPunct "=>" then return ← arrowBody fuel false [lhs]
    | _ => pure ()
    match assignOp? t with
    | some op =>
      let target ← assignTarget op lhs
      advance
      let rhs ← assignment fuel true
      pure (.assign op target rhs)
    | none =>
      let e ← conditionalRest fuel lhs
      if checkCover && e.hasCoverInit then throw "shorthand default outside a destructuring target"
      pure e

/-- A `yield` expression inside a generator. -/
def yieldExpr : Nat → Parse SrcExpr
  | 0 => throw tooDeep
  | fuel + 1 => do
    advance
    let t ← cur
    if t.newlineBefore || !startsExpression t then pure .other
    else do
      let _ ← eat "*"
      let _ ← assignment fuel true
      pure .other

/-- Tries to read an arrow function with parenthesized parameters, or `async x => …`. -/
def arrowFunction : Nat → Parse (Option SrcExpr)
  | 0 => throw tooDeep
  | fuel + 1 => do
    match ← arrowGuess with
    | .yes =>
      let (isAsync, params) ← arrowHead fuel
      return some (← arrowBody fuel isAsync params)
    | .maybe =>
      let saved ← get
      let head ← tryCatch (do pure (some (← arrowHead fuel))) (fun _ => pure none)
      match head with
      | some (isAsync, params) =>
        if ← atP "=>" then return some (← arrowBody fuel isAsync params)
        set saved
      | none => set saved
    | .no => pure ()
    asyncArrow fuel

/-- Reads `async x => …` when the tokens say so. -/
def asyncArrow : Nat → Parse (Option SrcExpr)
  | 0 => throw tooDeep
  | fuel + 1 => do
    let t ← cur
    if !t.isWord "async" then return none
    let some t1 ← peekAhead 1 | return none
    let some t2 ← peekAhead 2 | return none
    if t1.newlineBefore || t1.isPunct "=>" then return none
    match nameOf t1 (← ctx) with
    | some n =>
      if !t2.newlineBefore && t2.isPunct "=>" then
        advanceN 2
        return some (← arrowBody fuel true [.ident n])
      else return none
    | none => return none

/-- The head of a parenthesized arrow function: `async`, then the parameters. -/
def arrowHead : Nat → Parse (Bool × List SrcExpr)
  | 0 => throw tooDeep
  | fuel + 1 => do
    let isAsync ← eatW "async"
    expect "("
    let (params, _) ← withCtx (fun c => { c with inAsync := isAsync || c.inAsync })
      (formalParams fuel [])
    pure (isAsync, params)

/-- The body of an arrow function, from its `=>`. -/
def arrowBody : Nat → Bool → List SrcExpr → Parse SrcExpr
  | 0, _, _ => throw tooDeep
  | fuel + 1, isAsync, params => do
    let t ← cur
    if !t.isPunct "=>" then throw "expected =>"
    if t.newlineBefore then throw "line break before =>"
    advance
    if ← atP lbrace then
      let body ← withCtx (·.functionBody false isAsync) (functionBody fuel)
      pure (.arrow params false body)
    else
      let inner := fun (c : ParseCtx) =>
        { c with inAsync := isAsync, inGenerator := false, inStaticBlock := false }
      let e ← withCtx inner (assignment fuel true)
      pure (.arrow params true [.expr e])

/-- Formal parameters after the opening parenthesis, through the closing one. Names give
`ident`, destructuring gives a mark; a rest parameter is read but not listed, and the flag tells
whether there was one. -/
def formalParams : Nat → List SrcExpr → Parse (List SrcExpr × Bool)
  | 0, _ => throw tooDeep
  | fuel + 1, acc => do
    if ← eat ")" then return (acc.reverse, false)
    if ← eat "..." then
      let _ ← bindingTarget fuel
      expect ")"
      return (acc.reverse, true)
    let p ← bindingTarget fuel
    if ← eat "=" then
      let _ ← withCtx (fun c => { c with allowIn := true }) (assignment fuel true)
    if ← eat "," then formalParams fuel (p :: acc)
    else
      expect ")"
      pure ((p :: acc).reverse, false)

/-- A binding: a name, or an array or object destructuring pattern (a mark). -/
def bindingTarget : Nat → Parse SrcExpr
  | 0 => throw tooDeep
  | fuel + 1 => do pure (← bindingNames fuel).1

/-- A binding with the names it binds, in order: a name, or an array or object destructuring
pattern (a mark). -/
def bindingNames : Nat → Parse (SrcExpr × List String)
  | 0 => throw tooDeep
  | fuel + 1 => do
    let t ← cur
    if t.isPunct "[" then
      advance
      pure (.other, ← arrayPattern fuel [])
    else if t.isPunct lbrace then
      advance
      pure (.other, ← objectPattern fuel [])
    else match nameOf t (← ctx) with
      | some n => do advance; pure (.ident n, [n])
      | none => throw "expected a binding name"

/-- An array destructuring pattern after its bracket, through the closing one, adding the
names it binds to `names`. -/
def arrayPattern : Nat → List String → Parse (List String)
  | 0, _ => throw tooDeep
  | fuel + 1, names => do
    if ← eat "]" then return names
    if ← eat "," then return ← arrayPattern fuel names
    if ← eat "..." then
      let (_, more) ← bindingNames fuel
      expect "]"
      return names ++ more
    let (_, more) ← bindingNames fuel
    if ← eat "=" then
      let _ ← withCtx (fun c => { c with allowIn := true }) (assignment fuel true)
    if ← eat "," then arrayPattern fuel (names ++ more)
    else
      expect "]"
      pure (names ++ more)

/-- An object destructuring pattern after its brace, through the closing one, adding the
names it binds to `names`. -/
def objectPattern : Nat → List String → Parse (List String)
  | 0, _ => throw tooDeep
  | fuel + 1, names => do
    if ← eat rbrace then return names
    if ← eat "..." then
      let rest ← match nameOf (← cur) (← ctx) with
        | some n => do advance; pure n
        | none => throw "expected a name"
      let _ ← eat ","
      expect rbrace
      return names ++ [rest]
    let keyTok ← cur
    let simple ← propertyKey fuel false
    let more ← if ← eat ":" then do pure (← bindingNames fuel).2
    else
      match simple with
      | some _ =>
        match nameOf keyTok (← ctx) with
        | some n => pure [n]
        | none => throw "invalid shorthand binding"
      | none => throw "expected :"
    if ← eat "=" then
      let _ ← withCtx (fun c => { c with allowIn := true }) (assignment fuel true)
    if ← eat "," then objectPattern fuel (names ++ more)
    else
      expect rbrace
      pure (names ++ more)

/-- A property key, given back by name when it has one: a word, a string, or a private name
written with its `#` (only inside a class body); a number or a computed key has none. -/
def propertyKey : Nat → Bool → Parse (Option String)
  | 0, _ => throw tooDeep
  | fuel + 1, allowPrivate => do
    let t ← cur
    match t.kind with
    | .word w _ => do advance; pure (some w)
    | .string v _ => do advance; pure (some v)
    | .number _ _ => do advance; pure none
    | .privateName n => if allowPrivate then do advance; pure (some ("#" ++ n)) else throw "private name"
    | .punct "[" => do
      advance
      let _ ← withCtx (fun c => { c with allowIn := true }) (assignment fuel true)
      expect "]"
      pure none
    | _ => throw "expected a property key"

/-- The rest of a conditional expression after its test. -/
def conditionalRest : Nat → SrcExpr → Parse SrcExpr
  | 0, _ => throw tooDeep
  | fuel + 1, test => do
    if ← eat "?" then
      let c ← withCtx (fun c => { c with allowIn := true }) (assignment fuel true)
      expect ":"
      let a ← assignment fuel true
      pure (.cond test c a)
    else pure test

/-- Binary expression whose operators bind tighter than `minPrec`. -/
def binary : Nat → Nat → Parse SrcExpr
  | 0, _ => throw tooDeep
  | fuel + 1, minPrec => do
    let t ← cur
    let lhs ← match t.kind with
      | .privateName _ => do
        if !(← ctx).allowIn then throw "unexpected private name"
        advance
        expectW "in"
        let _ ← unary fuel
        pure SrcExpr.other
      | _ => unary fuel
    binaryRest fuel lhs minPrec

/-- Continues a binary expression with operators binding tighter than `minPrec`. -/
def binaryRest : Nat → SrcExpr → Nat → Parse SrcExpr
  | 0, _, _ => throw tooDeep
  | fuel + 1, left, minPrec => do
    let t ← cur
    match binaryPrec t (← ctx).allowIn with
    | none => pure left
    | some prec =>
      let stop := if prec == 12 then prec < minPrec else prec ≤ minPrec
      if stop then pure left
      else
        advance
        let right ← binary fuel prec
        let node ← combine (opText t) left right
        binaryRest fuel node minPrec

/-- Prefix operations: increments, `delete void typeof + - ~ !`, and `await`. -/
def unary : Nat → Parse SrcExpr
  | 0 => throw tooDeep
  | fuel + 1 => do
    let t ← cur
    if t.isPunct "++" || t.isPunct "--" then
      advance
      let arg ← unary fuel
      let target ← simpleTarget arg
      pure (.update (opText t) target)
    else match prefixOp? t with
      | some op => do
        advance
        let arg ← unary fuel
        pure (.unary op arg)
      | none =>
        if t.isWord "await" && (← ctx).inAsync then do
          advance
          let arg ← unary fuel
          pure (.await arg)
        else suffixed fuel

/-- A left-hand-side expression with an optional suffixed increment on the same line. -/
def suffixed : Nat → Parse SrcExpr
  | 0 => throw tooDeep
  | fuel + 1 => do
    let e ← lhsExpr fuel
    let t ← cur
    if (t.isPunct "++" || t.isPunct "--") && !t.newlineBefore then
      let target ← simpleTarget e
      advance
      pure (.update (opText t) target)
    else pure e

/-- Member accesses and calls on a primary expression, `new`, `super` or `import`. -/
def lhsExpr : Nat → Parse SrcExpr
  | 0 => throw tooDeep
  | fuel + 1 => do
    let t ← cur
    let base ←
      if t.isWord "new" then newExpr fuel
      else if t.isWord "super" then do
        advance
        let n ← cur
        if n.isPunct "(" || n.isPunct "." || n.isPunct "[" then pure SrcExpr.other
        else throw "unexpected super"
      else if t.isWord "import" then importCall fuel
      else primary fuel
    chain fuel base false

/-- `import.meta`, or `import(…)` with a phase `source` or `defer` after a dot or none. -/
def importCall : Nat → Parse SrcExpr
  | 0 => throw tooDeep
  | fuel + 1 => do
    advance
    if ← eat "." then
      if ← eatW "meta" then return .other
      if !((← eatW "source") || (← eatW "defer")) then throw "unknown import property"
    else if !(← atP "(") then throw "unexpected import"
    expect "("
    importArguments fuel
    pure .other

/-- The arguments of a dynamic import after its parenthesis: a specifier and optional options,
with an optional trailing comma. -/
def importArguments : Nat → Parse Unit
  | 0 => throw tooDeep
  | fuel + 1 => do
    if ← atP ")" then throw "import needs a specifier"
    let _ ← withCtx (fun c => { c with allowIn := true }) (assignment fuel true)
    if ← eat "," then
      if !(← atP ")") then
        let _ ← withCtx (fun c => { c with allowIn := true }) (assignment fuel true)
        let _ ← eat ","
    expect ")"

/-- The accesses and calls following an expression. Once an optional chain `?.` has appeared
the whole chain is kept only as a mark. -/
def chain : Nat → SrcExpr → Bool → Parse SrcExpr
  | 0, _, _ => throw tooDeep
  | fuel + 1, e, optional => do
    let t ← cur
    if t.isPunct "." then
      advance
      let n ← cur
      match n.kind with
      | .word w _ => do advance; chain fuel (.member e w) optional
      | .privateName _ => do advance; chain fuel (.privateMember e) optional
      | _ => throw "expected a property name"
    else if t.isPunct "?." then
      advance
      let n ← cur
      match n.kind with
      | .word _ _ => do advance; chain fuel .other true
      | .privateName _ => do advance; chain fuel .other true
      | .punct "(" => do advance; let _ ← arguments fuel []; chain fuel .other true
      | .punct "[" => do
        advance
        let _ ← withCtx (fun c => { c with allowIn := true }) (expression fuel)
        expect "]"
        chain fuel .other true
      | _ => throw "unexpected token after ?."
    else if t.isPunct "[" then
      advance
      let i ← withCtx (fun c => { c with allowIn := true }) (expression fuel)
      expect "]"
      chain fuel (.index e i) optional
    else if t.isPunct "(" then
      advance
      let args ← arguments fuel []
      chain fuel (.call e args) optional
    else match t.kind with
      | .template _ _ =>
        if optional then throw "tagged template in an optional chain"
        else do
          let _ ← templateLiteral fuel true
          chain fuel .other optional
      | _ => pure (if optional then .other else e)

/-- Accesses after the callee of `new`, without calls. -/
def newCallee : Nat → SrcExpr → Parse SrcExpr
  | 0, _ => throw tooDeep
  | fuel + 1, e => do
    let t ← cur
    if t.isPunct "." then
      advance
      match (← cur).kind with
      | .word _ _ | .privateName _ => do advance; newCallee fuel .other
      | _ => throw "expected a property name"
    else if t.isPunct "[" then
      advance
      let _ ← withCtx (fun c => { c with allowIn := true }) (expression fuel)
      expect "]"
      newCallee fuel .other
    else if t.isPunct "?." then throw "optional chain in new"
    else match t.kind with
      | .template _ _ => do
        let _ ← templateLiteral fuel true
        newCallee fuel .other
      | _ => pure e

/-- `new.target`, or `new` with its callee and optional arguments. -/
def newExpr : Nat → Parse SrcExpr
  | 0 => throw tooDeep
  | fuel + 1 => do
    advance
    if ← eat "." then
      expectW "target"
      return .other
    let t ← cur
    let callee ←
      if t.isWord "new" then newExpr fuel
      else if t.isWord "super" then throw "unexpected super"
      else if t.isWord "import" then throw "unexpected import"
      else primary fuel
    let _ ← newCallee fuel callee
    if ← eat "(" then
      let _ ← arguments fuel []
    pure .other

/-- Call arguments after the opening parenthesis, through the closing one; spreads kept. -/
def arguments : Nat → List SrcExpr → Parse (List SrcExpr)
  | 0, _ => throw tooDeep
  | fuel + 1, acc => do
    if ← eat ")" then return acc.reverse
    let arg ← withCtx (fun c => { c with allowIn := true }) do
      if ← eat "..." then pure (SrcExpr.spread (← assignment fuel true))
      else assignment fuel true
    if ← eat "," then arguments fuel (arg :: acc)
    else
      expect ")"
      pure (arg :: acc).reverse

/-- Decorators from the first `@`: each a primary expression followed by member accesses and
calls. A bracket ends a decorator, since it may begin the computed name of what is decorated. -/
def decorators : Nat → Parse Unit
  | 0 => throw tooDeep
  | fuel + 1 => do
    if ← eat "@" then
      let _ ← primary fuel
      decoratorChain fuel
      decorators fuel

/-- The member accesses and calls of a decorator. -/
def decoratorChain : Nat → Parse Unit
  | 0 => throw tooDeep
  | fuel + 1 => do
    if ← eat "." then
      match (← cur).kind with
      | .word _ _ | .privateName _ => do advance; decoratorChain fuel
      | _ => throw "expected a property name"
    else if ← eat "(" then
      let _ ← arguments fuel []
      decoratorChain fuel

/-- Primary expressions: names, literals, parentheses, array and object literals, templates,
functions, classes (decorated or not) and regular expressions. -/
def primary : Nat → Parse SrcExpr
  | 0 => throw tooDeep
  | fuel + 1 => do
    let t ← cur
    let c ← ctx
    match t.kind with
    | .word w escaped =>
      if !escaped && w == "function" then functionExpr fuel false
      else if !escaped && w == "class" then classExpr fuel false
      else if !escaped && w == "this" then do advance; pure .other
      else if !escaped && w == "null" then do advance; pure .null
      else if !escaped && w == "true" then do advance; pure (.bool true)
      else if !escaped && w == "false" then do advance; pure (.bool false)
      else if !escaped && w == "async" then
        match ← peekAhead 1 with
        | some n =>
          if n.isWord "function" && !n.newlineBefore then do advance; functionExpr fuel true
          else do advance; pure (.ident w)
        | none => do advance; pure (.ident w)
      else match nameOf t c with
        | some n => do advance; pure (.ident n)
        | none => throw ("unexpected word " ++ w)
    | .number v big => do advance; pure (if big then .other else .num v)
    | .string s _ => do advance; pure (.str s)
    | .template _ _ => templateLiteral fuel false
    | .regex => do advance; pure .other
    | .punct p =>
      if p == "/" || p == "/=" then do
        let env ← read
        let r ← ofScan (regexAt env.src t)
        set ({ (← get) with tok := r } : ParseState)
        advance
        pure .other
      else if p == "(" then do
        advance
        let e ← withCtx (fun c => { c with allowIn := true }) (expression fuel)
        expect ")"
        pure (.paren e)
      else if p == "[" then do
        advance
        arrayLiteral fuel [] false
      else if p == lbrace then do
        advance
        objectLiteral fuel [] false
      else if p == "@" then do
        decorators fuel
        if !(← atW "class") then throw "decorators are not valid here"
        classExpr fuel false
      else throw ("unexpected " ++ p)
    | _ => throw "unexpected token"

/-- A template literal from its first piece. Untagged templates may not hold malformed escapes;
tagged ones may. -/
def templateLiteral : Nat → Bool → Parse SrcExpr
  | 0, _ => throw tooDeep
  | fuel + 1, tagged => templatePieces fuel tagged [] []

/-- The pieces of a template literal, from the current piece. -/
def templatePieces : Nat → Bool → List String → List SrcExpr → Parse SrcExpr
  | 0, _, _, _ => throw tooDeep
  | fuel + 1, tagged, quasis, exprs => do
    let t ← cur
    match t.kind with
    | .template cooked tail =>
      if !tagged && cooked.isNone then throw "malformed escape in template"
      let quasis := cooked.getD "" :: quasis
      advance
      if tail then return .template quasis.reverse exprs.reverse
      let e ← withCtx (fun c => { c with allowIn := true }) (expression fuel)
      let close ← cur
      if !close.isPunct rbrace then throw "expected \x7d in template"
      let env ← read
      let rest ← ofScan (templateAt env.src close)
      set ({ (← get) with tok := rest } : ParseState)
      templatePieces fuel tagged quasis (e :: exprs)
    | _ => throw "expected template"

/-- Array literal elements after the bracket, through the closing one. `afterComma` tells
whether a comma followed the last element read. -/
def arrayLiteral : Nat → List SrcExpr → Bool → Parse SrcExpr
  | 0, _, _ => throw tooDeep
  | fuel + 1, acc, afterComma => do
    if ← eat "]" then return .array acc.reverse afterComma
    if ← eat "," then return ← arrayLiteral fuel (.hole :: acc) false
    let e ← withCtx (fun c => { c with allowIn := true }) do
      if ← eat "..." then pure (SrcExpr.spread (← assignment fuel false))
      else assignment fuel false
    if ← eat "," then arrayLiteral fuel (e :: acc) true
    else
      expect "]"
      pure (.array (e :: acc).reverse false)

/-- Object literal entries after the brace, through the closing one. -/
def objectLiteral : Nat → List SrcExpr → Bool → Parse SrcExpr
  | 0, _, _ => throw tooDeep
  | fuel + 1, acc, cover => do
    if ← eat rbrace then return .object acc.reverse cover
    let (entry, cov) ← withCtx (fun c => { c with allowIn := true }) (objectEntry fuel)
    if ← eat "," then objectLiteral fuel (entry :: acc) (cover || cov)
    else
      expect rbrace
      pure (.object (entry :: acc).reverse (cover || cov))

/-- One object literal entry; the flag tells whether it is a shorthand with a default. -/
def objectEntry : Nat → Parse (SrcExpr × Bool)
  | 0 => throw tooDeep
  | fuel + 1 => do
    let t ← cur
    if ← eat "..." then return (.spread (← assignment fuel false), false)
    if ← eat "*" then
      let _ ← propertyKey fuel false
      methodRest fuel true false none
      return (.method, false)
    if t.isWord "async" || t.isWord "get" || t.isWord "set" then
      match ← peekAhead 1 with
      | some n =>
        let plain := n.isPunct "," || n.isPunct ":" || n.isPunct "(" || n.isPunct "=" ||
          n.isPunct rbrace
        if !plain && !(t.isWord "async" && n.newlineBefore) then
          advance
          let gen ← if t.isWord "async" then eat "*" else pure false
          let _ ← propertyKey fuel false
          methodRest fuel gen (t.isWord "async") (accessorArity t)
          return (.method, false)
      | none => pure ()
    let keyTok ← cur
    let key ← propertyKey fuel false
    if ← eat ":" then return (.prop (← assignment fuel false), false)
    if ← atP "(" then
      methodRest fuel false false none
      return (.method, false)
    match key, nameOf keyTok (← ctx) with
    | some _, some n =>
      if ← eat "=" then
        let _ ← assignment fuel true
        return (.shorthand n true, true)
      else return (.shorthand n false, false)
    | _, _ => throw "expected : in object literal"

/-- The parameters and body of a method, from its `(`. An accessor takes exactly `arity`
parameters and no rest parameter. -/
def methodRest : Nat → Bool → Bool → Option Nat → Parse Unit
  | 0, _, _, _ => throw tooDeep
  | fuel + 1, gen, isAsync, arity => do
    expect "("
    let inner := fun (c : ParseCtx) => c.functionBody gen isAsync
    let (params, rest) ← withCtx inner (formalParams fuel [])
    if let some n := arity then
      if rest || params.length != n then throw "wrong number of accessor parameters"
    let _ ← withCtx inner (functionBody fuel)

/-- A function expression or declaration from `function` (after `async` when `isAsync`). -/
def functionExpr : Nat → Bool → Parse SrcExpr
  | 0, _ => throw tooDeep
  | fuel + 1, isAsync => do
    expectW "function"
    let gen ← eat "*"
    let inner := fun (c : ParseCtx) => c.functionBody gen isAsync
    match nameOf (← cur) (← withCtx inner ctx) with
    | some _ => advance
    | none => pure ()
    expect "("
    let _ ← withCtx inner (formalParams fuel [])
    let _ ← withCtx inner (functionBody fuel)
    pure .other

/-- A class expression or declaration from `class`. -/
def classExpr : Nat → Bool → Parse SrcExpr
  | 0, _ => throw tooDeep
  | fuel + 1, nameRequired => do
    expectW "class"
    let t ← cur
    if !t.isWord "extends" && !t.isPunct lbrace then
      match nameOf t (← ctx) with
      | some _ => advance
      | none => throw "expected a class name"
    else if nameRequired then throw "expected a class name"
    if ← eatW "extends" then
      let _ ← lhsExpr fuel
    expect lbrace
    classMembers fuel
    pure .other

/-- Class members after the brace, through the closing one. -/
def classMembers : Nat → Parse Unit
  | 0 => throw tooDeep
  | fuel + 1 => do
    if ← eat rbrace then return ()
    if ← eat ";" then return ← classMembers fuel
    classMember fuel
    classMembers fuel

/-- One class member: a static block, or a method, getter, setter or field, which may be
decorated and marked `accessor`. No member but a plain method is named `constructor`, no private
name is `#constructor`, and no static member is named `prototype`. -/
def classMember : Nat → Parse Unit
  | 0 => throw tooDeep
  | fuel + 1 => do
    let isKeyHere : Token → Bool := fun n =>
      n.isPunct "(" || n.isPunct "=" || n.isPunct ";" || n.isPunct rbrace || n.isEof
    let decorated ← atP "@"
    decorators fuel
    let t ← cur
    let mut isStatic := false
    if t.isWord "static" then
      match ← peekAhead 1 with
      | some n =>
        if n.isPunct lbrace then
          if decorated then throw "decorators are not valid here"
          advanceN 2
          let _ ← withCtx ParseCtx.staticBlock (statementList fuel [] false)
          expect rbrace
          return ()
        else if !isKeyHere n then do advance; isStatic := true
      | none => pure ()
    let t ← cur
    if t.isWord "accessor" then
      match ← peekAhead 1 with
      | some n => if !n.newlineBefore && startsMemberName n then advance
      | none => pure ()
    let t ← cur
    let mut isAsync := false
    if t.isWord "async" then
      match ← peekAhead 1 with
      | some n => if !isKeyHere n && !n.newlineBefore then do advance; isAsync := true
      | none => pure ()
    let gen ← eat "*"
    let t ← cur
    let mut arity : Option Nat := none
    if t.isWord "get" || t.isWord "set" then
      match ← peekAhead 1 with
      | some n => if !isKeyHere n then do advance; arity := accessorArity t
      | none => pure ()
    let key ← propertyKey fuel true
    if key == some "#constructor" then throw "a private name #constructor"
    if isStatic && key == some "prototype" then throw "a static member named prototype"
    if ← atP "(" then
      if !isStatic && key == some "constructor" && (isAsync || gen || arity.isSome) then
        throw "a special method named constructor"
      methodRest fuel gen isAsync arity
    else
      if isAsync || gen || arity.isSome then throw "expected ( in method"
      if key == some "constructor" then throw "a field named constructor"
      if ← eat "=" then
        let _ ← withCtx (fun c => { c with allowIn := true, inFunction := false }) (assignment fuel true)
      semicolon

/-- A function body from its brace: statements with the directive prologue dropped. -/
def functionBody : Nat → Parse (List SrcStmt)
  | 0 => throw tooDeep
  | fuel + 1 => do
    expect lbrace
    let body ← statementList fuel [] true
    expect rbrace
    pure body

/-- Statements up to a closing brace or the end of the text. With `prologue`, leading statements
that are string literals alone are directives and are dropped. -/
def statementList : Nat → List SrcStmt → Bool → Parse (List SrcStmt)
  | 0, _, _ => throw tooDeep
  | fuel + 1, acc, prologue => do
    let t ← cur
    if t.isPunct rbrace || t.isEof then return acc.reverse
    let s ← statement fuel false
    match s with
    | .expr (.str _) => if prologue then statementList fuel acc true else statementList fuel (s :: acc) false
    | _ => statementList fuel (s :: acc) false

/-- A statement nested in another (not at the top of the text). -/
def nested : Nat → Parse SrcStmt
  | 0 => throw tooDeep
  | fuel + 1 => withCtx (fun c => { c with topLevel := false }) (statement fuel false)

/-- The one statement that forms the body of `if`, `else`, a loop, `with` or a label: no
declaration may stand there, and `let` starts an expression. -/
def single : Nat → Parse SrcStmt
  | 0 => throw tooDeep
  | fuel + 1 => do
    if declarationStart (← cur) (← peekAhead 1) then throw "a declaration in a single-statement position"
    withCtx (fun c => { c with topLevel := false }) (statement fuel true)

/-- A block from its brace. -/
def block : Nat → Parse (List SrcStmt)
  | 0 => throw tooDeep
  | fuel + 1 => do
    expect lbrace
    let body ← withCtx (fun c => { c with topLevel := false }) (statementList fuel [] false)
    expect rbrace
    pure body

/-- A parenthesized expression after `if`, `while`, `switch` or `with`. -/
def parenExpr : Nat → Parse SrcExpr
  | 0 => throw tooDeep
  | fuel + 1 => do
    expect "("
    let e ← withCtx (fun c => { c with allowIn := true }) (expression fuel)
    expect ")"
    pure e

/-- Variable declarators after `var`, `let` or `const`, adding the names they declare to
`names`. The result tells whether one that needs an initializer (a constant, or a
destructuring) has none, and gives the names. -/
def declarators : Nat → Bool → Bool → List String → Parse (Bool × List String)
  | 0, _, _, _ => throw tooDeep
  | fuel + 1, isConst, missing, names => do
    let (target, more) ← bindingNames fuel
    let hasInit ← eat "="
    if hasInit then
      let _ ← assignment fuel true
    let needs := isConst || (match target with | .ident _ => false | _ => true)
    let missing := missing || (needs && !hasInit)
    if ← eat "," then declarators fuel isConst missing (names ++ more)
    else pure (missing, names ++ more)

/-- A variable statement from its keyword, with the names it declares. -/
def variableNames : Nat → Parse (List String)
  | 0 => throw tooDeep
  | fuel + 1 => do
    let isConst ← atW "const"
    advance
    let (missing, names) ←
      withCtx (fun c => { c with allowIn := true }) (declarators fuel isConst false [])
    if missing then throw "missing initializer"
    semicolon
    pure names

/-- A variable statement from its keyword. -/
def variableStatement : Nat → Parse SrcStmt
  | 0 => throw tooDeep
  | fuel + 1 => do
    let _ ← variableNames fuel
    pure .other

/-- Whether `let` here starts a declaration. -/
def letDeclares : Parse Bool := do
  match ← peekAhead 1 with
  | some n => pure (n.isPunct "[" || n.isPunct lbrace || isPlainWord n ||
      n.isWord "yield" || n.isWord "await")
  | none => pure false

/-- A `for` statement from its keyword. The target of a for-of loop may not start with `let`,
nor with `async of` unless the loop is `for await`. -/
def forStatement : Nat → Parse SrcStmt
  | 0 => throw tooDeep
  | fuel + 1 => do
    advance
    let isAwait ← atW "await"
    if isAwait then
      if (← ctx).inAsync then advance else throw "for await outside async"
    expect "("
    let noIn := fun (c : ParseCtx) => { c with allowIn := false }
    let t ← cur
    let declares ←
      if t.isWord "var" || t.isWord "const" then pure true
      else if t.isWord "let" then letDeclares
      else pure false
    let mut loopKind := "classic"
    if ← atP ";" then
      pure ()
    else if declares then
      let isConst := t.isWord "const"
      advance
      let (missing, _) ← withCtx noIn (declarators fuel isConst false [])
      if ← atW "of" then loopKind := "of"
      else if ← atW "in" then loopKind := "in"
      else if missing then throw "missing initializer"
    else
      let asyncOf := t.isWord "async" && (← peekAhead 1).any (·.isWord "of")
      let init ← withCtx noIn (expression fuel)
      if (← atW "of") || (← atW "in") then
        loopKind := if ← atW "of" then "of" else "in"
        if loopKind == "of" && (t.isWord "let" || (asyncOf && !isAwait)) then
          throw "for-of target starting with let or async of"
        match init with
        | .array _ _ | .object _ _ =>
          match patternTarget init with
          | .ok _ => pure ()
          | .error e => throw e
        | _ => let _ ← simpleTarget init
      else if init.hasCoverInit then throw "shorthand default outside a destructuring target"
    if loopKind == "of" then
      advance
      let _ ← withCtx (fun c => { c with allowIn := true }) (assignment fuel true)
      expect ")"
    else if loopKind == "in" then
      advance
      let _ ← withCtx (fun c => { c with allowIn := true }) (expression fuel)
      expect ")"
    else
      expect ";"
      if !(← atP ";") then
        let _ ← withCtx (fun c => { c with allowIn := true }) (expression fuel)
      expect ";"
      if !(← atP ")") then
        let _ ← withCtx (fun c => { c with allowIn := true }) (expression fuel)
      expect ")"
    let _ ← single fuel
    pure .other

/-- The cases of a `switch` body after its brace, through the closing one. -/
def switchCases : Nat → Parse Unit
  | 0 => throw tooDeep
  | fuel + 1 => do
    if ← eat rbrace then return ()
    if ← eatW "case" then
      let _ ← withCtx (fun c => { c with allowIn := true }) (expression fuel)
    else expectW "default"
    expect ":"
    caseBody fuel
    switchCases fuel

/-- The statements of one case, up to the next case or the end of the switch. -/
def caseBody : Nat → Parse Unit
  | 0 => throw tooDeep
  | fuel + 1 => do
    let t ← cur
    if t.isPunct rbrace || t.isWord "case" || t.isWord "default" || t.isEof then return ()
    let _ ← nested fuel
    caseBody fuel

/-- A name as a module exports it: any word, or a string without lone surrogates. Gives the
name and whether it is a word. -/
def exportName : Parse (String × Bool) := do
  match (← cur).kind with
  | .word w _ => do advance; pure (w, true)
  | .string v wellFormed =>
    if !wellFormed then throw "a lone surrogate in a module export name"
    advance
    pure (v, false)
  | _ => throw "expected a name"

/-- Records names the module exports; a name exported twice is an error. -/
def declareExports (names : List String) : Parse Unit := do
  for n in names do
    if (← get).exported.contains n then throw ("duplicate export " ++ n)
    modify fun s => { s with exported := n :: s.exported }

/-- The name declared by the function or class declaration at the current token. -/
def declaredName : Parse (Option String) := do
  let ts ← [0, 1, 2, 3].mapM peekAhead
  let rest := (ts.filterMap id).dropWhile fun t =>
    t.isWord "async" || t.isWord "function" || t.isWord "class" || t.isPunct "*"
  pure (rest.head?.bind Token.word?)

/-- Import specifiers after the brace, through the closing one: a name bound as it is, or an
exported name bound with `as`. -/
def importSpecifiers : Nat → Parse Unit
  | 0 => throw tooDeep
  | fuel + 1 => do
    if ← eat rbrace then return ()
    if (← peekAhead 1).any (·.isWord "as") then
      let _ ← exportName
      advance
    match nameOf (← cur) (← ctx) with
    | some _ => advance
    | none => throw "expected a binding name"
    if ← eat "," then importSpecifiers fuel else expect rbrace

/-- Export specifiers after the brace, through the closing one, in order: each local name (with
whether it is a word) and the name it is exported as. -/
def exportSpecifiers : Nat → List ((String × Bool) × String) →
    Parse (List ((String × Bool) × String))
  | 0, _ => throw tooDeep
  | fuel + 1, acc => do
    if ← eat rbrace then return acc.reverse
    let name ← exportName
    let exported ← if ← eatW "as" then do pure (← exportName).1 else pure name.1
    if ← eat "," then exportSpecifiers fuel ((name, exported) :: acc)
    else
      expect rbrace
      pure ((name, exported) :: acc).reverse

/-- Import attributes after the brace, through the closing one: each key a word or a string,
given once, with a string value. -/
def importAttributes : Nat → List String → Parse Unit
  | 0, _ => throw tooDeep
  | fuel + 1, seen => do
    if ← eat rbrace then return ()
    let key ← match (← cur).kind with
      | .word w _ => pure w
      | .string v _ => pure v
      | _ => throw "expected an attribute key"
    if seen.contains key then throw "duplicate import attribute"
    advance
    expect ":"
    match (← cur).kind with
    | .string _ _ => advance
    | _ => throw "expected a string attribute value"
    if ← eat "," then importAttributes fuel (key :: seen) else expect rbrace

/-- The module source of an import or export, with optional attributes, and the end. -/
def moduleSource : Nat → Parse Unit
  | 0 => throw tooDeep
  | fuel + 1 => do
    match (← cur).kind with
    | .string _ _ => advance
    | _ => throw "expected a module name"
    if (← atW "with") || ((← atW "assert") && !(← cur).newlineBefore) then
      advance
      expect lbrace
      importAttributes fuel []
    semicolon

/-- An import declaration from its keyword. -/
def importDeclaration : Nat → Parse SrcStmt
  | 0 => throw tooDeep
  | fuel + 1 => do
    advance
    match (← cur).kind with
    | .string _ _ => do moduleSource fuel; return .other
    | _ => pure ()
    let next ← peekAhead 1
    if (← atW "defer") && next.any (·.isPunct "*") then
      advance
      expect "*"
      expectW "as"
      let _ ← bindingTarget fuel
    else if (← atW "source") && next.any (fun n => n.word?.any (· != "from")) then
      advance
      match nameOf (← cur) (← ctx) with
      | some _ => advance
      | none => throw "expected a binding name"
    else
      let mut needFrom := true
      match nameOf (← cur) (← ctx) with
      | some _ =>
        advance
        if ← eat "," then
          if ← eat "*" then
            expectW "as"
            let _ ← bindingTarget fuel
          else
            expect lbrace
            importSpecifiers fuel
      | none =>
        if ← eat "*" then
          expectW "as"
          let _ ← bindingTarget fuel
        else if ← eat lbrace then importSpecifiers fuel
        else needFrom := false
      if !needFrom then throw "invalid import"
    expectW "from"
    moduleSource fuel
    pure .other

/-- An export declaration from its keyword. -/
def exportDeclaration : Nat → Parse SrcStmt
  | 0 => throw tooDeep
  | fuel + 1 => do
    advance
    let t ← cur
    if ← eat "*" then
      if ← eatW "as" then
        declareExports [(← exportName).1]
      expectW "from"
      moduleSource fuel
    else if ← eat lbrace then
      let specs ← exportSpecifiers fuel []
      if ← eatW "from" then moduleSource fuel
      else
        for ((name, isWord), _) in specs do
          if !isWord then throw "a string exported as a local name"
          if isReservedWord name || unexportableWords.contains name then
            throw ("a reserved word exported as a local name: " ++ name)
        semicolon
      declareExports (specs.map (·.2))
    else if t.isPunct "@" then
      decorators fuel
      declareExports ((← declaredName).toList)
      let _ ← classExpr fuel true
    else if t.isWord "default" then
      declareExports ["default"]
      advance
      let d ← cur
      if d.isWord "function" then let _ ← functionExpr fuel false
      else if d.isWord "class" then let _ ← classExpr fuel false
      else if d.isPunct "@" then
        decorators fuel
        let _ ← classExpr fuel false
      else if d.isWord "async" && (← peekAhead 1).any (fun n => n.isWord "function" && !n.newlineBefore) then
        advance
        let _ ← functionExpr fuel true
      else
        let _ ← withCtx (fun c => { c with allowIn := true }) (assignment fuel true)
        semicolon
    else if t.isWord "var" || t.isWord "const" || t.isWord "let" then
      declareExports (← variableNames fuel)
    else if t.isWord "function" then
      declareExports ((← declaredName).toList)
      let _ ← functionExpr fuel false
    else if t.isWord "class" then
      declareExports ((← declaredName).toList)
      let _ ← classExpr fuel true
    else if t.isWord "async" then
      declareExports ((← declaredName).toList)
      advance
      let _ ← functionExpr fuel true
    else throw "invalid export"
    pure .other

/-- One statement or declaration; with `alone`, the statement that forms the body of another,
where `let` is read as a name. -/
def statement : Nat → Bool → Parse SrcStmt
  | 0, _ => throw tooDeep
  | fuel + 1, alone => do
    let t ← cur
    let c ← ctx
    if t.isPunct lbrace then return .block (← block fuel)
    if t.isPunct ";" then
      advance
      return .empty
    if t.isPunct "@" then
      decorators fuel
      let n ← cur
      if n.isWord "export" then
        if !c.topLevel then throw "export outside the module top level"
        let next ← peekAhead 1
        let afterDefault ← peekAhead 2
        if !(next.any (·.isWord "class") ||
            (next.any (·.isWord "default") && afterDefault.any (·.isWord "class"))) then
          throw "decorators are not valid here"
        return ← exportDeclaration fuel
      if !n.isWord "class" then throw "decorators are not valid here"
      let _ ← classExpr fuel true
      return .other
    match t.kind with
    | .word w false =>
      if w == "var" || w == "const" then return ← variableStatement fuel
      if w == "let" && !alone then
        if ← letDeclares then return ← variableStatement fuel
      if w == "if" then
        advance
        let test ← parenExpr fuel
        let thenS ← single fuel
        let elseS ← if ← eatW "else" then some <$> single fuel else pure none
        return .cond test thenS elseS
      if w == "for" then return ← forStatement fuel
      if w == "while" || w == "with" then
        advance
        let _ ← parenExpr fuel
        let _ ← single fuel
        return .other
      if w == "do" then
        advance
        let _ ← single fuel
        expectW "while"
        let _ ← parenExpr fuel
        let _ ← eat ";"
        return .other
      if w == "continue" || w == "break" then
        advance
        let n ← cur
        if !n.newlineBefore && (nameOf n c).isSome then advance
        semicolon
        return .other
      if w == "return" then
        if !c.inFunction then throw "return outside a function"
        advance
        let n ← cur
        if !(n.isPunct ";" || n.isPunct rbrace || n.isEof || n.newlineBefore) then
          let _ ← withCtx (fun c => { c with allowIn := true }) (expression fuel)
        semicolon
        return .other
      if w == "switch" then
        advance
        let _ ← parenExpr fuel
        expect lbrace
        switchCases fuel
        return .other
      if w == "throw" then
        advance
        if (← cur).newlineBefore then throw "line break after throw"
        let _ ← withCtx (fun c => { c with allowIn := true }) (expression fuel)
        semicolon
        return .other
      if w == "try" then
        advance
        let _ ← block fuel
        let hasCatch ← eatW "catch"
        if hasCatch then
          if ← eat "(" then
            let _ ← bindingTarget fuel
            expect ")"
          let _ ← block fuel
        let hasFinally ← eatW "finally"
        if hasFinally then
          let _ ← block fuel
        if !hasCatch && !hasFinally then throw "try without catch or finally"
        return .other
      if w == "debugger" then
        advance
        semicolon
        return .other
      if w == "function" then
        let _ ← functionExpr fuel false
        return .other
      if w == "async" then
        if (← peekAhead 1).any (fun n => n.isWord "function" && !n.newlineBefore) then
          advance
          let _ ← functionExpr fuel true
          return .other
      if w == "class" then
        let _ ← classExpr fuel true
        return .other
      if w == "import" then
        let n ← peekAhead 1
        if !(n.any fun n => n.isPunct "(" || n.isPunct ".") then
          if !c.topLevel then throw "import outside the module top level"
          return ← importDeclaration fuel
      if w == "export" then
        if !c.topLevel then throw "export outside the module top level"
        return ← exportDeclaration fuel
      if (nameOf t c).isSome then
        if (← peekAhead 1).any (fun n => n.isPunct ":") then
          advanceN 2
          let _ ← single fuel
          return .other
    | _ => pure ()
    let e ← withCtx (fun c => { c with allowIn := true }) (expression fuel)
    semicolon
    pure (.expr e)

end

end Parse

/-- Fuel for a text of `n` characters: more than the depth of any descent over it. -/
def parseFuel (n : Nat) : Nat := 64 * (n + 4)

/-- Reads one expression at the start of a text. What follows the expression is left unread,
but the token right after it must be well formed. -/
def parseExpressionText (text : String) : Except String SrcExpr := do
  let cs := text.toList.toArray
  let first ← tokenAt cs 0
  let env : ParseEnv := ⟨cs, {}⟩
  let (e, _) ← StateT.run (ReaderT.run (Parse.expression (parseFuel cs.size)) env) { tok := first, prevEnd := 0 }
  pure e

/-- Where reading starts: after a `#!` line at the very start. -/
def bodyStart (cs : Array Char) : Nat :=
  if cs[0]? == some '#' && cs[1]? == some '!' then
    ((cs.toList.drop 2).takeWhile (fun c => !Text.isLineBreak c)).length + 2
  else 0

/-- Reads a whole text as module statements, dropping its directive prologue. -/
def parseModuleText (text : String) : Except String (List SrcStmt) := do
  let cs := text.toList.toArray
  let first ← tokenAt cs (bodyStart cs)
  let env : ParseEnv := ⟨cs, { topLevel := true }⟩
  let body : Parse (List SrcStmt) := do
    let stmts ← Parse.statementList (parseFuel cs.size) [] true
    if !(← Parse.cur).isEof then throw "unexpected \x7d"
    pure stmts
  let (stmts, _) ← StateT.run (ReaderT.run body env) { tok := first, prevEnd := 0 }
  pure stmts

end Reactive.Script
