import Reactive.Script.Expr
import Reactive.Script.Parser

/-!
Lowering: from the source tree the parser builds to the component expression language. A
construct the language has no form for is refused with a reason naming it; parts are lowered
left to right and the first refusal wins, so the reason is the one for the leftmost unsupported
part.

Handler bodies are read as statements. An expression statement is lowered for its effect: an
assignment to a name, an increment of a name, a `requestUpdate([...])` call with literal names,
or else an expression evaluated and dropped. Sequences and parentheses are looked through, and an
arrow function without parameters stands for its own body.
-/

namespace Reactive.Script

/-- A script text that could not be compiled: the text, where it came from, and why. -/
structure ScriptError where
  code : String
  origin : String
  reason : String
  deriving Inhabited

/-- The message of a script error. -/
def ScriptError.message (e : ScriptError) : String :=
  "Cannot compile '" ++ e.code ++ "' in " ++ e.origin ++ ": " ++ e.reason

/-- Reason for a construct the language has no form for. -/
def unsupported (what : String) : String := what ++ " is not supported"

/-- The prefix operator written `op`, if the language has it. -/
def unaryOpOf? (op : String) : Option UnaryOp :=
  if op == "-" then some .neg
  else if op == "+" then some .plus
  else if op == "!" then some .not
  else if op == "typeof" then some .typeOf
  else none

/-- The binary operator written `op`, if the language has it. -/
def binaryOpOf? (op : String) : Option BinaryOp :=
  if op == "+" then some .add
  else if op == "-" then some .sub
  else if op == "*" then some .mul
  else if op == "/" then some .div
  else if op == "%" then some .rem
  else if op == "**" then some .exp
  else if op == "==" then some .eq
  else if op == "!=" then some .notEq
  else if op == "===" then some .strictEq
  else if op == "!==" then some .strictNotEq
  else if op == "<" then some .lt
  else if op == "<=" then some .ltEq
  else if op == ">" then some .gt
  else if op == ">=" then some .gtEq
  else none

/-- The short-circuit operator written `op`. -/
def logicalOpOf (op : String) : LogicalOp :=
  if op == "&&" then .and else if op == "||" then .or else .coalesce

/-- The assignment operator written `op`, if the language has it. -/
def assignOpOf? (op : String) : Option AssignOp :=
  if op == "=" then some .assign
  else if op == "+=" then some .add
  else if op == "-=" then some .sub
  else if op == "*=" then some .mul
  else if op == "/=" then some .div
  else if op == "%=" then some .rem
  else none

/-- The update operator written `op`. -/
def updateOpOf (op : String) : UpdateOp :=
  if op == "++" then .increment else .decrement

/-- A name read in an expression: `undefined`, `NaN` and `Infinity` are constants. -/
def identExpr (name : String) : Expr :=
  if name == "undefined" then .undefined
  else if name == "NaN" then .number (0.0 / 0.0)
  else if name == "Infinity" then .number (1.0 / 0.0)
  else .ident name

/-- Parameter names of a lambda; destructuring is refused. -/
def paramNames : List SrcExpr → Except String (List String)
  | [] => pure []
  | .ident n :: rest => do pure (n :: (← paramNames rest))
  | _ :: _ => throw (unsupported "destructuring parameters")

/-- The names of a `requestUpdate` call: its one argument must be an array of string literals. -/
def requestNames (args : List SrcExpr) : Except String (List String) :=
  match args with
  | [.array items _] =>
    items.mapM fun
      | .str s => pure s
      | _ => throw (unsupported "a non-literal name in requestUpdate")
  | _ => throw (unsupported "requestUpdate without a single array of names")

/-- Whether an argument is a spread. -/
def SrcExpr.isSpread : SrcExpr → Bool
  | .spread _ => true
  | _ => false

mutual
/-- Lowers an expression. -/
def lowerExpr : SrcExpr → Except String Expr
  | .null => pure .null
  | .bool b => pure (.bool b)
  | .num v => pure (.number v)
  | .str s => pure (.str s)
  | .ident n => pure (identExpr n)
  | .template qs es => do pure (.template qs (← lowerList es))
  | .array items _ => do pure (.array (← lowerElements items))
  | .paren e => lowerExpr e
  | .unary op a =>
    match unaryOpOf? op with
    | some o => do pure (.unary o (← lowerExpr a))
    | none => throw (unsupported "this unary operator")
  | .binary op l r =>
    match binaryOpOf? op with
    | some o => do
      let l' ← lowerExpr l
      let r' ← lowerExpr r
      pure (.binary o l' r')
    | none => throw (unsupported "this binary operator")
  | .logical op l r => do
    let l' ← lowerExpr l
    let r' ← lowerExpr r
    pure (.logical (logicalOpOf op) l' r')
  | .cond t c a => do
    let t' ← lowerExpr t
    let c' ← lowerExpr c
    let a' ← lowerExpr a
    pure (.cond t' c' a')
  | .call (.ident n) args => do pure (.callFn n (← lowerArgs args))
  | .call (.member o m) args => do
    let recv ← lowerExpr o
    pure (.callMethod recv m (← lowerArgs args))
  | .call _ _ => throw (unsupported "this call target")
  | .member o p => do pure (.member (← lowerExpr o) p)
  | .index o i => do
    let o' ← lowerExpr o
    let i' ← lowerExpr i
    pure (.index o' i')
  | .arrow params concise body => do
    let names ← paramNames params
    if !concise then throw (unsupported "a block-bodied arrow function in an expression")
    match body with
    | .expr e :: _ => do pure (.lambda names (← lowerExpr e))
    | _ => throw (unsupported "an empty arrow function")
  | .assign _ _ _ => throw (unsupported "assignment inside an expression")
  | .update _ _ => throw (unsupported "assignment inside an expression")
  | _ => throw (unsupported "this expression kind")

/-- Lowers a list of expressions. -/
def lowerList : List SrcExpr → Except String (List Expr)
  | [] => pure []
  | e :: rest => do
    let e' ← lowerExpr e
    pure (e' :: (← lowerList rest))

/-- Lowers array elements; spreads and holes are refused. -/
def lowerElements : List SrcExpr → Except String (List Expr)
  | [] => pure []
  | .spread _ :: _ => throw (unsupported "spread or hole in an array")
  | .hole :: _ => throw (unsupported "spread or hole in an array")
  | e :: rest => do
    let e' ← lowerExpr e
    pure (e' :: (← lowerElements rest))

/-- Lowers call arguments; spreads are refused. -/
def lowerArgs : List SrcExpr → Except String (List Expr)
  | [] => pure []
  | .spread _ :: _ => throw (unsupported "spread arguments")
  | e :: rest => do
    let e' ← lowerExpr e
    pure (e' :: (← lowerArgs rest))
end

mutual
/-- Lowers a statement of a handler body. -/
def lowerStmt : SrcStmt → Except String (List Stmt)
  | .expr e => lowerEffect e
  | .block body => lowerStmts body
  | .cond test thenS elseS => do
    let test' ← lowerExpr test
    let thenB ← lowerStmt thenS
    let elseB ← match elseS with
      | some s => lowerStmt s
      | none => pure []
    pure [.cond test' thenB elseB]
  | .empty => pure []
  | .other => throw (unsupported "this statement kind")

/-- Lowers statements in order. -/
def lowerStmts : List SrcStmt → Except String (List Stmt)
  | [] => pure []
  | s :: rest => do
    let s' ← lowerStmt s
    pure (s' ++ (← lowerStmts rest))

/-- Lowers an expression run for its effect. -/
def lowerEffect : SrcExpr → Except String (List Stmt)
  | .paren e => lowerEffect e
  | .seq items => lowerEffects items
  | .arrow params _ body =>
    if params.isEmpty then lowerStmts body else throw (unsupported "a handler with parameters")
  | .assign op target value => do
    let name ← match target with
      | .ident n => pure n
      | _ => throw (unsupported "assignment to a member or pattern")
    let o ← match assignOpOf? op with
      | some o => pure o
      | none => throw (unsupported "this assignment operator")
    let v ← lowerExpr value
    pure [.assign name o v]
  | .update op target =>
    match target with
    | .ident n => pure [.update n (updateOpOf op)]
    | _ => throw (unsupported "update of a member")
  | .call (.ident "requestUpdate") args => do
    pure [.requestUpdate (← requestNames (args.filter (fun a => !a.isSpread)))]
  | e => do pure [.eval (← lowerExpr e)]

/-- Lowers expressions run for their effect, in order. -/
def lowerEffects : List SrcExpr → Except String (List Stmt)
  | [] => pure []
  | e :: rest => do
    let s ← lowerEffect e
    pure (s ++ (← lowerEffects rest))
end

/-- Reads and lowers one expression. -/
def compileExpression (code origin : String) : Except ScriptError Expr :=
  match parseExpressionText code with
  | .error _ => .error ⟨code, origin, "Invalid expression syntax"⟩
  | .ok e =>
    match lowerExpr e with
    | .ok x => .ok x
    | .error r => .error ⟨code, origin, r⟩

/-- Reads and lowers a handler body. -/
def compileStatements (code origin : String) : Except ScriptError (List Stmt) :=
  match parseModuleText code with
  | .error _ => .error ⟨code, origin, "Invalid handler syntax"⟩
  | .ok body =>
    match lowerStmts body with
    | .ok x => .ok x
    | .error r => .error ⟨code, origin, r⟩

end Reactive.Script
