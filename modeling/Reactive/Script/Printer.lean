import Reactive.Script.Expr
import Reactive.Number.Format

/-!
Printing expressions and statements back as script text. Each expression form has a precedence;
an operand is put in parentheses when its own precedence is below what its position needs, so
the printed text reads back as the same tree. A few positions need more: a prefix operation as the
operand of another prefix operation, any prefix operation left of `**`, a number as the receiver
of a property access (so `1.5.x` is not misread), and a short-circuit operation of another kind
inside `??`, `&&` or `||` (which may not be mixed bare).
-/

namespace Reactive.Script

/-- Precedence of lambdas, the lowest: arguments and elements are printed at it. -/
def precLambda : Nat := 2
/-- Precedence of conditionals. -/
def precConditional : Nat := 3
/-- Precedence of prefix operations and negative numbers. -/
def precUnary : Nat := 15
/-- Precedence of calls, property access and indexing. -/
def precMember : Nat := 18

/-- Precedence of a binary operator. -/
def BinaryOp.prec : BinaryOp → Nat
  | .eq | .notEq | .strictEq | .strictNotEq => 9
  | .lt | .ltEq | .gt | .gtEq => 10
  | .add | .sub => 12
  | .mul | .div | .rem => 13
  | .exp => 14

/-- Precedence of a short-circuit operator. -/
def LogicalOp.prec : LogicalOp → Nat
  | .or | .coalesce => 4
  | .and => 5

/-- Source text of a binary operator. -/
def BinaryOp.text : BinaryOp → String
  | .add => "+" | .sub => "-" | .mul => "*" | .div => "/" | .rem => "%" | .exp => "**"
  | .eq => "==" | .notEq => "!=" | .strictEq => "===" | .strictNotEq => "!=="
  | .lt => "<" | .ltEq => "<=" | .gt => ">" | .gtEq => ">="

/-- Source text of a short-circuit operator. -/
def LogicalOp.text : LogicalOp → String
  | .and => "&&" | .or => "||" | .coalesce => "??"

/-- Source text of an assignment operator. -/
def AssignOp.text : AssignOp → String
  | .assign => "=" | .add => "+=" | .sub => "-=" | .mul => "*=" | .div => "/=" | .rem => "%="

/-- Source text of an update operator. -/
def UpdateOp.text : UpdateOp → String
  | .increment => "++" | .decrement => "--"

/-- Source text of a prefix operator, with its separating blank for `typeof`. -/
def UnaryOp.text : UnaryOp → String
  | .neg => "-" | .plus => "+" | .not => "!" | .typeOf => "typeof "

/-- Precedence of an expression: how tightly it holds together when printed. -/
def Expr.prec : Expr → Nat
  | .lambda _ _ => precLambda
  | .cond _ _ _ => precConditional
  | .logical op _ _ => op.prec
  | .binary op _ _ => op.prec
  | .unary _ _ => precUnary
  | .callFn _ _ | .callMethod _ _ _ | .member _ _ | .index _ _ => precMember
  | .number x => if x < 0.0 then precUnary else 20
  | _ => 20

/-- Wraps text in parentheses when `b` holds. -/
def bracketIf (b : Bool) (s : String) : String :=
  if b then "(" ++ s ++ ")" else s

/-- Escapes a string for a double-quoted literal. -/
def escapeQuoted (s : String) : String :=
  String.join (s.toList.map fun c =>
    if c == '\\' then "\\\\"
    else if c == '"' then "\\\""
    else if c == '\n' then "\\n"
    else if c == '\r' then "\\r"
    else if c == Char.ofNat 0x2028 then "\\u2028"
    else if c == Char.ofNat 0x2029 then "\\u2029"
    else c.toString)

/-- A double-quoted string literal. -/
def quoted (s : String) : String := "\"" ++ escapeQuoted s ++ "\""

/-- The template delimiter. -/
def backquote : Char := Char.ofNat 0x60

/-- Escapes a template piece: backslashes, delimiters and substitution openers. -/
def escapeTemplateChars : List Char → List Char
  | [] => []
  | '\\' :: rest => '\\' :: '\\' :: escapeTemplateChars rest
  | '$' :: '\x7b' :: rest => '\\' :: '$' :: '\x7b' :: escapeTemplateChars rest
  | c :: rest =>
    if c == backquote then '\\' :: c :: escapeTemplateChars rest
    else c :: escapeTemplateChars rest

/-- Escapes a template piece. -/
def escapeTemplate (s : String) : String := String.ofList (escapeTemplateChars s.toList)

/-- An operand of a short-circuit operation: one of another kind is always parenthesized. -/
def logicalSide (op : LogicalOp) (e : Expr) (text : String) (min : Nat) : String :=
  match e with
  | .logical inner _ _ => if inner != op then "(" ++ text ++ ")" else bracketIf (e.prec < min) text
  | _ => bracketIf (e.prec < min) text

/-- A receiver of a property access or method call. -/
def receiverText (e : Expr) (text : String) : String :=
  match e with
  | .number _ => "(" ++ text ++ ")"
  | _ => bracketIf (e.prec < precMember) text

mutual
/-- Prints an expression. -/
def printExpr : Expr → String
  | .undefined => "undefined"
  | .null => "null"
  | .bool b => if b then "true" else "false"
  | .number x => Number.valueText x
  | .str s => quoted s
  | .ident n => n
  | .template qs es => backquote.toString ++ templateText qs es ++ backquote.toString
  | .array es => "[" ++ ", ".intercalate (printArgs es) ++ "]"
  | .unary op a =>
    let operand := match a with
      | .unary _ _ => "(" ++ printExpr a ++ ")"
      | _ => bracketIf (a.prec < precUnary) (printExpr a)
    op.text ++ operand
  | .binary op l r =>
    if op == .exp then
      bracketIf (l.prec < precUnary + 1) (printExpr l) ++ " ** " ++
        bracketIf (r.prec < op.prec) (printExpr r)
    else
      bracketIf (l.prec < op.prec) (printExpr l) ++ " " ++ op.text ++ " " ++
        bracketIf (r.prec < op.prec + 1) (printExpr r)
  | .logical op l r =>
    logicalSide op l (printExpr l) op.prec ++ " " ++ op.text ++ " " ++
      logicalSide op r (printExpr r) (op.prec + 1)
  | .cond t c a =>
    bracketIf (t.prec < precConditional + 1) (printExpr t) ++ " ? " ++
      bracketIf (c.prec < precLambda) (printExpr c) ++ " : " ++
      bracketIf (a.prec < precLambda) (printExpr a)
  | .callFn n args => n ++ "(" ++ ", ".intercalate (printArgs args) ++ ")"
  | .callMethod o m args =>
    receiverText o (printExpr o) ++ "." ++ m ++ "(" ++ ", ".intercalate (printArgs args) ++ ")"
  | .member o p => receiverText o (printExpr o) ++ "." ++ p
  | .index o i => receiverText o (printExpr o) ++ "[" ++ printExpr i ++ "]"
  | .lambda ps body =>
    "(" ++ ", ".intercalate ps ++ ") => " ++ bracketIf (body.prec < precLambda) (printExpr body)

/-- Prints arguments or elements, each at lambda precedence. -/
def printArgs : List Expr → List String
  | [] => []
  | e :: es => bracketIf (e.prec < precLambda) (printExpr e) :: printArgs es

/-- The inside of a template: each piece followed by the expression of the same index. -/
def templateText : List String → List Expr → String
  | [], _ => ""
  | q :: qs, [] => escapeTemplate q ++ String.join (qs.map escapeTemplate)
  | q :: qs, e :: es => escapeTemplate q ++ "$\x7b" ++ printExpr e ++ "\x7d" ++ templateText qs es
end

/-- A list of names as an array literal of strings. -/
def nameList (names : List String) : String :=
  "[" ++ ", ".intercalate (names.map quoted) ++ "]"

mutual
/-- Prints a statement as lines, each starting with `indent`. -/
def printStmt (indent : String) : Stmt → List String
  | .assign t op v => [indent ++ t ++ " " ++ op.text ++ " " ++ printExpr v ++ ";"]
  | .update t op => [indent ++ t ++ op.text ++ ";"]
  | .cond test a b =>
    let head := indent ++ "if (" ++ printExpr test ++ ") \x7b"
    let inner := indent ++ "  "
    if b.isEmpty then
      head :: printStmts inner a ++ [indent ++ "\x7d"]
    else
      head :: printStmts inner a ++ [indent ++ "\x7d else \x7b"] ++ printStmts inner b ++
        [indent ++ "\x7d"]
  | .eval e => [indent ++ printExpr e ++ ";"]
  | .requestUpdate names => [indent ++ "requestUpdate(" ++ nameList names ++ ");"]

/-- Prints statements as lines. -/
def printStmts (indent : String) : List Stmt → List String
  | [] => []
  | s :: rest => printStmt indent s ++ printStmts indent rest
end

end Reactive.Script
