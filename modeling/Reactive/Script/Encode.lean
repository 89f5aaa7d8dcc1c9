import Reactive.Script.Expr
import Reactive.Json.Basic

/-!
The JSON form of expressions and statements, as they appear inside compiled plans: every node is
an object whose `kind` names its form, followed by its parts in a fixed order. A call keeps its
callee as a nested object, `function` with a name or `method` with a receiver and a method name.
-/

namespace Reactive.Script

/-- JSON name of a prefix operator. -/
def UnaryOp.key : UnaryOp → String
  | .neg => "neg" | .plus => "plus" | .not => "not" | .typeOf => "typeof"

/-- JSON name of a binary operator. -/
def BinaryOp.key : BinaryOp → String
  | .add => "add" | .sub => "sub" | .mul => "mul" | .div => "div" | .rem => "rem"
  | .exp => "exp" | .eq => "eq" | .notEq => "notEq" | .strictEq => "strictEq"
  | .strictNotEq => "strictNotEq" | .lt => "lt" | .ltEq => "ltEq" | .gt => "gt"
  | .gtEq => "gtEq"

/-- JSON name of a short-circuit operator. -/
def LogicalOp.key : LogicalOp → String
  | .and => "and" | .or => "or" | .coalesce => "coalesce"

/-- JSON name of an assignment operator. -/
def AssignOp.key : AssignOp → String
  | .assign => "assign" | .add => "add" | .sub => "sub" | .mul => "mul" | .div => "div"
  | .rem => "rem"

/-- JSON name of an update operator. -/
def UpdateOp.key : UpdateOp → String
  | .increment => "increment" | .decrement => "decrement"

/-- An object whose `kind` is `k`, followed by `fields`. -/
def tagged (k : String) (fields : List (String × Json)) : Json :=
  .object (("kind", .string k) :: fields)

mutual
/-- The JSON form of an expression. -/
def Expr.toJson : Expr → Json
  | .undefined => tagged "undefined" []
  | .null => tagged "null" []
  | .bool b => tagged "bool" [("value", .bool b)]
  | .number x => tagged "number" [("value", Json.ofFloat x)]
  | .str s => tagged "str" [("value", .string s)]
  | .ident n => tagged "ident" [("name", .string n)]
  | .template qs es =>
    tagged "template" [("quasis", Json.ofStrings qs), ("expressions", .array (exprsToJson es))]
  | .array es => tagged "array" [("elements", .array (exprsToJson es))]
  | .unary op a => tagged "unary" [("op", .string op.key), ("argument", a.toJson)]
  | .binary op l r =>
    tagged "binary" [("op", .string op.key), ("left", l.toJson), ("right", r.toJson)]
  | .logical op l r =>
    tagged "logical" [("op", .string op.key), ("left", l.toJson), ("right", r.toJson)]
  | .cond t c a =>
    tagged "conditional" [("test", t.toJson), ("consequent", c.toJson), ("alternate", a.toJson)]
  | .callFn n args =>
    tagged "call" [("callee", tagged "function" [("name", .string n)]),
      ("arguments", .array (exprsToJson args))]
  | .callMethod o m args =>
    tagged "call" [("callee", tagged "method" [("object", o.toJson), ("method", .string m)]),
      ("arguments", .array (exprsToJson args))]
  | .member o p => tagged "member" [("object", o.toJson), ("property", .string p)]
  | .index o i => tagged "index" [("object", o.toJson), ("index", i.toJson)]
  | .lambda ps body => tagged "lambda" [("params", Json.ofStrings ps), ("body", body.toJson)]

/-- The JSON forms of a list of expressions. -/
def exprsToJson : List Expr → List Json
  | [] => []
  | e :: es => e.toJson :: exprsToJson es
end

mutual
/-- The JSON form of a statement. -/
def Stmt.toJson : Stmt → Json
  | .assign t op v =>
    tagged "assign" [("target", .string t), ("op", .string op.key), ("value", v.toJson)]
  | .update t op => tagged "update" [("target", .string t), ("op", .string op.key)]
  | .cond test a b =>
    tagged "if" [("test", test.toJson), ("consequent", .array (stmtsToJson a)),
      ("alternate", .array (stmtsToJson b))]
  | .eval e => tagged "eval" [("expr", e.toJson)]
  | .requestUpdate names => tagged "requestUpdate" [("names", Json.ofStrings names)]

/-- The JSON forms of a list of statements. -/
def stmtsToJson : List Stmt → List Json
  | [] => []
  | s :: rest => s.toJson :: stmtsToJson rest
end

end Reactive.Script
