/-!
Script source as written: the tree the parser builds before lowering. It keeps exactly what
lowering needs to accept or refuse a construct: parentheses, sequences, spreads and holes,
arrow functions with their parameters and bodies, assignment and update targets, and the
statement forms handlers may use. Every construct the component language has no use for (object
literals, `this`, `new`, functions, classes, regular expressions, …) is kept only as a mark,
after the parser has checked it.
-/

namespace Reactive.Script

mutual
/-- An expression as written. -/
inductive SrcExpr where
  | null
  | bool (b : Bool)
  | num (v : Float)
  | str (v : String)
  | ident (name : String)
  | template (quasis : List String) (exprs : List SrcExpr)
  /-- an array literal; `trailingComma` when a comma follows its last element -/
  | array (items : List SrcExpr) (trailingComma : Bool)
  /-- an empty slot of an array literal -/
  | hole
  /-- a spread element `...e` of an array, call or object -/
  | spread (arg : SrcExpr)
  /-- an object literal; `coverInit` when it holds a shorthand with a default, `{a = 1}`, which
  only a destructuring target may hold -/
  | object (entries : List SrcExpr) (coverInit : Bool)
  /-- an object entry `key: value` -/
  | prop (value : SrcExpr)
  /-- a shorthand object entry `name`, or `name = default` -/
  | shorthand (name : String) (withDefault : Bool)
  /-- an object method, getter or setter -/
  | method
  | paren (e : SrcExpr)
  | seq (items : List SrcExpr)
  | unary (op : String) (arg : SrcExpr)
  | await (arg : SrcExpr)
  | binary (op : String) (lhs rhs : SrcExpr)
  | logical (op : String) (lhs rhs : SrcExpr)
  | cond (test consequent alternate : SrcExpr)
  | call (callee : SrcExpr) (args : List SrcExpr)
  | member (obj : SrcExpr) (prop : String)
  | privateMember (obj : SrcExpr)
  | index (obj idx : SrcExpr)
  /-- an arrow function: its parameters (names, or a mark for destructuring), whether its body
  is a single expression, and its body statements -/
  | arrow (params : List SrcExpr) (concise : Bool) (body : List SrcStmt)
  | assign (op : String) (target value : SrcExpr)
  | update (op : String) (target : SrcExpr)
  /-- any other expression form -/
  | other

/-- A statement as written; directives are dropped by the parser. -/
inductive SrcStmt where
  | expr (e : SrcExpr)
  | block (body : List SrcStmt)
  | cond (test : SrcExpr) (thenS : SrcStmt) (elseS : Option SrcStmt)
  | empty
  /-- any other statement form -/
  | other
end

instance : Inhabited SrcExpr := ⟨.other⟩
instance : Inhabited SrcStmt := ⟨.other⟩

end Reactive.Script
