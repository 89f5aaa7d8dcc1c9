/-!
The expression language of components. Source expressions and handler bodies are lowered to
this small language: literals, names, templates, arrays, unary, binary and short-circuit
operators, conditionals, calls of named functions and of methods, property and index access,
and one-expression lambdas. Handler bodies are lists of statements: assignments (plain or
compound), increments, conditionals, expressions run for effect, and explicit update requests.

The analyses here read names off an expression: the free names it reads (lambda parameters
bound, called function names excluded, method receivers included), the functions it calls by
name, and for handler bodies the names they assign and the names they request updates for.
Each list is in order of first occurrence, without repeats.
-/

namespace Reactive.Script

/-- Prefix operators. -/
inductive UnaryOp where
  | neg | plus | not | typeOf
  deriving Repr, Inhabited, BEq, DecidableEq

/-- Arithmetic, equality and comparison operators. -/
inductive BinaryOp where
  | add | sub | mul | div | rem | exp
  | eq | notEq | strictEq | strictNotEq
  | lt | ltEq | gt | gtEq
  deriving Repr, Inhabited, BEq, DecidableEq

/-- Short-circuit operators. -/
inductive LogicalOp where
  | and | or | coalesce
  deriving Repr, Inhabited, BEq, DecidableEq

/-- Assignment operators: plain, or compound with an arithmetic operator. -/
inductive AssignOp where
  | assign | add | sub | mul | div | rem
  deriving Repr, Inhabited, BEq, DecidableEq

/-- Increment and decrement. -/
inductive UpdateOp where
  | increment | decrement
  deriving Repr, Inhabited, BEq, DecidableEq

/-- Expressions of the component language. -/
inductive Expr where
  | undefined
  | null
  | bool (b : Bool)
  | number (x : Float)
  | str (s : String)
  | ident (name : String)
  /-- a template: `quasis` are the text pieces, each followed by the expression of the same
  index when there is one -/
  | template (quasis : List String) (exprs : List Expr)
  | array (elems : List Expr)
  | unary (op : UnaryOp) (arg : Expr)
  | binary (op : BinaryOp) (lhs rhs : Expr)
  | logical (op : LogicalOp) (lhs rhs : Expr)
  | cond (test consequent alternate : Expr)
  /-- a call of a function by its name -/
  | callFn (name : String) (args : List Expr)
  /-- a call of a method on a receiver -/
  | callMethod (recv : Expr) (method : String) (args : List Expr)
  | member (obj : Expr) (prop : String)
  | index (obj idx : Expr)
  | lambda (params : List String) (body : Expr)
  deriving Inhabited

/-- Statements of handler bodies. -/
inductive Stmt where
  | assign (target : String) (op : AssignOp) (value : Expr)
  | update (target : String) (op : UpdateOp)
  | cond (test : Expr) (thenB elseB : List Stmt)
  | eval (e : Expr)
  | requestUpdate (names : List String)
  deriving Inhabited

/-- Appends a name unless it is already listed. -/
def addName (acc : List String) (n : String) : List String :=
  if acc.contains n then acc else acc ++ [n]

/-- Appends names that are not yet listed, in order. -/
def addNames (acc : List String) (ns : List String) : List String :=
  ns.foldl addName acc

mutual
/-- Free names read by an expression, appended to `acc`; names in `bound` are lambda parameters. -/
def Expr.freeInto (bound : List String) (acc : List String) : Expr → List String
  | .ident n => if bound.contains n then acc else addName acc n
  | .template _ es => freeIntoList bound acc es
  | .array es => freeIntoList bound acc es
  | .unary _ a => a.freeInto bound acc
  | .binary _ l r => r.freeInto bound (l.freeInto bound acc)
  | .logical _ l r => r.freeInto bound (l.freeInto bound acc)
  | .cond t c a => a.freeInto bound (c.freeInto bound (t.freeInto bound acc))
  | .callFn _ args => freeIntoList bound acc args
  | .callMethod recv _ args => freeIntoList bound (recv.freeInto bound acc) args
  | .member o _ => o.freeInto bound acc
  | .index o i => i.freeInto bound (o.freeInto bound acc)
  | .lambda ps body => body.freeInto (bound ++ ps) acc
  | _ => acc

/-- Free names of a list of expressions, in order. -/
def freeIntoList (bound : List String) (acc : List String) : List Expr → List String
  | [] => acc
  | e :: es => freeIntoList bound (e.freeInto bound acc) es
end

/-- The free names an expression reads, in order of first occurrence. -/
def Expr.freeNames (e : Expr) : List String := e.freeInto [] []

mutual
/-- Names of called functions, appended to `acc` in pre-order. -/
def Expr.callsInto (acc : List String) : Expr → List String
  | .template _ es => callsIntoList acc es
  | .array es => callsIntoList acc es
  | .unary _ a => a.callsInto acc
  | .binary _ l r => r.callsInto (l.callsInto acc)
  | .logical _ l r => r.callsInto (l.callsInto acc)
  | .cond t c a => a.callsInto (c.callsInto (t.callsInto acc))
  | .callFn name args => callsIntoList (addName acc name) args
  | .callMethod recv _ args => callsIntoList (recv.callsInto acc) args
  | .member o _ => o.callsInto acc
  | .index o i => i.callsInto (o.callsInto acc)
  | .lambda _ body => body.callsInto acc
  | _ => acc

/-- Called function names of a list of expressions. -/
def callsIntoList (acc : List String) : List Expr → List String
  | [] => acc
  | e :: es => callsIntoList (e.callsInto acc) es
end

/-- The names of functions an expression calls by name, in order of first occurrence. -/
def Expr.callTargets (e : Expr) : List String := e.callsInto []

mutual
/-- Every expression a statement evaluates: a conditional's test, then those of its branches. -/
def Stmt.expressions : Stmt → List Expr
  | .assign _ _ v => [v]
  | .update _ _ => []
  | .cond t a b => t :: (stmtsExpressions a ++ stmtsExpressions b)
  | .eval e => [e]
  | .requestUpdate _ => []

/-- Every expression of a list of statements. -/
def stmtsExpressions : List Stmt → List Expr
  | [] => []
  | s :: rest => s.expressions ++ stmtsExpressions rest
end

mutual
/-- Names assigned or updated by statements, appended to `acc`. -/
def assignedInto (acc : List String) : List Stmt → List String
  | [] => acc
  | s :: rest => assignedInto (assignedOne acc s) rest

/-- Names assigned or updated by one statement. -/
def assignedOne (acc : List String) : Stmt → List String
  | .assign t _ _ => addName acc t
  | .update t _ => addName acc t
  | .cond _ a b => assignedInto (assignedInto acc a) b
  | _ => acc
end

/-- The names a handler body assigns, in order of first assignment. -/
def assignedNames (body : List Stmt) : List String := assignedInto [] body

mutual
/-- Names requested for update by statements, appended to `acc`. -/
def requestedInto (acc : List String) : List Stmt → List String
  | [] => acc
  | s :: rest => requestedInto (requestedOne acc s) rest

/-- Names requested for update by one statement. -/
def requestedOne (acc : List String) : Stmt → List String
  | .requestUpdate ns => addNames acc ns
  | .cond _ a b => requestedInto (requestedInto acc a) b
  | _ => acc
end

/-- The names a handler body requests updates for, in order of first request. -/
def requestedNames (body : List Stmt) : List String := requestedInto [] body

mutual
/-- A handler body without its update requests, at every depth. -/
def withoutRequests : List Stmt → List Stmt
  | [] => []
  | s :: rest =>
    match s with
    | .requestUpdate _ => withoutRequests rest
    | other => withoutRequestsOne other :: withoutRequests rest

/-- A statement with the update requests inside its branches removed. -/
def withoutRequestsOne : Stmt → Stmt
  | .cond t a b => .cond t (withoutRequests a) (withoutRequests b)
  | s => s
end

end Reactive.Script
