import Reactive.Component.Source
import Reactive.Component.Error
import Reactive.Script.Expr

/-!
The scope of a component: what each name refers to. A name is a state variable, a derived
value, a handler, a callback, or one of the host globals (`Math`, `String`, `Number`,
`Boolean`, `parseInt`, `parseFloat`, `isNaN`, `console`). Only state and derived values are
*reactive*: they are the producers of the dependency graph.

Resolving an expression checks that every function it calls by name is a host global and that
every free name it reads is reactive or global; its dependency set is the reactive names it
reads, in order of first occurrence. A handler body may assign only state variables and may
request updates only for reactive names.
-/

namespace Reactive.Component

open Script

/-- What a name in a component's scope refers to. -/
inductive NameKind where
  | state | derived | handler | callback | global
  deriving Inhabited, BEq, DecidableEq

/-- Whether names of this kind are producers of the dependency graph. -/
def NameKind.isReactive : NameKind → Bool
  | .state | .derived => true
  | _ => false

/-- Host globals an expression may read without declaring them; never dependencies. -/
def hostGlobals : List String :=
  ["Math", "String", "Number", "Boolean", "parseInt", "parseFloat", "isNaN", "console"]

/-- What an event refers to: a handler of the component or a callback passed by its parent. -/
inductive HandlerTarget where
  | handler (name : String)
  | callback (name : String)
  deriving Inhabited

/-- The names of one component with their kinds. -/
structure Scope where
  component : String
  names : List (String × NameKind)
  deriving Inhabited

namespace Scope

/-- The scope of a component description: states, derived values, handlers, callbacks; a later
declaration of a name takes its place. -/
def ofSource (c : ComponentSource) : Scope where
  component := c.name
  names := (c.callbacks.map (·, NameKind.callback)) ++ (c.handlers.map (·.name, NameKind.handler)) ++
    (c.derived.map (·.name, NameKind.derived)) ++ (c.states.map (·.name, NameKind.state))

/-- What a name refers to, if anything. -/
def classify (s : Scope) (n : String) : Option NameKind :=
  match s.names.find? (·.1 == n) with
  | some (_, k) => some k
  | none => if hostGlobals.contains n then some .global else none

/-- The error for a name that does not resolve in a declaration of this component. -/
def unresolved (s : Scope) (name declaration : String) : CompileError :=
  .unresolved name (declaration ++ " of <" ++ s.component ++ ">")

/-- Whether a name is reactive in this scope. -/
def isReactive (s : Scope) (n : String) : Bool :=
  match s.classify n with
  | some k => k.isReactive
  | none => false

/-- Checks the names an expression calls: host globals only. -/
def checkCalls (s : Scope) (declaration : String) : List String → Except CompileError Unit
  | [] => pure ()
  | t :: rest =>
    if s.classify t == some .global then s.checkCalls declaration rest
    else throw (s.unresolved t declaration)

/-- The reactive names among names read, in order; any name neither reactive nor global is an
error. -/
def readNames (s : Scope) (declaration : String) : List String → Except CompileError (List String)
  | [] => pure []
  | n :: rest =>
    match s.classify n with
    | some k =>
      if k.isReactive then do pure (n :: (← s.readNames declaration rest))
      else if k == .global then s.readNames declaration rest
      else throw (s.unresolved n declaration)
    | none => throw (s.unresolved n declaration)

/-- Resolves every name an expression reads and gives its dependency set. -/
def dependencies (s : Scope) (e : Expr) (declaration : String) : Except CompileError (List String) := do
  s.checkCalls declaration e.callTargets
  s.readNames declaration e.freeNames

/-- Checks a written-out dependency list: reactive names only, repeats dropped. -/
def annotated (s : Scope) (declaration : String) : List String → List String →
    Except CompileError (List String)
  | [], acc => pure acc
  | n :: rest, acc =>
    if s.isReactive n then s.annotated declaration rest (addName acc n)
    else throw (s.unresolved n declaration)

/-- Checks that a handler may assign a name: only state variables. -/
def checkAssignable (s : Scope) (target handler : String) : Except CompileError Unit :=
  match s.classify target with
  | some .state => pure ()
  | some .derived => throw (.derivedAssignment target handler)
  | _ => throw (s.unresolved target ("handler '" ++ handler ++ "'"))

/-- Checks the names of an update request: reactive names only. -/
def checkRequested (s : Scope) (declaration : String) : List String → Except CompileError Unit
  | [] => pure ()
  | n :: rest =>
    if s.isReactive n then s.checkRequested declaration rest
    else throw (s.unresolved n declaration)

/-- Checks the expressions of a statement, in order. -/
def checkExpressions (s : Scope) (declaration : String) : List Expr → Except CompileError Unit
  | [] => pure ()
  | e :: rest => do
    let _ ← s.dependencies e declaration
    s.checkExpressions declaration rest

mutual
/-- Checks a handler body: for each statement, first every expression it evaluates (at any
depth), then what it assigns or requests, then the branches of a conditional. -/
def checkStmts (s : Scope) (handler : String) : List Stmt → Except CompileError Unit
  | [] => pure ()
  | st :: rest => do
    checkStmt s handler st
    checkStmts s handler rest

/-- Checks one statement of a handler body. -/
def checkStmt (s : Scope) (handler : String) : Stmt → Except CompileError Unit
  | .assign t op v => do
    s.checkExpressions ("handler '" ++ handler ++ "'") (Stmt.assign t op v).expressions
    s.checkAssignable t handler
  | .update t op => do
    s.checkExpressions ("handler '" ++ handler ++ "'") (Stmt.update t op).expressions
    s.checkAssignable t handler
  | .requestUpdate names => s.checkRequested ("handler '" ++ handler ++ "'") names
  | .cond test a b => do
    s.checkExpressions ("handler '" ++ handler ++ "'") (Stmt.cond test a b).expressions
    checkStmts s handler a
    checkStmts s handler b
  | .eval e => s.checkExpressions ("handler '" ++ handler ++ "'") [e]
end

/-- Resolves the name an event refers to: a handler or a callback. -/
def resolveHandler (s : Scope) (name declaration : String) : Except CompileError HandlerTarget :=
  match s.classify name with
  | some .handler => pure (.handler name)
  | some .callback => pure (.callback name)
  | _ => throw (s.unresolved name declaration)

end Scope

end Reactive.Component
