import Reactive.Component.Scope
import Reactive.Script.Lower

/-!
The declaration model of a component: every initializer, derived body and handler body read and
lowered, with its names resolved.

* A state initializer may read only state declared before it (initializers run in order).
* A derived declaration's dependencies are the reactive names its body reads, or, when written
  out, that list checked and without repeats (the body is still resolved).
* A handler body's update requests are taken out of the body; what the handler *mutates* is the
  names it assigns followed by the names it requests, without repeats.
-/

namespace Reactive.Component

open Script

/-- A state variable with its lowered initializer. -/
structure StateDecl where
  name : String
  init : Expr
  deriving Inhabited

/-- A derived declaration with its lowered body and resolved dependencies. -/
structure DerivedDecl where
  name : String
  body : Expr
  dependencies : List String
  deriving Inhabited

/-- A handler with its lowered body (update requests removed) and the names it mutates. -/
structure HandlerDecl where
  name : String
  body : List Stmt
  mutates : List String
  deriving Inhabited

/-- The declarations of a component, lowered and resolved. -/
structure Model where
  component : String
  states : List StateDecl
  derived : List DerivedDecl
  handlers : List HandlerDecl
  props : List String
  callbacks : List String
  deriving Inhabited

/-- Reads and lowers an expression text, as a compile error when it fails. -/
def compileExpr (code origin : String) : Except CompileError Expr :=
  (compileExpression code origin).mapError .invalidExpression

/-- Reads and lowers a handler body text, as a compile error when it fails. -/
def compileBody (code origin : String) : Except CompileError (List Stmt) :=
  (compileStatements code origin).mapError .invalidExpression

/-- Lowers state initializers in order; each may read only the states before it (`earlier`). -/
def buildStates (scope : Scope) (component : String) :
    List StateSource → List String → Except CompileError (List StateDecl)
  | [], _ => pure []
  | st :: rest, earlier => do
    let origin := "initializer of '" ++ st.name ++ "'"
    let init ← compileExpr st.init origin
    let deps ← scope.dependencies init origin
    match deps.find? (fun d => !earlier.contains d) with
    | some d => throw (.unresolved d (origin ++ " of <" ++ component ++ ">"))
    | none => pure ()
    pure (⟨st.name, init⟩ :: (← buildStates scope component rest (earlier ++ [st.name])))

/-- Lowers one derived declaration and resolves its dependencies. -/
def buildDerived (scope : Scope) (d : DerivedSource) : Except CompileError DerivedDecl := do
  let origin := "derived '" ++ d.name ++ "'"
  let body ← compileExpr d.body origin
  let inferred ← scope.dependencies body origin
  let deps ← match d.dependencies with
    | some written => scope.annotated origin written []
    | none => pure inferred
  pure ⟨d.name, body, deps⟩

/-- Lowers one handler, checks it, and collects what it mutates. -/
def buildHandler (scope : Scope) (h : HandlerSource) : Except CompileError HandlerDecl := do
  let origin := "handler '" ++ h.name ++ "'"
  let lowered ← compileBody h.body origin
  scope.checkStmts h.name lowered
  let mutates := addNames (assignedNames lowered) (requestedNames lowered)
  pure ⟨h.name, withoutRequests lowered, mutates⟩

/-- The declaration model of a component: states, then derived declarations, then handlers. -/
def Model.build (c : ComponentSource) (scope : Scope) : Except CompileError Model := do
  let states ← buildStates scope c.name c.states []
  let derived ← c.derived.mapM (buildDerived scope)
  let handlers ← c.handlers.mapM (buildHandler scope)
  pure ⟨c.name, states, derived, handlers, c.props, c.callbacks⟩

end Reactive.Component
