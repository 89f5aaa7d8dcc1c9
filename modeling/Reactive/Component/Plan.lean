import Reactive.Component.Graph
import Reactive.Component.Validate

/-!
The lifecycle plan of a component: the compiled form that both the module emitter and the
runtime read. It holds the state initializers, the derived pass in scheduled order, every host
node in document order with its parent, every binding of an expression to a text node or an
attribute with its dependency set, event subscriptions, handler bodies (each followed by one
update request for what it mutates), nested component instances with their props, and the
placement of nodes and instances in document order.

A binding, derived step or prop is *reactive* when one of its dependencies is volatile; only
reactive ones are rewritten after mount.

Node and instance variables are named `<base>_<n>`: the base is the tag or component name with
every character other than ASCII letters, digits, `_` and `$` replaced by `_` and lowercased
(`txt` for text nodes), and `n` a counter shared by all of them that skips names already taken
by declarations, nested components, reserved names and module globals.
-/

namespace Reactive.Component

open Script

/-- A state variable and its initializer. -/
structure StatePlan where
  name : String
  init : Expr
  deriving Inhabited

/-- A step of the derived pass. -/
structure DerivedStep where
  name : String
  body : Expr
  dependencies : List String
  reactive : Bool
  deriving Inhabited

/-- What a host node is. -/
inductive NodeKind where
  | element (tag : String) (attributes : List (String × String))
  | text (value : String)
  deriving Inhabited

/-- A host node: its variable, kind, and parent node (none for the mount container). -/
structure NodePlan where
  var : String
  kind : NodeKind
  parent : Option Nat
  deriving Inhabited

/-- What a binding writes. -/
inductive BindingTarget where
  | text
  | attribute (name : String)
  deriving Inhabited, BEq

/-- A binding of an expression to a node. -/
structure BindingPlan where
  node : Nat
  target : BindingTarget
  expr : Expr
  dependencies : List String
  reactive : Bool
  deriving Inhabited

/-- What an event runs: a handler of the component (by index) or a callback prop. -/
inductive HandlerRef where
  | handler (index : Nat)
  | callback (name : String)
  deriving Inhabited, BEq

/-- An event subscription of a node. -/
structure EventPlan where
  node : Nat
  event : String
  handler : HandlerRef
  deriving Inhabited

/-- A handler: its body, ending with one update request for what it mutates. -/
structure HandlerPlan where
  name : String
  body : List Stmt
  mutates : List String
  deriving Inhabited

/-- The value of a prop passed to a nested instance. -/
inductive ChildPropValue where
  | expression (expr : Expr) (dependencies : List String) (reactive : Bool)
  | callback (handler : HandlerRef)
  deriving Inhabited

/-- A prop passed to a nested instance. -/
structure ChildProp where
  name : String
  value : ChildPropValue
  deriving Inhabited

/-- A nested component instance. -/
structure ChildPlan where
  var : String
  component : String
  parent : Option Nat
  props : List ChildProp
  deriving Inhabited

/-- A node or nested instance, in document order. -/
inductive Placement where
  | node (index : Nat)
  | child (index : Nat)
  deriving Inhabited, BEq

/-- The lifecycle plan of a component. -/
structure ComponentPlan where
  name : String
  states : List StatePlan
  derived : List DerivedStep
  nodes : List NodePlan
  bindings : List BindingPlan
  events : List EventPlan
  handlers : List HandlerPlan
  children : List ChildPlan
  placements : List Placement
  props : List String
  callbacks : List String
  deriving Inhabited

namespace ComponentPlan

/-- The props a component accepts from a parent: value props, then callbacks. -/
def exported (p : ComponentPlan) : List String := p.props ++ p.callbacks

/-- The index of a handler by name. -/
def handlerIndex (p : ComponentPlan) (name : String) : Option Nat :=
  p.handlers.findIdx? (·.name == name)

/-- Whether a placement is appended straight to the mount container. -/
def isRoot (p : ComponentPlan) : Placement → Bool
  | .node i => ((p.nodes[i]?).map (·.parent.isNone)).getD false
  | .child i => ((p.children[i]?).map (·.parent.isNone)).getD false

/-- The placements appended straight to the mount container. -/
def roots (p : ComponentPlan) : List Placement := p.placements.filter p.isRoot

end ComponentPlan

/-- The dependencies of a prop value: none for callbacks. -/
def ChildPropValue.dependencies : ChildPropValue → List String
  | .expression _ deps _ => deps
  | .callback _ => []

/-! ## Building the plan -/

/-- What the template walk has built so far. -/
structure Builder where
  counter : Nat
  taken : List String
  parent : Option Nat
  nodes : Array NodePlan
  bindings : Array BindingPlan
  events : Array EventPlan
  children : Array ChildPlan
  placements : Array Placement
  deriving Inhabited

/-- The template walk: the builder as state, failing with the first error. -/
abbrev Build := StateT Builder (Except CompileError)

/-- The base of a variable name: characters outside `[A-Za-z0-9_$]` become `_`, then
lowercase. -/
def varBase (stem : String) : String :=
  String.ofList (stem.toList.map fun c =>
    if identPartChar c then (if 'A' ≤ c && c ≤ 'Z' then Char.ofNat (c.toNat + 32) else c) else '_')

/-- The first free variable name `<base>_<n>` from the counter on. -/
def nextVar (stem : String) : Build String := do
  let b ← get
  let base := varBase stem
  let rec find : Nat → Nat → Nat
    | 0, n => n
    | fuel + 1, n => if b.taken.contains (base ++ "_" ++ Number.natText n) then find fuel (n + 1) else n
  let n := find (b.taken.length + 1) b.counter
  let var := base ++ "_" ++ Number.natText n
  set { b with counter := n + 1, taken := var :: b.taken }
  pure var

/-- Adds a node under the current parent and places it. -/
def pushNode (var : String) (kind : NodeKind) : Build Nat := do
  let b ← get
  let index := b.nodes.size
  set { b with nodes := b.nodes.push ⟨var, kind, b.parent⟩,
               placements := b.placements.push (.node index) }
  pure index

/-- Lifts a check into the walk. -/
def liftCheck {α : Type} (x : Except CompileError α) : Build α :=
  match x with
  | .ok a => pure a
  | .error e => throw e

/-- Binds an expression text to a node. -/
def bindExpr (scope : Scope) (node : Nat) (target : BindingTarget) (code origin : String) :
    Build Unit := do
  let expr ← liftCheck (compileExpr code origin)
  let deps ← liftCheck (scope.dependencies expr origin)
  modify fun b => { b with bindings := b.bindings.push ⟨node, target, expr, deps, false⟩ }

/-- Resolves the handler an event or callback prop names. -/
def handlerRef (scope : Scope) (m : Model) (name origin : String) : Except CompileError HandlerRef := do
  match ← scope.resolveHandler name origin with
  | .handler n =>
    match m.handlers.findIdx? (·.name == n) with
    | some i => pure (.handler i)
    | none => throw (.unresolved n origin)
  | .callback n => pure (.callback n)

/-- Adds an element node with its fixed attributes, dynamic attribute bindings and events. -/
def addElement (scope : Scope) (m : Model) (tag : String) (attrs : List Attribute)
    (events : List EventSource) : Build Nat := do
  let var ← nextVar tag
  let fixed := attrs.filterMap fun a => match a.value with
    | .fixed v => some (a.name, v)
    | .dynamic _ => none
  let index ← pushNode var (.element tag fixed)
  for a in attrs do
    match a.value with
    | .dynamic code =>
      bindExpr scope index (.attribute a.name) code ("attribute '" ++ a.name ++ "' of <" ++ tag ++ ">")
    | .fixed _ => pure ()
  for e in events do
    let origin := "'" ++ e.event ++ "' event of <" ++ tag ++ ">"
    let h ← liftCheck (handlerRef scope m e.handler origin)
    modify fun b => { b with events := b.events.push ⟨index, e.event, h⟩ }
  pure index

/-- Adds a nested instance with its props. -/
def addChild (scope : Scope) (m : Model) (name : String) (props : List PropBinding) : Build Unit := do
  let var ← nextVar name
  let mut out : Array ChildProp := #[]
  for p in props do
    let origin := "prop '" ++ p.name ++ "' of <" ++ name ++ ">"
    let value ← match p.value with
      | .expression code => do
        let expr ← liftCheck (compileExpr code origin)
        let deps ← liftCheck (scope.dependencies expr origin)
        pure (ChildPropValue.expression expr deps false)
      | .fixed text => pure (ChildPropValue.expression (.str text) [] false)
      | .callback h => do pure (ChildPropValue.callback (← liftCheck (handlerRef scope m h origin)))
    out := out.push ⟨p.name, value⟩
  modify fun b =>
    let index := b.children.size
    { b with children := b.children.push ⟨var, name, b.parent, out.toList⟩,
             placements := b.placements.push (.child index) }

mutual
/-- Walks a template node: an element is added, then its children are walked under it. -/
def walkNode (scope : Scope) (m : Model) : TemplateNode → Build Unit
  | .element tag attrs events children => do
    let index ← addElement scope m tag attrs events
    let outer := (← get).parent
    modify fun b => { b with parent := some index }
    walkNodes scope m children
    modify fun b => { b with parent := outer }
  | .component name props => addChild scope m name props
  | .text value => do
    let var ← nextVar "txt"
    let _ ← pushNode var (.text value)
  | .expression code => do
    let var ← nextVar "txt"
    let index ← pushNode var (.text "")
    bindExpr scope index .text code "text binding"

/-- Walks template nodes in document order. -/
def walkNodes (scope : Scope) (m : Model) : List TemplateNode → Build Unit
  | [] => pure ()
  | n :: rest => do
    walkNode scope m n
    walkNodes scope m rest
end

/-- Names the emitted module binds before any node variable. -/
def takenNames (c : ComponentSource) : List String :=
  c.states.map (·.name) ++ c.derived.map (·.name) ++ c.handlers.map (·.name) ++ c.callbacks ++
    c.nested ++ reservedNames ++ moduleGlobals

/-- Builds the lifecycle plan of a component. -/
def planComponent (c : ComponentSource) : Except CompileError ComponentPlan := do
  validate c
  let scope := Scope.ofSource c
  let m ← Model.build c scope
  let order ← schedule m
  let start : Builder := ⟨1, takenNames c, none, #[], #[], #[], #[], #[]⟩
  let ((), b) ← (walkNodes scope m c.nodes).run start
  let volatile := volatileNames m
  let isReactive := fun (deps : List String) => deps.any volatile.contains
  let derived := order.filterMap fun i => (m.derived[i]?).map fun d =>
    ({ name := d.name, body := d.body, dependencies := d.dependencies,
       reactive := volatile.contains d.name } : DerivedStep)
  let bindings := b.bindings.toList.map fun bp => { bp with reactive := isReactive bp.dependencies }
  let children := b.children.toList.map fun ch =>
    { ch with props := ch.props.map fun p =>
        match p.value with
        | .expression e deps _ => { p with value := .expression e deps (isReactive deps) }
        | .callback _ => p }
  let handlers := m.handlers.map fun h =>
    ({ name := h.name,
       body := if h.mutates.isEmpty then h.body else h.body ++ [.requestUpdate h.mutates],
       mutates := h.mutates } : HandlerPlan)
  pure {
    name := c.name
    states := m.states.map fun s => ⟨s.name, s.init⟩
    derived := derived
    nodes := b.nodes.toList
    bindings := bindings
    events := b.events.toList
    handlers := handlers
    children := children
    placements := b.placements.toList
    props := c.props
    callbacks := c.callbacks }

end Reactive.Component
