import Reactive.Host
import Reactive.Eval
import Reactive.Component.Plan
import Reactive.Component.Options

/-!
Component instances. An instance runs one compiled plan: it holds the values of its states,
derived declarations and value props, the names waiting for the next propagation pass, the host
nodes and subscriptions it made, the keys of the callbacks its parent gave it, the fired keys its
subtree does not own (its outbox), counters, and its nested instances.

A program is a set of compiled plans that can instantiate one another; when two plans share a
name the later one is found. Before an instance makes any host node, every component reachable
from its plan must be found (`Program.checkTree`).
-/

namespace Reactive

open Component

/-- Why an operation on an instance failed. -/
inductive InstanceError where
  | alreadyMounted (component : String)
  | notMounted (component : String)
  | unknownComponent (name : String)
  | unknownHandler (handler : String)
  | updateLoop (component : String) (passes : Nat)
  /-- the 32-bit count of extra passes of a flush was increased past its largest value, which
  aborts the run -/
  | counterOverflow (component : String)
  /-- events and updates nested deeper than any finite run reaches -/
  | tooDeep (component : String)
  deriving Inhabited

namespace InstanceError

/-- The name of the kind of failure. -/
def kind : InstanceError → String
  | .alreadyMounted _ => "AlreadyMounted"
  | .notMounted _ => "NotMounted"
  | .unknownComponent _ => "UnknownComponent"
  | .unknownHandler _ => "UnknownHandler"
  | .updateLoop _ _ => "UpdateLoop"
  | .counterOverflow _ => "Panic"
  | .tooDeep _ => "TooDeep"

/-- The message of a failure. -/
def message : InstanceError → String
  | .alreadyMounted c => "<" ++ c ++ "> has already been mounted"
  | .notMounted c => "<" ++ c ++ "> is not mounted"
  | .unknownComponent n => "No compiled component named <" ++ n ++ ">"
  | .unknownHandler h => "No mounted instance owns handler " ++ h
  | .updateLoop c n =>
    "<" ++ c ++ "> kept requesting updates after " ++ Number.natText n ++ " extra passes"
  | .counterOverflow _ => "attempt to add with overflow"
  | .tooDeep c => "<" ++ c ++ "> nested events and updates too deeply"

end InstanceError

/-- A value or a callback handed from a parent to a nested instance. -/
inductive PropValue where
  | value (v : Value)
  | callback (key : HandlerKey)
  deriving Inhabited

/-- Props by name, sorted by name, each name once. -/
abbrev Props := List (String × PropValue)

/-- Sets a prop, keeping the names sorted; a later value of a name replaces the earlier one. -/
def Props.put (name : String) (v : PropValue) : Props → Props
  | [] => [(name, v)]
  | (n, w) :: rest =>
    if name < n then (name, v) :: (n, w) :: rest
    else if name = n then (name, v) :: rest
    else (n, w) :: Props.put name v rest

/-- Adds a name to a sorted list of names, unless it is there. -/
def insertName (n : String) : List String → List String
  | [] => [n]
  | m :: rest =>
    if n < m then n :: m :: rest
    else if n = m then m :: rest
    else m :: insertName n rest

/-- Adds names to a sorted list of names. -/
def insertNames (ns : List String) (acc : List String) : List String :=
  ns.foldl (fun acc n => insertName n acc) acc

/-- Where an instance is in its life. -/
inductive Phase where
  | created
  | mounted
  | unmounted
  deriving Inhabited, BEq, DecidableEq

/-- Counters of what an instance did. -/
structure Stats where
  mounts : Nat := 0
  propUpdates : Nat := 0
  /-- propagation passes run after mount -/
  passes : Nat := 0
  bindingWrites : Nat := 0
  deriving Inhabited

/-- What an instance holds, its nested instances apart. -/
structure InstanceState where
  id : Nat
  plan : ComponentPlan
  phase : Phase := .created
  values : Store := Store.empty
  /-- names buffered for the next propagation pass, sorted -/
  pending : List String := []
  /-- whether a flush of this instance is running -/
  flushing : Bool := false
  container : Option Nat := none
  /-- host nodes of the plan's nodes, by index -/
  nodes : List Nat := []
  /-- the nodes appended to the container -/
  roots : List Nat := []
  subscriptions : List Nat := []
  callbacks : List (String × HandlerKey) := []
  /-- fired keys no instance of this subtree owns -/
  outbox : List HandlerKey := []
  stats : Stats := {}
  deriving Inhabited

/-- An instance and its nested instances, in the order they were made. -/
inductive Instance where
  | node (state : InstanceState) (children : List Instance)
  deriving Inhabited

namespace Instance

/-- A fresh, unmounted instance of a plan. -/
def fresh (id : Nat) (plan : ComponentPlan) : Instance := .node { id, plan } []

/-- What the instance holds. -/
def state : Instance → InstanceState
  | .node s _ => s

/-- The nested instances. -/
def children : Instance → List Instance
  | .node _ cs => cs

/-- Whether the instance is mounted. -/
def isMounted (i : Instance) : Bool := i.state.phase == .mounted

mutual
/-- Whether the instance or one nested in it has the number of a key. -/
def owns (key : HandlerKey) : Instance → Bool
  | .node s cs => s.id == key.owner || ownsAmong key cs

/-- Whether one of the instances, or one nested in them, has the number of a key. -/
def ownsAmong (key : HandlerKey) : List Instance → Bool
  | [] => false
  | i :: is => owns key i || ownsAmong key is
end

/-- The nested instance reached by following child indices. -/
def at? : Instance → List Nat → Option Instance
  | i, [] => some i
  | i, k :: ks => match i.children[k]? with
    | some c => at? c ks
    | none => none

end Instance

namespace InstanceState

/-- The key of a handler of this instance by name. -/
def handlerKey? (s : InstanceState) (name : String) : Option HandlerKey :=
  (s.plan.handlerIndex name).map fun i => ⟨s.id, i⟩

/-- The key an event or a callback prop runs. -/
def keyOf? (s : InstanceState) : HandlerRef → Option HandlerKey
  | .handler i => some ⟨s.id, i⟩
  | .callback name => s.callbacks.lookup name

/-- Takes props at mount: values of value props and keys of callback props; other props are
ignored. -/
def acceptProps (s : InstanceState) (props : Props) : InstanceState :=
  props.foldl (fun s (name, p) =>
    match p with
    | .value v => if s.plan.props.contains name then { s with values := s.values.set name v } else s
    | .callback k =>
      if s.plan.callbacks.contains name then
        { s with callbacks := (s.callbacks.filter (·.1 != name)) ++ [(name, k)] }
      else s) s

/-- Gives each state without a value its initial value, then computes every derived value in
scheduled order. -/
def seedValues (s : InstanceState) : InstanceState :=
  let values := s.plan.states.foldl (fun vs st =>
    if vs.contains st.name then vs else vs.set st.name (Eval.eval vs st.init)) s.values
  let values := s.plan.derived.foldl (fun vs d => vs.set d.name (Eval.eval vs d.body)) values
  { s with values }

/-- Recomputes a derived step that depends on a changed name; its name then counts as changed. -/
def passStep (acc : InstanceState × List String) (d : DerivedStep) : InstanceState × List String :=
  if d.dependencies.any acc.2.contains then
    ({ acc.1 with values := acc.1.values.set d.name (Eval.eval acc.1.values d.body) },
      insertName d.name acc.2)
  else acc

/-- One forward pass over the derived declarations: each one that depends on a changed name is
recomputed and counts as changed. -/
def derivedPass (s : InstanceState) (changed : List String) : InstanceState × List String :=
  s.plan.derived.foldl passStep (s, changed)

/-- Takes one prop after mount: the value of a value prop the plan accepts, whose name is listed
as taken. -/
def takeStep (acc : InstanceState × List String) (prop : String × PropValue) :
    InstanceState × List String :=
  match prop.2 with
  | .value v =>
    if acc.1.plan.props.contains prop.1 then
      ({ acc.1 with values := acc.1.values.set prop.1 v }, acc.2 ++ [prop.1])
    else acc
  | .callback _ => acc

/-- Takes value props after mount and lists the names it took, in order; callback props are
fixed at mount and other props are ignored. -/
def takeValueProps (s : InstanceState) (props : Props) : InstanceState × List String :=
  props.foldl takeStep (s, [])

/-- Adds one prop of a nested instance. With a set of changed names, only a value prop that
depends on one of them; without, every prop, a callback when its key is known. -/
def propStep (s : InstanceState) (changed : Option (List String)) (acc : Props) (prop : ChildProp) :
    Props :=
  match prop.value, changed with
  | .expression e deps _, some ch =>
    if deps.any ch.contains then acc.put prop.name (.value (Eval.eval s.values e)) else acc
  | .expression e _ _, none => acc.put prop.name (.value (Eval.eval s.values e))
  | .callback _, some _ => acc
  | .callback h, none =>
    match s.keyOf? h with
    | some k => acc.put prop.name (.callback k)
    | none => acc

/-- The props of nested instance `index`. With a set of changed names, only the value props
that depend on one of them; without, every prop, callbacks whose key is known included. -/
def childProps (s : InstanceState) (index : Nat) (changed : Option (List String)) : Props :=
  match s.plan.children[index]? with
  | none => []
  | some child => child.props.foldl (propStep s changed) []

/-- The names of states and derived declarations that have a value, with their values. -/
def shownValues (s : InstanceState) : List (String × Value) :=
  (s.plan.states.map (·.name) ++ s.plan.derived.map (·.name)).filterMap fun n =>
    (s.values.get? n).map (n, ·)

end InstanceState

/-- Compiled plans that can instantiate one another, and the runtime options. -/
structure Program where
  plans : List ComponentPlan
  options : RuntimeOptions
  deriving Inhabited

namespace Program

/-- The plan of a component; of two with one name, the later. -/
def find? (p : Program) (name : String) : Option ComponentPlan :=
  p.plans.reverse.find? (·.name == name)

/-- Checks that every component reachable from a plan is found, visiting each name once; `depth`
bounds the nesting, which never exceeds the number of plans. -/
def checkFrom (p : Program) : Nat → ComponentPlan → StateT (List String) (Except InstanceError) Unit
  | 0, _ => pure ()
  | depth + 1, plan => do
    for child in plan.children do
      match p.find? child.component with
      | none => throw (.unknownComponent child.component)
      | some cp =>
        if !(← get).contains child.component then
          modify (· ++ [child.component])
          p.checkFrom depth cp

/-- Checks that every component reachable from a plan is found; the first missing one in
depth-first order is reported. -/
def checkTree (p : Program) (plan : ComponentPlan) : Except InstanceError Unit :=
  (p.checkFrom (p.plans.length + 1) plan).run' []

end Program

/-- The host and the supply of instance numbers that every operation threads. -/
structure Scene where
  host : Host
  nextInstance : Nat
  deriving Inhabited

end Reactive
