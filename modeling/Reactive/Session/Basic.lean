import Reactive.Instance.Lifecycle
import Reactive.Text.Quoted

/-!
A session drives one root instance of a program through a script of steps against a fresh host
whose container is node 1. A step addresses an instance by a path of child indices from the
root, and a host node as the `index`-th element with a tag under the container in document
order. Each step answers with a reply or a failure: either the instance operation's failure, or
a step that names something that is not there (a child, a node, a subscription, a handler).

Instance numbers start at 0 for the root, and nested instances are numbered in the order they
are made, depth first during mount.
-/

namespace Reactive

open Component

/-- A prop given by a step: a value, the key of a handler of the root by name, a raw key, or a
raw key that could not be read. -/
inductive PropInput where
  | value (v : Value)
  | rootHandler (name : String)
  | key (k : HandlerKey)
  | badKey
  deriving Inhabited

/-- The `index`-th element with a tag under the container. -/
structure NodePick where
  tag : String
  index : Nat
  deriving Inhabited

/-- A step of a session. -/
inductive Step where
  | mount (path : List Nat) (props : List (String × PropInput))
  | fire (path : List Nat) (handler : String)
  /-- dispatch a key; a key that could not be read fails before the instance is looked up -/
  | dispatch (path : List Nat) (key : Option HandlerKey)
  /-- dispatch the `nth` key subscribed to an event of a node -/
  | event (path : List Nat) (node : NodePick) (event : String) (nth : Nat)
  | handlers (node : NodePick) (event : String)
  | handlerKey (path : List Nat) (handler : String)
  | assign (path : List Nat) (name : String) (value : Value)
  | requestUpdate (path : List Nat) (names : List String)
  | apply (path : List Nat) (names : List String)
  | updateProps (path : List Nat) (props : List (String × PropInput))
  | unmount (path : List Nat)
  | exported (path : List Nat)
  | takeUnowned (path : List Nat)
  | fireOnWrite (node : NodePick) (attr event : String)
  /-- subscribe a key; a key that could not be read fails once the node is found -/
  | subscribeForeign (node : NodePick) (event : String) (key : Option HandlerKey)
  | unknown (op : String)
  deriving Inhabited

/-- Why a step failed. -/
inductive StepFailure where
  /-- the step names something that is not there -/
  | missing (message : String)
  | instance (e : InstanceError)
  deriving Inhabited

/-- What a step that succeeded answers. -/
inductive Reply where
  | done
  | key (k : Option HandlerKey)
  | keys (ks : List HandlerKey)
  | exported (names : List String)
  deriving Inhabited

/-- The answer of a step, with the key an event step dispatched, failed or not. -/
structure StepAnswer where
  outcome : Except StepFailure Reply
  dispatched : Option HandlerKey := none
  deriving Inhabited

/-- A root instance of a program with its host. -/
structure Session where
  program : Program
  root : Instance
  scene : Scene
  container : Nat
  deriving Inhabited

/-- Runs an operation on the instance at a path, if there is one. -/
def runAtPath {α : Type} (a : Act α) : List Nat → Instance → Scene →
    Option (Except InstanceError α × Instance × Scene)
  | [], i, scene => some (Act.runOn a i scene)
  | k :: ks, .node st cs, scene =>
    match cs[k]? with
    | none => none
    | some c => (runAtPath a ks c scene).map fun (r, c, scene) => (r, .node st (cs.set k c), scene)

namespace Session

/-- A session of a fresh root instance of a component. -/
def start (program : Program) (name : String) : Except InstanceError Session :=
  match program.find? name with
  | none => .error (.unknownComponent name)
  | some plan =>
    let (container, host) := Host.withContainer
    .ok { program, root := Instance.fresh 0 plan, scene := ⟨host, 1⟩, container }

/-- The host. -/
def host (s : Session) : Host := s.scene.host

/-- Runs an instance operation at a path; the reply is made from its result. -/
def runAt {α : Type} (s : Session) (path : List Nat) (a : Act α) (reply : α → Reply) :
    StepAnswer × Session :=
  match runAtPath a path s.root s.scene with
  | none => (⟨.error (.missing "no such child"), none⟩, s)
  | some (r, root, scene) =>
    let outcome := match r with
      | .ok v => .ok (reply v)
      | .error e => .error (.instance e)
    (⟨outcome, none⟩, { s with root, scene })

/-- The node a step picks. -/
def pick? (s : Session) (p : NodePick) : Option Nat :=
  (s.host.findAll s.container p.tag)[p.index]?

/-- The message of a step whose key could not be read. -/
def badKey : String := "bad key"

/-- Resolves the props a step gives, in order; the first that cannot be resolved fails. -/
def resolveProps (s : Session) (props : List (String × PropInput)) : Except String Props :=
  props.foldlM (fun acc (name, p) =>
    match p with
    | .value v => pure (acc.put name (.value v))
    | .key k => pure (acc.put name (.callback k))
    | .badKey => throw "bad $key"
    | .rootHandler h =>
      match s.root.state.handlerKey? h with
      | some k => pure (acc.put name (.callback k))
      | none => throw ("root has no handler " ++ h)) []

/-- A failure for something the step names that is not there. -/
def missing (s : Session) (message : String) : StepAnswer × Session :=
  (⟨.error (.missing message), none⟩, s)

/-- Changes the host. -/
def onHost (s : Session) (f : Host → Host) : Session :=
  { s with scene := { s.scene with host := f s.scene.host } }

/-- Performs one step. -/
def perform (s : Session) : Step → StepAnswer × Session
  | .mount path props =>
    match s.resolveProps props with
    | .error m => s.missing m
    | .ok props => s.runAt path (Instance.mount s.program s.program.mountDepth s.container props)
        fun _ => .done
  | .fire path h => s.runAt path (Instance.fire s.program h) fun _ => .done
  | .dispatch path k =>
    match k with
    | none => s.missing badKey
    | some k => s.runAt path (Instance.dispatch s.program s.program.eventDepth k) fun _ => .done
  | .event path p ev nth =>
    match s.pick? p with
    | none => s.missing "no such node"
    | some node =>
      match (s.host.handlersFor node ev)[nth]? with
      | none => s.missing "no such subscription"
      | some k =>
        let (a, s) := s.runAt path (Instance.dispatch s.program s.program.eventDepth k) fun _ => .done
        match a.outcome with
        | .error (.missing _) => (a, s)
        | _ => ({ a with dispatched := some k }, s)
  | .handlers p ev =>
    match s.pick? p with
    | none => s.missing "no such node"
    | some node => (⟨.ok (.keys (s.host.handlersFor node ev)), none⟩, s)
  | .handlerKey path h => s.runAt path (return (← Act.self).handlerKey? h) .key
  | .assign path n v => s.runAt path (Instance.assign n v) fun _ => .done
  | .requestUpdate path ns =>
    s.runAt path (Instance.requestUpdate s.program s.program.eventDepth ns) fun _ => .done
  | .apply path ns => s.runAt path (Instance.apply s.program ns) fun _ => .done
  | .updateProps path props =>
    match s.resolveProps props with
    | .error m => s.missing m
    | .ok props =>
      s.runAt path (Instance.updateProps s.program s.program.eventDepth props) fun _ => .done
  | .unmount path => s.runAt path (Instance.unmount s.program s.program.mountDepth) fun _ => .done
  | .exported path => s.runAt path (return (← Act.self).plan.exported) .exported
  | .takeUnowned path => s.runAt path Instance.takeUnowned .keys
  | .fireOnWrite p attr ev =>
    match s.pick? p with
    | none => s.missing "no such node"
    | some node => (⟨.ok .done, none⟩, s.onHost (·.fireOnWrite node attr ev))
  | .subscribeForeign p ev k =>
    match s.pick? p, k with
    | none, _ => s.missing "no such node"
    | some _, none => s.missing badKey
    | some node, some k => (⟨.ok .done, none⟩, s.onHost fun h => (h.subscribe node ev k).2)
  | .unknown op => s.missing ("unknown step op " ++ Text.quoted op)

/-- Performs one step with a fresh call log. -/
def step (s : Session) (st : Step) : StepAnswer × Session :=
  (s.onHost Host.clearCalls).perform st

end Session

end Reactive
