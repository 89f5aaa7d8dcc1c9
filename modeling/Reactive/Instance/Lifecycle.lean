import Reactive.Instance.Basic

/-!
The life of an instance: mount, propagation passes, events, and unmount.

*Mount* takes the props the plan accepts, initializes states (those not already given a value)
and derived values, creates the host nodes with their static attributes, writes every binding,
subscribes every event whose handler is known, then places nodes and nested instances in
document order, mounting each nested instance as it is reached.

*A flush* runs passes while names are pending: each pass takes the pending names, recomputes the
derived values that depend on them, rewrites the bindings and forwards the value props that
depend on what changed (after which the nested instance's outbox is routed), and routes the keys
fired by attribute writes. Names requested while a flush runs are only buffered. When names are
still pending after a pass, the *buffer* policy leaves them for the next update and the
*redrain* policy runs another pass, failing with an update loop after the allowed number of
extra passes.

*Dispatch* runs a handler on the instance of the tree that owns its key and flushes the names the
handler requests once. A fired key is *routed*: dispatched when this subtree owns it, put in the
outbox otherwise, where the parent routes it in turn.

*Unmount* ends the subscriptions and removes the container's nodes, both in reverse, and under
the recursive teardown unmounts the mounted nested instances, last first.

Every operation keeps the changes it made before it failed. Nested calls carry a depth bound
that no run of a finite program reaches.
-/

namespace Reactive

open Component

/-- An instance opened for an operation, with the scene. -/
structure Cursor where
  self : InstanceState
  children : List Instance
  scene : Scene

/-- An operation on an instance; a failure keeps the changes made before it. -/
abbrev Act := ExceptT InstanceError (StateM Cursor)

namespace Act

/-- What the instance holds. -/
def self : Act InstanceState := return (← get).self

/-- Changes what the instance holds. -/
def modifySelf (f : InstanceState → InstanceState) : Act Unit :=
  modify fun c => { c with self := f c.self }

/-- Runs a host operation with a result. -/
def host {α : Type} (f : Host → α × Host) : Act α :=
  modifyGet fun c =>
    let (a, h) := f c.scene.host
    (a, { c with scene := { c.scene with host := h } })

/-- Runs a host operation. -/
def onHost (f : Host → Host) : Act Unit :=
  modify fun c => { c with scene := { c.scene with host := f c.scene.host } }

/-- A fresh instance number. -/
def freshId : Act Nat :=
  modifyGet fun c => (c.scene.nextInstance, { c with scene := { c.scene with nextInstance := c.scene.nextInstance + 1 } })

/-- Fails unless the instance is mounted. -/
def ensureMounted : Act Unit := do
  let s ← self
  if s.phase != .mounted then throw (.notMounted s.plan.name)

/-- Fails for a nesting deeper than the bound. -/
def tooDeep : Act Unit := do throw (.tooDeep (← self).plan.name)

/-- Runs an operation and returns its outcome instead of failing. -/
def attempt {α : Type} (a : Act α) : Act (Except InstanceError α) := ExceptT.lift a.run

/-- Runs an operation on an instance. -/
def runOn {α : Type} (a : Act α) (i : Instance) (scene : Scene) :
    Except InstanceError α × Instance × Scene :=
  let (r, c) := a.run.run ⟨i.state, i.children, scene⟩
  (r, .node c.self c.children, c.scene)

/-- Runs an operation on a nested instance; there is nothing to do for a missing index. -/
def onChild (index : Nat) (a : Act Unit) : Act Unit := do
  let c ← get
  match c.children[index]? with
  | none => pure ()
  | some child =>
    let (r, child, scene) := runOn a child c.scene
    set { c with children := c.children.set index child, scene }
    match r with
    | .ok () => pure ()
    | .error e => throw e

/-- Writes a value to the target of a binding of node `index`. -/
def write (index : Nat) (target : BindingTarget) (value : String) : Act Unit := do
  let handle := (← self).nodes.getD index 0
  match target with
  | .text => onHost (·.setText handle value)
  | .attribute name => onHost (·.setAttribute handle name value)
  modifySelf fun s => { s with stats := { s.stats with bindingWrites := s.stats.bindingWrites + 1 } }

/-- Creates the host node of a planned node. -/
def createNode : NodeKind → Act Nat
  | .element tag attributes => host fun h =>
    let (el, h) := h.createElement tag
    (el, attributes.foldl (fun h (k, v) => h.setAttribute el k v) h)
  | .text value => host (·.createText value)

/-- One propagation pass: recomputes the derived values that depend on the pending names, then
rewrites what depends on what changed (`apply`) and handles fired keys (`drain`); asks for one more
pass when names are pending again and the policy redrains. -/
def passWith (apply : List String → Act Unit) (drain : Act Unit) (redrain : Bool) : Act Bool := do
  let s ← self
  let (s, changed) := s.derivedPass s.pending
  modifySelf fun _ => { s with pending := [], stats := { s.stats with passes := s.stats.passes + 1 } }
  apply changed
  drain
  return !(← self).pending.isEmpty && redrain

/-- Rewrites, in order, the bindings that depend on a changed name. -/
def writeBindings (changed : List String) : List BindingPlan → Act Unit
  | [] => pure ()
  | b :: bs => do
    if b.dependencies.any changed.contains then
      let s ← self
      write b.node b.target (Eval.eval s.values b.expr).toText
    writeBindings changed bs

/-- Forwards, for each nested instance of the list that is mounted, the value props that depend
on a changed name (`update`), then handles what it left in its outbox (`collect`). -/
def forwardProps (changed : List String) (update : Props → Act Unit) (collect : Nat → Act Unit) :
    List Nat → Act Unit
  | [] => pure ()
  | index :: rest => do
    let props := (← self).childProps index (some changed)
    let mounted := ((← get).children[index]?).any (·.isMounted)
    if !props.isEmpty && mounted then
      onChild index (update props)
      collect index
    forwardProps changed update collect rest

/-- How a flush ends whose passes keep asking for more. Its extra passes are counted in a
32-bit counter that is increased before it is compared with `limit`. Below the largest 32-bit
number the counter passes the limit, and the flush is an update loop of `component`; at that
number it never does, and the increment past it overflows. -/
def loopEnd (component : String) (limit : UInt32) : InstanceError :=
  if limit.toNat < UInt32.size - 1 then .updateLoop component limit.toNat
  else .counterOverflow component

/-- Runs `pass`, and again while it asks for one more pass, at most `k` more times; asking once
more after that ends as `loopEnd component limit` says. A flush starts it at `k = limit`: the
increments its counter can take before it passes the limit or overflows. -/
def repeatPass (component : String) (limit : UInt32) (pass : Act Bool) : Nat → Act Unit
  | 0 => do if ← pass then throw (loopEnd component limit)
  | k + 1 => do if ← pass then repeatPass component limit pass k

end Act

namespace Instance

mutual
/-- Mounts the instance into a container with props. -/
def mount (prog : Program) : Nat → Nat → Props → Act Unit
  | 0, _, _ => Act.tooDeep
  | depth + 1, container, props => do
    let s ← Act.self
    let plan := s.plan
    if s.phase != .created then throw (.alreadyMounted plan.name)
    match prog.checkTree plan with
    | .error e => throw e
    | .ok () => pure ()
    let childPlans ← plan.children.mapM fun c =>
      match prog.find? c.component with
      | some p => pure p
      | none => throw (.unknownComponent c.component)
    Act.modifySelf fun s => (s.acceptProps props).seedValues
    for node in plan.nodes do
      let handle ← Act.createNode node.kind
      Act.modifySelf fun s => { s with nodes := s.nodes ++ [handle] }
    for b in plan.bindings do
      let s ← Act.self
      Act.write b.node b.target (Eval.eval s.values b.expr).toText
    for ev in plan.events do
      let s ← Act.self
      match s.keyOf? ev.handler with
      | none => pure ()
      | some key =>
        let sub ← Act.host (·.subscribe (s.nodes.getD ev.node 0) ev.event key)
        Act.modifySelf fun s => { s with subscriptions := s.subscriptions ++ [sub] }
    Act.modifySelf fun s => { s with container := some container }
    place prog depth container childPlans
    Act.modifySelf fun s =>
      { s with phase := .mounted, stats := { s.stats with mounts := s.stats.mounts + 1 } }

/-- Attaches nodes and mounts nested instances in document order. -/
def place (prog : Program) : Nat → Nat → List ComponentPlan → Act Unit
  | 0, _, _ => Act.tooDeep
  | depth + 1, container, childPlans => do
    let plan := (← Act.self).plan
    for placement in plan.placements do
      let s ← Act.self
      match placement with
      | .node i =>
        let handle := s.nodes.getD i 0
        match (plan.nodes[i]?).bind (·.parent) with
        | some p => Act.onHost (·.appendChild (s.nodes.getD p 0) handle)
        | none =>
          Act.onHost (·.appendChild container handle)
          Act.modifySelf fun s => { s with roots := s.roots ++ [handle] }
      | .child i =>
        let target := match (plan.children[i]?).bind (·.parent) with
          | some p => s.nodes.getD p 0
          | none => container
        let props := s.childProps i none
        let id ← Act.freshId
        let c ← get
        let (r, child, scene) :=
          Act.runOn (mount prog depth target props) (fresh id (childPlans.getD i default)) c.scene
        set { c with scene }
        match r with
        | .error e => throw e
        | .ok () => modify fun c => { c with children := c.children ++ [child] }

/-- Rewrites the bindings that depend on a changed name and forwards the value props that do to
mounted nested instances, routing each one's outbox after it. -/
def applyChanges (prog : Program) : Nat → List String → Act Unit
  | 0, _ => Act.tooDeep
  | depth + 1, changed => do
    Act.writeBindings changed (← Act.self).plan.bindings
    let count := (← get).children.length
    Act.forwardProps changed (updateProps prog depth) (collectOutbox prog depth) (List.range count)

/-- Takes new value props from the parent and flushes the names of those taken. -/
def updateProps (prog : Program) : Nat → Props → Act Unit
  | 0, _ => Act.tooDeep
  | depth + 1, props => do
    Act.ensureMounted
    Act.modifySelf fun s => { s with stats := { s.stats with propUpdates := s.stats.propUpdates + 1 } }
    let (s, names) := (← Act.self).takeValueProps props
    Act.modifySelf fun _ => s
    if !names.isEmpty then requestUpdate prog depth names

/-- Buffers names for a pass, and flushes unless a flush is running. -/
def requestUpdate (prog : Program) : Nat → List String → Act Unit
  | 0, _ => Act.tooDeep
  | depth + 1, names => do
    Act.ensureMounted
    Act.modifySelf fun s => { s with pending := insertNames names s.pending }
    if !(← Act.self).flushing then flush prog depth

/-- Runs passes while names are pending, as the reentrancy policy says. -/
def flush (prog : Program) : Nat → Act Unit
  | 0 => Act.tooDeep
  | depth + 1 => do
    Act.modifySelf fun s => { s with flushing := true }
    let pass := Act.passWith (applyChanges prog depth) (drainFired prog depth)
      (prog.options.reentrancy == .redrain)
    let limit := prog.options.maxRedrainPasses
    let r ← Act.attempt (Act.repeatPass (← Act.self).plan.name limit pass limit.toNat)
    Act.modifySelf fun s => { s with flushing := false }
    match r with
    | .ok () => pure ()
    | .error e => throw e

/-- Runs the handler of a key on the instance of this tree that owns it. -/
def dispatch (prog : Program) : Nat → HandlerKey → Act Unit
  | 0, _ => Act.tooDeep
  | depth + 1, key => do
    Act.ensureMounted
    let s ← Act.self
    if key.owner == s.id then
      match s.plan.handlers[key.handler]? with
      | none => throw (.unknownHandler key.text)
      | some h =>
        let (values, requested) := Eval.execAll s.values [] h.body
        Act.modifySelf fun s => { s with values }
        requestUpdate prog depth requested
    else
      match (← get).children.findIdx? (·.owns key) with
      | none => throw (.unknownHandler key.text)
      | some index =>
        Act.onChild index (dispatch prog depth key)
        collectOutbox prog depth index

/-- Dispatches a fired key this subtree owns, or puts it in the outbox. -/
def route (prog : Program) : Nat → HandlerKey → Act Unit
  | 0, _ => Act.tooDeep
  | depth + 1, key => do
    let c ← get
    if (Instance.node c.self c.children).owns key then dispatch prog depth key
    else Act.modifySelf fun s => { s with outbox := s.outbox ++ [key] }

/-- Routes the keys fired by attribute writes. -/
def drainFired (prog : Program) : Nat → Act Unit
  | 0 => Act.tooDeep
  | depth + 1 => do
    let keys ← Act.host Host.takeFired
    for key in keys do route prog depth key

/-- Routes the outbox of a nested instance. -/
def collectOutbox (prog : Program) : Nat → Nat → Act Unit
  | 0, _ => Act.tooDeep
  | depth + 1, index => do
    let c ← get
    match c.children[index]? with
    | none => pure ()
    | some (.node cs gs) =>
      set { c with children := c.children.set index (.node { cs with outbox := [] } gs) }
      for key in cs.outbox do route prog depth key

/-- Unmounts the instance. -/
def unmount (prog : Program) : Nat → Act Unit
  | 0 => Act.tooDeep
  | depth + 1 => do
    Act.ensureMounted
    let s ← Act.self
    for sub in s.subscriptions.reverse do Act.onHost (·.unsubscribe sub)
    Act.modifySelf fun s => { s with subscriptions := [] }
    match s.container with
    | some c =>
      for node in s.roots.reverse do Act.onHost (·.removeChild c node)
      Act.modifySelf fun s => { s with roots := [], container := none }
    | none => pure ()
    Act.modifySelf fun s => { s with nodes := [] }
    if prog.options.teardown == .recursive then
      let count := (← get).children.length
      for index in (List.range count).reverse do
        if ((← get).children[index]?).any (·.isMounted) then
          Act.onChild index (unmount prog depth)
    Act.modifySelf fun s => { s with pending := [], phase := .unmounted }
end

/-- The reserve of every depth bound: how deep events and updates may nest above what the
nesting of the tree itself takes. -/
def depthLimit : Nat := 10000

end Instance

/-- How deep events and updates started from outside may nest. An update goes down the tree
taking four steps of the bound per level of nesting (the changes applied, the props taken, the
request and the flush), and the nesting of a program whose composition was checked is no deeper
than its number of plans; the bound grows with the plans above the reserve. -/
def Program.eventDepth (prog : Program) : Nat := Instance.depthLimit + 4 * prog.plans.length

namespace Instance

/-- Runs a handler of this instance by name. -/
def fire (prog : Program) (name : String) : Act Unit := do
  let s ← Act.self
  match s.handlerKey? name with
  | none => throw (.unknownHandler (name ++ " of <" ++ s.plan.name ++ ">"))
  | some key => dispatch prog prog.eventDepth key

/-- Rewrites bindings and forwards props for the given names, without a derived pass. -/
def apply (prog : Program) (names : List String) : Act Unit := do
  Act.ensureMounted
  applyChanges prog prog.eventDepth (insertNames names [])

/-- Sets a value without a pass. -/
def assign (name : String) (v : Value) : Act Unit :=
  Act.modifySelf fun s => { s with values := s.values.set name v }

/-- The fired keys no instance of this tree owns, taken from the outbox. -/
def takeUnowned : Act (List HandlerKey) := do
  let keys := (← Act.self).outbox
  Act.modifySelf fun s => { s with outbox := [] }
  return keys

end Instance

/-- How deep mount and unmount may nest. Each goes down the tree one level of nesting at a
time, mount taking two steps of the bound per level; the nesting of a program whose composition
was checked is no deeper than its number of plans, so a mount or unmount of it never reaches the
bound. -/
def Program.mountDepth (prog : Program) : Nat := Instance.depthLimit + 2 * prog.plans.length

end Reactive
