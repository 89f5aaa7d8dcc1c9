import Reactive.Number.Format

/-!
The host tree that mounted components draw into, kept in memory. Elements have a tag, sorted
attributes and ordered children; text nodes have a value. Every call the host receives is logged
in order. Node numbers and subscription numbers come from one counter.

A subscription ties an event of a node to a handler key. Writing an attribute may be declared to
fire an event of the same node: the keys subscribed to that event are then queued as fired, and
the runtime takes them from the queue after its next pass.
-/

namespace Reactive

/-- Addresses one entry of one instance's handler table. -/
structure HandlerKey where
  /-- the number of the instance that owns the handler -/
  owner : Nat
  /-- the index of the handler in that instance's table -/
  handler : Nat
  deriving Inhabited, BEq, DecidableEq

/-- A key as written in messages, `#instance:handler`. -/
def HandlerKey.text (k : HandlerKey) : String :=
  "#" ++ Number.natText k.owner ++ ":" ++ Number.natText k.handler

/-- A call the host received. -/
inductive HostCall where
  | createElement (node : Nat) (tag : String)
  | createText (node : Nat) (value : String)
  | append (parent child : Nat)
  | remove (parent child : Nat)
  | setAttribute (node : Nat) (name value : String)
  | setText (node : Nat) (value : String)
  | subscribe (subscription node : Nat) (event : String)
  | unsubscribe (subscription : Nat)
  deriving Inhabited

/-- A node of the host tree; a text node has no tag. -/
structure HostNode where
  tag : Option String
  text : String := ""
  /-- attributes sorted by name -/
  attributes : List (String × String) := []
  children : List Nat := []
  deriving Inhabited

/-- A live subscription. -/
structure Subscription where
  id : Nat
  node : Nat
  event : String
  key : HandlerKey
  deriving Inhabited

/-- A declaration that writing the attribute `attr` of `node` fires its `event`. -/
structure Trigger where
  node : Nat
  attr : String
  event : String
  deriving Inhabited, BEq

/-- The host tree with its call log. -/
structure Host where
  /-- the last number handed out to a node or subscription -/
  lastId : Nat := 0
  nodes : List (Nat × HostNode) := []
  /-- live subscriptions, by increasing number -/
  live : List Subscription := []
  calls : List HostCall := []
  triggers : List Trigger := []
  /-- handler keys fired by attribute writes and not taken yet -/
  fired : List HandlerKey := []
  deriving Inhabited

/-- Sets a value in a list sorted by key, replacing the value of an equal key. -/
def setSorted (k v : String) : List (String × String) → List (String × String)
  | [] => [(k, v)]
  | (k', v') :: rest =>
    if k < k' then (k, v) :: (k', v') :: rest
    else if k = k' then (k, v) :: rest
    else (k', v') :: setSorted k v rest

namespace Host

/-- The node with a number. -/
def node? (h : Host) (id : Nat) : Option HostNode := h.nodes.lookup id

/-- Changes the node with a number, if there is one. -/
def modifyNode (h : Host) (id : Nat) (f : HostNode → HostNode) : Host :=
  { h with nodes := h.nodes.map fun p => if p.1 == id then (p.1, f p.2) else p }

/-- Records a call. -/
def record (h : Host) (c : HostCall) : Host := { h with calls := h.calls ++ [c] }

/-- A new node, not logged. -/
def alloc (h : Host) (n : HostNode) : Nat × Host :=
  let id := h.lastId + 1
  (id, { h with lastId := id, nodes := h.nodes ++ [(id, n)] })

/-- A fresh host with a detached element tagged `root` to mount into, and an empty log. -/
def withContainer : Nat × Host := (default : Host).alloc { tag := some "root" }

/-- Creates an element. -/
def createElement (h : Host) (tag : String) : Nat × Host :=
  let (id, h) := h.alloc { tag := some tag }
  (id, h.record (.createElement id tag))

/-- Creates a text node. -/
def createText (h : Host) (value : String) : Nat × Host :=
  let (id, h) := h.alloc { tag := none, text := value }
  (id, h.record (.createText id value))

/-- Appends a child to a node's children. -/
def appendChild (h : Host) (parent child : Nat) : Host :=
  (h.modifyNode parent fun n => { n with children := n.children ++ [child] }).record
    (.append parent child)

/-- Removes a child from a node's children. -/
def removeChild (h : Host) (parent child : Nat) : Host :=
  (h.modifyNode parent fun n => { n with children := n.children.filter (· != child) }).record
    (.remove parent child)

/-- The keys subscribed to an event of a node, in subscription order. -/
def handlersFor (h : Host) (node : Nat) (event : String) : List HandlerKey :=
  (h.live.filter fun s => s.node == node && s.event == event).map (·.key)

/-- Sets an attribute; the keys of every event this write fires are queued. -/
def setAttribute (h : Host) (node : Nat) (name value : String) : Host :=
  let h := (h.modifyNode node fun n => { n with attributes := setSorted name value n.attributes }).record
    (.setAttribute node name value)
  let events := (h.triggers.filter fun t => t.node == node && t.attr == name).map (·.event)
  { h with fired := h.fired ++ events.flatMap (h.handlersFor node) }

/-- Sets the value of a text node. -/
def setText (h : Host) (node : Nat) (value : String) : Host :=
  (h.modifyNode node fun n => { n with text := value }).record (.setText node value)

/-- Subscribes a key to an event of a node. -/
def subscribe (h : Host) (node : Nat) (event : String) (key : HandlerKey) : Nat × Host :=
  let id := h.lastId + 1
  (id, { h with lastId := id, live := h.live ++ [({ id, node, event, key } : Subscription)] }.record
    (.subscribe id node event))

/-- Ends a subscription. -/
def unsubscribe (h : Host) (id : Nat) : Host :=
  { h with live := h.live.filter (·.id != id) }.record (.unsubscribe id)

/-- Declares that writing an attribute of a node fires one of its events. -/
def fireOnWrite (h : Host) (node : Nat) (attr event : String) : Host :=
  let t : Trigger := ⟨node, attr, event⟩
  if h.triggers.contains t then h else { h with triggers := h.triggers ++ [t] }

/-- The fired keys, taken from the queue. -/
def takeFired (h : Host) : List HandlerKey × Host := (h.fired, { h with fired := [] })

/-- The number of live subscriptions. -/
def liveCount (h : Host) : Nat := h.live.length

/-- Empties the call log. -/
def clearCalls (h : Host) : Host := { h with calls := [] }

/-- A bound on the depth of the tree: no path repeats a node, and every node was numbered. -/
def depthBound (h : Host) : Nat := h.lastId + 1

/-- Elements with a tag at or under a node, in document order, `root` excluded; the walk goes
at most `depth` levels down. -/
def taggedUnder (h : Host) (root : Nat) (tag : String) : Nat → Nat → List Nat
  | 0, _ => []
  | depth + 1, id =>
    match h.node? id with
    | none => []
    | some n =>
      (if n.tag == some tag && id != root then [id] else []) ++
        n.children.flatMap (h.taggedUnder root tag depth)

/-- Elements with a tag under a node, in document order. -/
def findAll (h : Host) (root : Nat) (tag : String) : List Nat :=
  h.taggedUnder root tag h.depthBound root

end Host

end Reactive
