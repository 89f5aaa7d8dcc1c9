import Reactive.Proofs.Compose.Instances

/-!
# The layout of a compiled plan

The runtime and the module emitter both read a plan's lists through the indices the plan holds:
node parents, the nodes of bindings and events, the handlers of events and callback props, and the
placements. This file proves that every compiled plan is well laid out
(`Layout.WellFormed`, `planComponent_layout`):

* every node's parent is an element before it, and every nested instance's parent is an element;
* the placements list node `0, 1, …` and nested instance `0, 1, …`, each once and in this order,
  and place the parent of each before it;
* every binding writes a node of the kind its target needs (a text node for text, an element for
  an attribute), and every event listens on an element;
* every handler reference names a handler of the plan or one of its callbacks;

and that the placements follow the template in pre-order, the `k`-th made for the `k`-th node of
the template (`PlacedAs`). Hence every index such a plan holds is in range
(`Layout.WellFormed.in_range`).

The template walk keeps a sound builder at every step (`Builder.Sound`): its parent pointer, saved
and restored around the children of an element, always names an element. Each walk over template
nodes places exactly those nodes (`Builder.Walked`), which `walkNode_layout` proves by the same
recursion as the walk.
-/

namespace Reactive.Component

/-! ## What a plan's indices point at -/

/-- Whether a node is an element. -/
def NodeKind.isElement : NodeKind → Bool
  | .element .. => true
  | .text _ => false

/-- Whether the node at an index exists and is an element. -/
def elementAt (nodes : List NodePlan) (i : Nat) : Bool :=
  ((nodes[i]?).map (·.kind.isElement)).getD false

/-- Whether a target writes nodes of a kind: text a text node, an attribute an element. -/
def BindingTarget.writes : BindingTarget → NodeKind → Bool
  | .text, .text _ => true
  | .attribute _, .element .. => true
  | _, _ => false

/-- Whether the node at an index exists and a target writes it. -/
def writableAt (nodes : List NodePlan) (i : Nat) (target : BindingTarget) : Bool :=
  ((nodes[i]?).map fun n => target.writes n.kind).getD false

/-- Whether a reference names one of `handlers` handlers or one of the callbacks. -/
def HandlerRef.resolves (handlers : Nat) (callbacks : List String) : HandlerRef → Bool
  | .handler i => decide (i < handlers)
  | .callback name => callbacks.contains name

/-- Every callback the props of a nested instance pass names a handler or a callback. -/
def PropsResolve (handlers : Nat) (callbacks : List String) (props : List ChildProp) : Prop :=
  ∀ p ∈ props, ∀ r, p.value = .callback r → r.resolves handlers callbacks = true

/-- The node a placement places, if it places a node. -/
def Placement.node? : Placement → Option Nat
  | .node i => some i
  | .child _ => none

/-- The nested instance a placement places, if it places one. -/
def Placement.child? : Placement → Option Nat
  | .node _ => none
  | .child j => some j

section
variable {α β : Type} {l l' : List α} {i : Nat}

theorem getElem?_mono (h : l <+: l') {x : α} (hx : l[i]? = some x) : l'[i]? = some x := by
  obtain ⟨t, rfl⟩ := h
  rw [List.getElem?_append_left (List.getElem?_eq_some_iff.mp hx).1, hx]

theorem map_getElem?_mono (h : l <+: l') {f : α → β} {y : β} (hy : (l[i]?).map f = some y) :
    (l'[i]?).map f = some y := by
  cases hi : l[i]? with
  | none =>
    rw [hi] at hy
    cases hy
  | some x =>
    rw [hi] at hy
    rw [getElem?_mono h hi]
    exact hy

/-- An entry of a list with one more element at the end is an entry of the list or that element. -/
theorem getElem?_concat_eq_some {x y : α} (h : (l ++ [x])[i]? = some y) :
    l[i]? = some y ∨ (i = l.length ∧ y = x) := by
  rw [List.getElem?_append] at h
  split at h
  · exact Or.inl h
  · rw [List.getElem?_singleton] at h
    split at h
    · exact Or.inr ⟨by omega, (Option.some.inj h).symm⟩
    · cases h

end

section
variable {nodes nodes' : List NodePlan} {i : Nat}

theorem elementAt_lt (h : elementAt nodes i = true) : i < nodes.length := by
  unfold elementAt at h
  cases hi : nodes[i]? with
  | none => simp [hi] at h
  | some n => exact (List.getElem?_eq_some_iff.mp hi).1

theorem writableAt_lt {target : BindingTarget} (h : writableAt nodes i target = true) :
    i < nodes.length := by
  unfold writableAt at h
  cases hi : nodes[i]? with
  | none => simp [hi] at h
  | some n => exact (List.getElem?_eq_some_iff.mp hi).1

theorem elementAt_mono (hp : nodes <+: nodes') (h : elementAt nodes i = true) :
    elementAt nodes' i = true := by
  unfold elementAt at h ⊢
  cases hi : nodes[i]? with
  | none => simp [hi] at h
  | some n =>
    rw [hi] at h
    rw [getElem?_mono hp hi]
    exact h

theorem writableAt_mono {target : BindingTarget} (hp : nodes <+: nodes')
    (h : writableAt nodes i target = true) : writableAt nodes' i target = true := by
  unfold writableAt at h ⊢
  cases hi : nodes[i]? with
  | none => simp [hi] at h
  | some n =>
    rw [hi] at h
    rw [getElem?_mono hp hi]
    exact h

/-- A node pushed last is an element at the old size. -/
theorem elementAt_push {arr : Array NodePlan} (var tag : String)
    (fixed : List (String × String)) (parent : Option Nat) :
    elementAt (arr.push ⟨var, .element tag fixed, parent⟩).toList arr.size = true := by
  rw [Array.toList_push, ← Array.length_toList]
  simp [elementAt, NodeKind.isElement]

/-- An element can take an attribute binding. -/
theorem writableAt_attribute (h : elementAt nodes i = true) (name : String) :
    writableAt nodes i (.attribute name) = true := by
  unfold elementAt at h
  unfold writableAt
  cases hi : nodes[i]? with
  | none => simp [hi] at h
  | some n =>
    rw [hi] at h
    cases hk : n.kind with
    | element tag fixed => simp [hk, BindingTarget.writes]
    | text value => simp [hk, NodeKind.isElement] at h

/-- A node pushed last has the kind it was pushed with, at the old size. -/
theorem kind_push {arr : Array NodePlan} (n : NodePlan) :
    ((arr.push n).toList[arr.size]?).map (·.kind) = some n.kind := by
  rw [Array.toList_push, ← Array.length_toList]
  simp

end

/-! ## Layouts -/

/-- The parts of a plan that point into each other. -/
structure Layout where
  nodes : List NodePlan
  bindings : List BindingPlan
  events : List EventPlan
  children : List ChildPlan
  placements : List Placement

/-- The layout a template walk has built so far. -/
def Builder.layout (b : Builder) : Layout :=
  ⟨b.nodes.toList, b.bindings.toList, b.events.toList, b.children.toList, b.placements.toList⟩

theorem Builder.nodes_eq_of_layout {b b' : Builder} (h : b'.layout = b.layout) :
    b'.nodes = b.nodes :=
  Array.ext' (congrArg Layout.nodes h)

theorem Builder.children_eq_of_layout {b b' : Builder} (h : b'.layout = b.layout) :
    b'.children = b.children :=
  Array.ext' (congrArg Layout.children h)

/-- The layout of a plan. -/
def ComponentPlan.layout (p : ComponentPlan) : Layout :=
  ⟨p.nodes, p.bindings, p.events, p.children, p.placements⟩

/-- A layout whose indices point where they should, for a component with `handlers` handlers and
these callbacks. -/
structure Layout.WellFormed (handlers : Nat) (callbacks : List String) (l : Layout) : Prop where
  /-- a node's parent is an element before it, placed before it -/
  nodeParent : ∀ i n q, l.nodes[i]? = some n → n.parent = some q →
    q < i ∧ elementAt l.nodes q = true ∧ List.Sublist [Placement.node q, .node i] l.placements
  /-- a nested instance's parent is an element, placed before it -/
  childParent : ∀ j ch q, l.children[j]? = some ch → ch.parent = some q →
    elementAt l.nodes q = true ∧ List.Sublist [Placement.node q, .child j] l.placements
  /-- the placements list the nodes in order, each once -/
  nodesPlaced : l.placements.filterMap Placement.node? = List.range l.nodes.length
  /-- and the nested instances in order, each once -/
  childrenPlaced : l.placements.filterMap Placement.child? = List.range l.children.length
  bindings : ∀ bp ∈ l.bindings, writableAt l.nodes bp.node bp.target = true
  events : ∀ ev ∈ l.events,
    elementAt l.nodes ev.node = true ∧ ev.handler.resolves handlers callbacks = true
  callbacks : ∀ ch ∈ l.children, PropsResolve handlers callbacks ch.props

namespace Layout.WellFormed

variable {H : Nat} {C : List String} {l : Layout}

theorem empty : (⟨[], [], [], [], []⟩ : Layout).WellFormed H C where
  nodeParent _ _ _ h := by simp at h
  childParent _ _ _ h := by simp at h
  nodesPlaced := rfl
  childrenPlaced := rfl
  bindings _ h := absurd h List.not_mem_nil
  events _ h := absurd h List.not_mem_nil
  callbacks _ h := absurd h List.not_mem_nil

/-- Every node is placed. -/
theorem node_placed (h : l.WellFormed H C) {q : Nat} (hq : q < l.nodes.length) :
    Placement.node q ∈ l.placements := by
  have hmem : q ∈ l.placements.filterMap Placement.node? := by
    rw [h.nodesPlaced]
    exact List.mem_range.mpr hq
  obtain ⟨pl, hpl, hq'⟩ := List.mem_filterMap.mp hmem
  cases pl with
  | node i =>
    cases hq'
    exact hpl
  | child _ => cases hq'

/-- Every placement places a node or a nested instance that exists. -/
theorem placement_within (h : l.WellFormed H C) {pl : Placement} (hpl : pl ∈ l.placements) :
    pl.Within l.nodes.length l.children.length := by
  cases pl with
  | node i =>
    have hmem : i ∈ l.placements.filterMap Placement.node? := List.mem_filterMap.mpr ⟨_, hpl, rfl⟩
    rw [h.nodesPlaced] at hmem
    exact List.mem_range.mp hmem
  | child j =>
    have hmem : j ∈ l.placements.filterMap Placement.child? := List.mem_filterMap.mpr ⟨_, hpl, rfl⟩
    rw [h.childrenPlaced] at hmem
    exact List.mem_range.mp hmem

/-- Every index a well-formed layout holds is in range: the parents of nodes and nested
instances, the placements, the nodes of bindings and events, and the handlers events run. -/
theorem in_range (h : l.WellFormed H C) :
    (∀ n ∈ l.nodes, ∀ q, n.parent = some q → q < l.nodes.length) ∧
      (∀ ch ∈ l.children, ∀ q, ch.parent = some q → q < l.nodes.length) ∧
      (∀ pl ∈ l.placements, pl.Within l.nodes.length l.children.length) ∧
      (∀ bp ∈ l.bindings, bp.node < l.nodes.length) ∧
      (∀ ev ∈ l.events, ev.node < l.nodes.length ∧ ∀ i, ev.handler = .handler i → i < H) := by
  refine ⟨fun n hn q hq => ?_, fun ch hch q hq => ?_, fun pl hpl => h.placement_within hpl,
    fun bp hbp => writableAt_lt (h.bindings bp hbp), fun ev hev => ⟨elementAt_lt (h.events ev hev).1,
      fun i hi => ?_⟩⟩
  · obtain ⟨i, hi⟩ := List.getElem?_of_mem hn
    exact elementAt_lt (h.nodeParent i n q hi hq).2.1
  · obtain ⟨j, hj⟩ := List.getElem?_of_mem hch
    exact elementAt_lt (h.childParent j ch q hj hq).1
  · have hr := (h.events ev hev).2
    rw [hi] at hr
    exact of_decide_eq_true hr

/-- Adding a node under an element, or under none, and placing it. -/
theorem pushNode (h : l.WellFormed H C) {parent : Option Nat}
    (hp : ∀ q, parent = some q → elementAt l.nodes q = true) (var : String) (kind : NodeKind) :
    ({ l with nodes := l.nodes ++ [⟨var, kind, parent⟩],
              placements := l.placements ++ [.node l.nodes.length] } : Layout).WellFormed H C := by
  have hgrow : l.nodes <+: l.nodes ++ [⟨var, kind, parent⟩] := List.prefix_append _ _
  have hlater : List.Sublist l.placements (l.placements ++ [.node l.nodes.length]) :=
    List.sublist_append_left _ _
  refine ⟨fun i n q hn hq => ?_, fun j ch q hch hq => ?_, ?_, ?_, fun bp hbp => ?_,
    fun ev hev => ?_, h.callbacks⟩
  · rcases getElem?_concat_eq_some hn with hold | ⟨rfl, rfl⟩
    · obtain ⟨hlt, hel, hsub⟩ := h.nodeParent i n q hold hq
      exact ⟨hlt, elementAt_mono hgrow hel, hsub.trans hlater⟩
    · -- the new node's parent is the current parent, already placed
      have hel := hp q hq
      exact ⟨elementAt_lt hel, elementAt_mono hgrow hel,
        List.Sublist.append (List.singleton_sublist.mpr (h.node_placed (elementAt_lt hel)))
          (List.Sublist.refl _)⟩
  · obtain ⟨hel, hsub⟩ := h.childParent j ch q hch hq
    exact ⟨elementAt_mono hgrow hel, hsub.trans hlater⟩
  · simp [List.filterMap_append, h.nodesPlaced, Placement.node?, List.range_succ]
  · simp [List.filterMap_append, h.childrenPlaced, Placement.child?]
  · exact writableAt_mono hgrow (h.bindings bp hbp)
  · exact ⟨elementAt_mono hgrow (h.events ev hev).1, (h.events ev hev).2⟩

/-- Adding a binding that writes a node of its kind. -/
theorem pushBinding (h : l.WellFormed H C) {bp : BindingPlan}
    (hw : writableAt l.nodes bp.node bp.target = true) :
    ({ l with bindings := l.bindings ++ [bp] } : Layout).WellFormed H C := by
  refine ⟨h.nodeParent, h.childParent, h.nodesPlaced, h.childrenPlaced, fun bp' hbp' => ?_,
    h.events, h.callbacks⟩
  rcases List.mem_append.mp hbp' with hold | hnew
  · exact h.bindings bp' hold
  · rw [List.mem_singleton.mp hnew]
    exact hw

/-- Adding an event of an element that runs a handler or callback of the component. -/
theorem pushEvent (h : l.WellFormed H C) {ev : EventPlan} (he : elementAt l.nodes ev.node = true)
    (hr : ev.handler.resolves H C = true) :
    ({ l with events := l.events ++ [ev] } : Layout).WellFormed H C := by
  refine ⟨h.nodeParent, h.childParent, h.nodesPlaced, h.childrenPlaced, h.bindings,
    fun ev' hev' => ?_, h.callbacks⟩
  rcases List.mem_append.mp hev' with hold | hnew
  · exact h.events ev' hold
  · rw [List.mem_singleton.mp hnew]
    exact ⟨he, hr⟩

/-- Adding a nested instance under an element, or under none, and placing it. -/
theorem pushChild (h : l.WellFormed H C) {parent : Option Nat}
    (hp : ∀ q, parent = some q → elementAt l.nodes q = true) (var name : String)
    {props : List ChildProp} (hprops : PropsResolve H C props) :
    ({ l with children := l.children ++ [⟨var, name, parent, props⟩],
              placements := l.placements ++ [.child l.children.length] } : Layout).WellFormed H C := by
  have hlater : List.Sublist l.placements (l.placements ++ [.child l.children.length]) :=
    List.sublist_append_left _ _
  refine ⟨fun i n q hn hq => ?_, fun j ch q hch hq => ?_, ?_, ?_, h.bindings, h.events,
    fun ch hch => ?_⟩
  · obtain ⟨hlt, hel, hsub⟩ := h.nodeParent i n q hn hq
    exact ⟨hlt, hel, hsub.trans hlater⟩
  · rcases getElem?_concat_eq_some hch with hold | ⟨rfl, rfl⟩
    · obtain ⟨hel, hsub⟩ := h.childParent j ch q hold hq
      exact ⟨hel, hsub.trans hlater⟩
    · -- the new instance's parent is the current parent, already placed
      have hel := hp q hq
      exact ⟨hel, List.Sublist.append
        (List.singleton_sublist.mpr (h.node_placed (elementAt_lt hel))) (List.Sublist.refl _)⟩
  · simp [List.filterMap_append, h.nodesPlaced, Placement.node?]
  · simp [List.filterMap_append, h.childrenPlaced, Placement.child?, List.range_succ]
  · rcases List.mem_append.mp hch with hold | hnew
    · exact h.callbacks ch hold
    · rw [List.mem_singleton.mp hnew]
      exact hprops

/-- Changing only what a binding or a nested instance carries besides its node, target, parent
and callbacks keeps a layout well formed. -/
theorem map (h : l.WellFormed H C) (fb : BindingPlan → BindingPlan) (fc : ChildPlan → ChildPlan)
    (hfb : ∀ bp, (fb bp).node = bp.node ∧ (fb bp).target = bp.target)
    (hfc : ∀ ch, (fc ch).parent = ch.parent ∧ ∀ p ∈ (fc ch).props, ∀ r, p.value = .callback r →
      ∃ p' ∈ ch.props, p'.value = .callback r) :
    ({ l with bindings := l.bindings.map fb, children := l.children.map fc } : Layout).WellFormed
      H C := by
  refine ⟨h.nodeParent, fun j ch q hch hq => ?_, h.nodesPlaced, ?_, fun bp hbp => ?_, h.events,
    fun ch hch p hp r hr => ?_⟩
  · rw [List.getElem?_map] at hch
    obtain ⟨ch₀, hch₀, rfl⟩ := Option.map_eq_some_iff.mp hch
    exact h.childParent j ch₀ q hch₀ ((hfc ch₀).1 ▸ hq)
  · rw [List.length_map]
    exact h.childrenPlaced
  · obtain ⟨bp₀, hbp₀, rfl⟩ := List.mem_map.mp hbp
    rw [(hfb bp₀).1, (hfb bp₀).2]
    exact h.bindings bp₀ hbp₀
  · obtain ⟨ch₀, hch₀, rfl⟩ := List.mem_map.mp hch
    obtain ⟨p', hp', hr'⟩ := (hfc ch₀).2 p hp r hr
    exact h.callbacks ch₀ hch₀ p' hp' r hr'

end Layout.WellFormed

/-! ## Template nodes in pre-order -/

mutual
/-- The nodes of a template node in document order: the node, then the nodes inside it. -/
def preorderNode : TemplateNode → List TemplateNode
  | .element tag attrs events children =>
    .element tag attrs events children :: preorderNodes children
  | .component name props => [.component name props]
  | .text value => [.text value]
  | .expression code => [.expression code]

/-- The nodes of template nodes in document order. -/
def preorderNodes : List TemplateNode → List TemplateNode
  | [] => []
  | n :: rest => preorderNode n ++ preorderNodes rest
end

/-- A placement made for a template node: an element with the node's tag, a text node with its
text (empty for an expression, whose binding writes it), or a nested instance of its component. -/
def PlacedAs (nodes : List NodePlan) (children : List ChildPlan) : Placement → TemplateNode → Prop
  | .node i, .element tag _ _ _ => ∃ fixed, (nodes[i]?).map (·.kind) = some (.element tag fixed)
  | .node i, .text value => (nodes[i]?).map (·.kind) = some (.text value)
  | .node i, .expression _ => (nodes[i]?).map (·.kind) = some (.text "")
  | .child j, .component name _ => (children[j]?).map (·.component) = some name
  | _, _ => False

/-- What a placement is made for stays so as nodes and nested instances are added. -/
theorem PlacedAs.mono {nodes nodes' : List NodePlan} {children children' : List ChildPlan}
    {pl : Placement} {t : TemplateNode} (h : PlacedAs nodes children pl t)
    (hn : nodes <+: nodes') (hc : children <+: children') : PlacedAs nodes' children' pl t := by
  cases pl <;> cases t <;> simp only [PlacedAs] at h ⊢
  · obtain ⟨fixed, hk⟩ := h
    exact ⟨fixed, map_getElem?_mono hn hk⟩
  · exact map_getElem?_mono hn h
  · exact map_getElem?_mono hn h
  · exact map_getElem?_mono hc h

/-- What a placement is made for stays so when nested instances keep their components. -/
theorem PlacedAs.map_children {nodes : List NodePlan} {children : List ChildPlan}
    {f : ChildPlan → ChildPlan} (hf : ∀ ch, (f ch).component = ch.component) {pl : Placement}
    {t : TemplateNode} (h : PlacedAs nodes children pl t) : PlacedAs nodes (children.map f) pl t := by
  cases pl <;> cases t <;> simp only [PlacedAs] at h ⊢
  · exact h
  · exact h
  · exact h
  · rw [List.getElem?_map, Option.map_map]
    rw [← h]
    exact congrArg (Option.map · _) (funext hf)

/-! ## The builder through the walk -/

/-- A builder whose layout is well formed and whose current parent is an element, or none. -/
structure Builder.Sound (handlers : Nat) (callbacks : List String) (b : Builder) : Prop where
  layout : b.layout.WellFormed handlers callbacks
  parent : ∀ q, b.parent = some q → elementAt b.nodes.toList q = true

/-- The builder `b` is reached from `b₀` by a walk that placed the template nodes `ts`: it is
sound, keeps the nodes and nested instances there were, and has one more placement for each of
`ts`, in order. -/
structure Builder.Walked (handlers : Nat) (callbacks : List String) (b b₀ : Builder)
    (ts : List TemplateNode) : Prop where
  sound : b.Sound handlers callbacks
  nodes : b₀.nodes.toList <+: b.nodes.toList
  children : b₀.children.toList <+: b.children.toList
  placed : ∃ new, b.placements.toList = b₀.placements.toList ++ new ∧
    List.Forall₂ (PlacedAs b.nodes.toList b.children.toList) new ts

namespace Builder.Walked

variable {H : Nat} {C : List String} {b₀ b₁ b₂ : Builder} {ts ts' : List TemplateNode}

theorem refl (h : b₀.Sound H C) : b₀.Walked H C b₀ [] :=
  ⟨h, List.prefix_refl _, List.prefix_refl _, [], by simp, .nil⟩

theorem trans (h₁ : b₁.Walked H C b₀ ts) (h₂ : b₂.Walked H C b₁ ts') :
    b₂.Walked H C b₀ (ts ++ ts') := by
  obtain ⟨new₁, hp₁, hr₁⟩ := h₁.placed
  obtain ⟨new₂, hp₂, hr₂⟩ := h₂.placed
  refine ⟨h₂.sound, h₁.nodes.trans h₂.nodes, h₁.children.trans h₂.children, new₁ ++ new₂, ?_,
    List.rel_append (hr₁.imp fun _ _ hpl => hpl.mono h₂.nodes h₂.children) hr₂⟩
  rw [hp₂, hp₁, List.append_assoc]

/-- A walk may start from any builder with the same nodes, nested instances and placements. -/
theorem of_start {b₁' : Builder} (h : b₂.Walked H C b₁' ts) (hn : b₁'.nodes = b₁.nodes)
    (hc : b₁'.children = b₁.children) (hp : b₁'.placements = b₁.placements) :
    b₂.Walked H C b₁ ts := by
  obtain ⟨hs, hnodes, hchildren, new, hplaced, hrel⟩ := h
  refine ⟨hs, ?_, ?_, new, ?_, hrel⟩
  · rw [← hn]
    exact hnodes
  · rw [← hc]
    exact hchildren
  · rw [← hp]
    exact hplaced

/-- A single step that adds one placement, made for one template node. -/
theorem single (h : b₁.Sound H C) (hn : b₀.nodes.toList <+: b₁.nodes.toList)
    (hc : b₀.children.toList <+: b₁.children.toList) {pl : Placement} {t : TemplateNode}
    (hp : b₁.placements.toList = b₀.placements.toList ++ [pl])
    (ht : PlacedAs b₁.nodes.toList b₁.children.toList pl t) : b₁.Walked H C b₀ [t] :=
  ⟨h, hn, hc, [pl], hp, .cons ht .nil⟩

end Builder.Walked

namespace Builder.Sound

variable {H : Nat} {C : List String} {b b' : Builder}

theorem of_layout (h : b.Sound H C) (hl : b'.layout = b.layout) (hp : b'.parent = b.parent) :
    b'.Sound H C := by
  refine ⟨hl ▸ h.layout, fun q hq => ?_⟩
  have hn : b'.nodes.toList = b.nodes.toList := congrArg Layout.nodes hl
  rw [hn]
  exact h.parent q (hp ▸ hq)

theorem setParent (h : b.Sound H C) {parent : Option Nat}
    (hp : ∀ q, parent = some q → elementAt b.nodes.toList q = true) :
    ({ b with parent := parent } : Builder).Sound H C :=
  ⟨h.layout, hp⟩

theorem pushNode (h : b.Sound H C) (var : String) (kind : NodeKind) :
    ({ b with nodes := b.nodes.push ⟨var, kind, b.parent⟩,
              placements := b.placements.push (.node b.nodes.size) } : Builder).Sound H C := by
  have hl : ({ b with nodes := b.nodes.push ⟨var, kind, b.parent⟩,
                      placements := b.placements.push (.node b.nodes.size) } : Builder).layout =
      { b.layout with nodes := b.layout.nodes ++ [⟨var, kind, b.parent⟩],
                      placements := b.layout.placements ++ [.node b.layout.nodes.length] } := by
    simp [Builder.layout]
  refine ⟨hl ▸ h.layout.pushNode h.parent var kind, fun q hq => ?_⟩
  rw [Array.toList_push]
  exact elementAt_mono (List.prefix_append _ _) (h.parent q hq)

theorem pushBinding (h : b.Sound H C) {bp : BindingPlan}
    (hw : writableAt b.nodes.toList bp.node bp.target = true) :
    ({ b with bindings := b.bindings.push bp } : Builder).Sound H C := by
  have hl : ({ b with bindings := b.bindings.push bp } : Builder).layout =
      { b.layout with bindings := b.layout.bindings ++ [bp] } := by
    simp [Builder.layout]
  exact ⟨hl ▸ h.layout.pushBinding hw, h.parent⟩

theorem pushEvent (h : b.Sound H C) {ev : EventPlan} (he : elementAt b.nodes.toList ev.node = true)
    (hr : ev.handler.resolves H C = true) :
    ({ b with events := b.events.push ev } : Builder).Sound H C := by
  have hl : ({ b with events := b.events.push ev } : Builder).layout =
      { b.layout with events := b.layout.events ++ [ev] } := by
    simp [Builder.layout]
  exact ⟨hl ▸ h.layout.pushEvent he hr, h.parent⟩

theorem pushChild (h : b.Sound H C) (var name : String) {props : List ChildProp}
    (hprops : PropsResolve H C props) :
    ({ b with children := b.children.push ⟨var, name, b.parent, props⟩,
              placements := b.placements.push (.child b.children.size) } : Builder).Sound H C := by
  have hl : ({ b with children := b.children.push ⟨var, name, b.parent, props⟩,
                      placements := b.placements.push (.child b.children.size) } : Builder).layout =
      { b.layout with children := b.layout.children ++ [⟨var, name, b.parent, props⟩],
                      placements := b.layout.placements ++ [.child b.layout.children.length] } := by
    simp [Builder.layout]
  exact ⟨hl ▸ h.layout.pushChild h.parent var name hprops, h.parent⟩

end Builder.Sound

namespace Builder.Walked

variable {H : Nat} {C : List String} {b₀ b₁ b₂ : Builder} {ts : List TemplateNode}

/-- A walk may end at any sound builder with the same nodes, nested instances and placements. -/
theorem of_end {b₂' : Builder} (h : b₂.Walked H C b₁ ts) (hs : b₂'.Sound H C)
    (hn : b₂'.nodes = b₂.nodes) (hc : b₂'.children = b₂.children)
    (hp : b₂'.placements = b₂.placements) : b₂'.Walked H C b₁ ts := by
  obtain ⟨-, hnodes, hchildren, new, hplaced, hrel⟩ := h
  refine ⟨hs, ?_, ?_, new, ?_, ?_⟩
  · rw [hn]
    exact hnodes
  · rw [hc]
    exact hchildren
  · rw [hp]
    exact hplaced
  · rw [hn, hc]
    exact hrel

/-- Adding a node of the kind a template node makes, to a builder laid out as a sound `b₀`,
places that template node. -/
theorem pushNode (h₀ : b₀.Sound H C) (hl : b₁.layout = b₀.layout) (hpa : b₁.parent = b₀.parent)
    (var : String) (kind : NodeKind) {t : TemplateNode}
    (ht : PlacedAs (b₁.nodes.push ⟨var, kind, b₁.parent⟩).toList b₁.children.toList
      (.node b₁.nodes.size) t) :
    ({ b₁ with nodes := b₁.nodes.push ⟨var, kind, b₁.parent⟩,
               placements := b₁.placements.push (.node b₁.nodes.size) } : Builder).Walked H C b₀
      [t] := by
  have hn : b₁.nodes.toList = b₀.nodes.toList := congrArg Layout.nodes hl
  have hc : b₁.children.toList = b₀.children.toList := congrArg Layout.children hl
  have hp : b₁.placements.toList = b₀.placements.toList := congrArg Layout.placements hl
  refine single ((h₀.of_layout hl hpa).pushNode var kind) ?_ ?_ ?_ ht
  · rw [Array.toList_push, hn]
    exact List.prefix_append _ _
  · exact hc ▸ List.prefix_refl _
  · rw [Array.toList_push, hp]

end Builder.Walked

/-! ## The steps of the walk -/

section
variable {c : ComponentSource} {m : Model}

/-- A check lifted into the walk changes nothing and, when it passes, gives what the check gave. -/
theorem liftCheck_ok {α : Type} (x : Except CompileError α) {P : Builder → Prop} :
    Spec P (liftCheck x) (fun a b => P b ∧ x = .ok a) (fun _ => True) := by
  intro s hs
  cases x with
  | ok a => exact ⟨hs, rfl⟩
  | error e => trivial

theorem nextVar_layout (stem : String) {P : Builder → Prop} :
    Spec P (nextVar stem) (fun _ b => ∃ b₀, P b₀ ∧ b.layout = b₀.layout ∧ b.parent = b₀.parent)
      (fun _ => True) := by
  unfold nextVar
  refine Spec.bind Spec.get fun b => Spec.bind (Spec.set _) fun _ => Spec.pure _ ?_
  rintro s ⟨rfl, s₀, hs₀, rfl⟩
  exact ⟨_, hs₀, rfl, rfl⟩

theorem pushNode_layout (var : String) (kind : NodeKind) {P : Builder → Prop} :
    Spec P (pushNode var kind) (fun i b => ∃ b₀, P b₀ ∧ i = b₀.nodes.size ∧
      b = { b₀ with nodes := b₀.nodes.push ⟨var, kind, b₀.parent⟩,
                    placements := b₀.placements.push (.node b₀.nodes.size) }) (fun _ => True) := by
  unfold pushNode
  refine Spec.bind Spec.get fun b => Spec.bind (Spec.set _) fun _ => Spec.pure _ ?_
  rintro s ⟨rfl, s₀, hs₀, rfl⟩
  exact ⟨_, hs₀, rfl, rfl⟩

theorem bindExpr_layout (scope : Scope) (node : Nat) (target : BindingTarget) (code origin : String)
    {P : Builder → Prop} :
    Spec P (bindExpr scope node target code origin) (fun _ b => ∃ b₀, P b₀ ∧
      ∃ bp : BindingPlan, bp.node = node ∧ bp.target = target ∧
        b = { b₀ with bindings := b₀.bindings.push bp }) (fun _ => True) := by
  unfold bindExpr
  refine Spec.bind (liftCheck_spec _) fun _ => Spec.bind (liftCheck_spec _) fun _ =>
    Spec.mono (Spec.change _) (fun _ h => h) ?_ (fun _ h => h)
  rintro _ s ⟨s₀, hs₀, rfl⟩
  exact ⟨s₀, hs₀, _, rfl, rfl, rfl⟩

/-- A name the scope of a component classifies as a callback is one of its callbacks. -/
theorem Scope.mem_callbacks_of_classify {n : String}
    (h : (Scope.ofSource c).classify n = some .callback) : n ∈ c.callbacks := by
  unfold Scope.classify at h
  split at h
  · rename_i x k hfind
    cases h
    have hmem := List.mem_of_find?_eq_some hfind
    have hname : x = n := by simpa using List.find?_some hfind
    subst hname
    simpa [Scope.ofSource] using hmem
  · split at h <;> cases h

/-- What an event or a callback prop runs is a handler of the model or a callback of the
component. -/
theorem handlerRef_resolves {name origin : String} {r : HandlerRef}
    (h : handlerRef (Scope.ofSource c) m name origin = .ok r) :
    r.resolves m.handlers.length c.callbacks = true := by
  unfold handlerRef at h
  simp only [bind, Except.bind] at h
  split at h
  · cases h
  rename_i target htarget
  cases target with
  | handler n =>
    simp only at h
    split at h
    · rename_i i hi
      cases h
      exact decide_eq_true (List.findIdx?_eq_some_iff_findIdx_eq.mp hi).1
    · cases h
  | callback n =>
    cases h
    unfold Scope.resolveHandler at htarget
    split at htarget
    · cases htarget
    · rename_i hk
      cases htarget
      exact List.contains_iff_mem.mpr (Scope.mem_callbacks_of_classify hk)
    · cases htarget

/-- Adding an element adds one node, an element with the tag under the current parent, and its
placement; its attribute bindings and its events keep the builder sound. -/
theorem addElement_layout (tag : String) (attrs : List Attribute) (events : List EventSource)
    {b₀ : Builder} (h₀ : b₀.Sound m.handlers.length c.callbacks) :
    Spec (· = b₀) (addElement (Scope.ofSource c) m tag attrs events)
      (fun index b => b.Sound m.handlers.length c.callbacks ∧ index = b₀.nodes.size ∧
        b.parent = b₀.parent ∧ b.children = b₀.children ∧
        b.placements.toList = b₀.placements.toList ++ [.node index] ∧
        ∃ var fixed, b.nodes.toList = b₀.nodes.toList ++ [⟨var, .element tag fixed, b₀.parent⟩])
      (fun _ => True) := by
  unfold addElement
  refine Spec.bind (nextVar_layout tag) fun var => ?_
  refine Spec.bind (pushNode_layout var _) fun index => Spec.of_forall fun b₁ hb₁ => ?_
  obtain ⟨b', ⟨x, hx, hl, hpa⟩, hindex, hb₁⟩ := hb₁
  rw [hx] at hl hpa
  have hn : b'.nodes.toList = b₀.nodes.toList := congrArg Layout.nodes hl
  have hsize : b'.nodes.size = b₀.nodes.size := by
    rw [← Array.length_toList, hn, Array.length_toList]
  have hs₁ : b₁.Sound m.handlers.length c.callbacks := by
    rw [hb₁]
    exact (h₀.of_layout hl hpa).pushNode var _
  have hel : elementAt b₁.nodes.toList index = true := by
    rw [hb₁, hindex]
    exact elementAt_push _ _ _ _
  -- attribute bindings and events add to what the layout reads, and keep the rest
  let Keeps : Builder → Prop := fun b => b.Sound m.handlers.length c.callbacks ∧
    b.nodes = b₁.nodes ∧ b.children = b₁.children ∧ b.placements = b₁.placements ∧
      b.parent = b₁.parent
  refine Spec.bind (Spec.mono (Spec.forIn_yield (fun _ _ => Keeps) fun _ a _ _ _ => ?_)
    (fun b hb => hb ▸ ⟨hs₁, rfl, rfl, rfl, rfl⟩) (fun _ _ h => h) (fun _ h => h)) fun _ =>
    Spec.bind (Spec.forIn_yield (fun _ _ => Keeps) fun _ e _ _ _ => ?_) fun _ => Spec.pure _ ?_
  · split
    · refine Spec.bind (bindExpr_layout _ _ _ _ _) fun _ => Spec.pure _ ?_
      rintro s ⟨b₂, ⟨hs₂, hn₂, hc₂, hp₂, hpa₂⟩, bp, hnode, htarget, rfl⟩
      have hw : writableAt b₂.nodes.toList bp.node bp.target = true := by
        rw [hnode, htarget, hn₂]
        exact writableAt_attribute hel _
      exact ⟨_, rfl, hs₂.pushBinding hw, hn₂, hc₂, hp₂, hpa₂⟩
    · exact Spec.pure _ fun _ h => ⟨_, rfl, h⟩
  · refine Spec.bind (liftCheck_ok _) fun r => Spec.bind (Spec.change _) fun _ => Spec.pure _ ?_
    rintro s ⟨b₂, ⟨⟨hs₂, hn₂, hc₂, hp₂, hpa₂⟩, hr⟩, rfl⟩
    have he : elementAt b₂.nodes.toList index = true := by
      rw [hn₂]
      exact hel
    exact ⟨_, rfl, hs₂.pushEvent he (handlerRef_resolves hr), hn₂, hc₂, hp₂, hpa₂⟩
  · rintro b ⟨hs, hnb, hcb, hpb, hpab⟩
    refine ⟨hs, hindex.trans hsize, hpab.trans (hb₁ ▸ hpa), ?_, ?_, var, ?_⟩
    · rw [hcb, hb₁]
      exact (Builder.children_eq_of_layout hl : b'.children = b₀.children)
    · rw [hpb, hb₁, hindex, Array.toList_push]
      rw [show b'.placements.toList = b₀.placements.toList from congrArg Layout.placements hl]
    · rw [hnb, hb₁, Array.toList_push, hn, hpa]
      exact ⟨_, rfl⟩

/-- Adding a nested instance adds it under the current parent, with props whose callbacks are the
component's, and its placement. -/
theorem addChild_layout (name : String) (props : List PropBinding) {b₀ : Builder}
    (h₀ : b₀.Sound m.handlers.length c.callbacks) :
    Spec (· = b₀) (addChild (Scope.ofSource c) m name props)
      (fun _ b => b.Sound m.handlers.length c.callbacks ∧ b.nodes = b₀.nodes ∧
        b.parent = b₀.parent ∧ b.placements.toList = b₀.placements.toList ++ [.child b₀.children.size] ∧
        ∃ var out, b.children.toList = b₀.children.toList ++ [⟨var, name, b₀.parent, out⟩])
      (fun _ => True) := by
  unfold addChild
  refine Spec.bind (nextVar_layout name) fun var => Spec.of_forall fun b₁ hb₁ => ?_
  obtain ⟨x, hx, hl, hpa⟩ := hb₁
  rw [hx] at hl hpa
  have hs₁ := h₀.of_layout hl hpa
  have hc : b₁.children.toList = b₀.children.toList := congrArg Layout.children hl
  have hp : b₁.placements.toList = b₀.placements.toList := congrArg Layout.placements hl
  -- the props are made without touching the builder
  let Made : Array ChildProp → Builder → Prop := fun out b =>
    b = b₁ ∧ PropsResolve m.handlers.length c.callbacks out.toList
  refine Spec.bind (Spec.mono (Spec.forIn_yield (fun _ out b => Made out b)
    fun pre p post hps out => ?_) (fun b hb => ⟨hb, fun _ h => absurd h List.not_mem_nil⟩)
    (fun _ _ h => h) (fun _ h => h)) fun out => ?_
  · have hpush : ∀ value : ChildPropValue,
        (∀ r, value = .callback r → r.resolves m.handlers.length c.callbacks = true) →
        Spec (Made out) (pure (ForInStep.yield (out.push { name := p.name, value := value })) : Build _)
          (fun step s => ∃ out', step = .yield out' ∧ Made out' s) (fun _ => True) := by
      intro value hv
      refine Spec.pure _ fun s hs => ⟨_, rfl, hs.1, fun p' hp' r hr => ?_⟩
      rw [Array.toList_push] at hp'
      rcases List.mem_append.mp hp' with hold | hnew
      · exact hs.2 p' hold r hr
      · rw [List.mem_singleton.mp hnew] at hr
        exact hv r hr
    simp only
    split
    · simp only [pure_bind]
      exact Spec.bind (liftCheck_spec _) fun _ => Spec.bind (liftCheck_spec _) fun _ =>
        hpush _ fun _ hr => nomatch hr
    · simp only [pure_bind]
      exact hpush _ fun _ hr => nomatch hr
    · simp only [pure_bind]
      refine Spec.bind (liftCheck_ok _) fun r => ?_
      rintro s ⟨hs, hr⟩
      exact hpush (.callback r) (fun r' hr' => by
        cases hr'
        exact handlerRef_resolves hr) s hs
  · refine Spec.mono (Spec.change _) (fun _ h => h) ?_ (fun _ h => h)
    rintro _ s ⟨s₀, ⟨rfl, hout⟩, rfl⟩
    refine ⟨hs₁.pushChild var name hout, ?_, hpa, ?_, var, out.toList, ?_⟩
    · exact (Builder.nodes_eq_of_layout hl : s₀.nodes = b₀.nodes)
    · rw [Array.toList_push, hp, ← Array.length_toList, hc, Array.length_toList]
    · rw [Array.toList_push, hc, hpa]

mutual
/-- Walking a template node from a sound builder places that node and everything inside it, in
pre-order, and leaves the parent as it found it. -/
theorem walkNode_layout : ∀ (n : TemplateNode) (b₀ : Builder),
    b₀.Sound m.handlers.length c.callbacks →
    Spec (· = b₀) (walkNode (Scope.ofSource c) m n)
      (fun _ b => b.Walked m.handlers.length c.callbacks b₀ (preorderNode n) ∧ b.parent = b₀.parent)
      (fun _ => True)
  | .element tag attrs events children, b₀, h₀ => by
    rw [walkNode, preorderNode]
    refine Spec.bind (addElement_layout tag attrs events h₀) fun index =>
      Spec.of_forall fun b₁ hb₁ => ?_
    obtain ⟨hs₁, hindex, hpa₁, hc₁, hp₁, var, fixed, hn₁⟩ := hb₁
    have hel : elementAt b₁.nodes.toList index = true := by
      rw [hn₁, hindex, ← Array.length_toList]
      simp [elementAt, NodeKind.isElement]
    have hw₁ : b₁.Walked m.handlers.length c.callbacks b₀ [.element tag attrs events children] := by
      refine .single hs₁ (by rw [hn₁]; exact List.prefix_append _ _)
        (hc₁ ▸ List.prefix_refl _) hp₁ ⟨fixed, ?_⟩
      rw [hn₁, hindex, ← Array.length_toList]
      simp
    -- what is inside the element is walked with the element as parent; then the parent is restored
    refine Spec.bind Spec.get fun b => Spec.of_forall fun s ⟨hs, hb⟩ => ?_
    rw [hb, hs]
    refine Spec.bind (Spec.change _) fun _ => ?_
    refine Spec.bind (Spec.mono (walkNodes_layout children { b₁ with parent := some index }
      (hs₁.setParent fun q hq => Option.some.inj hq ▸ hel)) ?_ (fun _ _ h => h) (fun _ h => h))
      fun _ => Spec.mono (Spec.change _) (fun _ h => h) ?_ (fun _ h => h)
    · rintro _ ⟨_, rfl, rfl⟩
      rfl
    · rintro _ b₃ ⟨b₂, ⟨hw₂, hpa₂⟩, rfl⟩
      have hw₂' : b₂.Walked m.handlers.length c.callbacks b₁ (preorderNodes children) :=
        hw₂.of_start rfl rfl rfl
      -- the restored parent is the element's own parent, still an element
      have hs₃ : ({ b₂ with parent := b₁.parent } : Builder).Sound m.handlers.length c.callbacks :=
        hw₂.sound.setParent fun q hq =>
          elementAt_mono (hw₁.nodes.trans hw₂'.nodes) (h₀.parent q (hpa₁ ▸ hq))
      exact ⟨hw₁.trans (hw₂'.of_end hs₃ rfl rfl rfl), hpa₁⟩
  | .component name props, b₀, h₀ => by
    rw [walkNode, preorderNode]
    refine Spec.mono (addChild_layout name props h₀) (fun _ h => h) ?_ (fun _ h => h)
    rintro _ b ⟨hs, hn, hpa, hp, var, out, hc⟩
    refine ⟨.single hs (hn ▸ List.prefix_refl _)
      (by rw [hc]; exact List.prefix_append _ _) hp ?_, hpa⟩
    show (b.children.toList[b₀.children.size]?).map (·.component) = some name
    rw [hc, ← Array.length_toList]
    simp
  | .text value, b₀, h₀ => by
    rw [walkNode, preorderNode]
    refine Spec.bind (nextVar_layout "txt") fun var => Spec.bind (pushNode_layout var _) fun _ =>
      Spec.pure _ ?_
    rintro _ ⟨b₁, ⟨x, hx, hl, hpa⟩, -, rfl⟩
    rw [hx] at hl hpa
    exact ⟨.pushNode h₀ hl hpa var _ (kind_push _), hpa⟩
  | .expression code, b₀, h₀ => by
    rw [walkNode, preorderNode]
    refine Spec.bind (nextVar_layout "txt") fun var => Spec.bind (pushNode_layout var _) fun index =>
      Spec.of_forall fun b₂ hb₂ => ?_
    obtain ⟨b₁, ⟨x, hx, hl, hpa⟩, hindex, rfl⟩ := hb₂
    rw [hx] at hl hpa
    have hw : ({ b₁ with nodes := b₁.nodes.push ⟨var, .text "", b₁.parent⟩,
                         placements := b₁.placements.push (.node b₁.nodes.size) } : Builder).Walked
        m.handlers.length c.callbacks b₀ [.expression code] :=
      .pushNode h₀ hl hpa var _ (kind_push _)
    -- the expression's binding writes the text node just added
    refine Spec.mono (bindExpr_layout _ _ _ _ _) (fun _ h => h) ?_ (fun _ h => h)
    rintro _ s ⟨_, rfl, bp, hnode, htarget, rfl⟩
    have hwrite : writableAt (b₁.nodes.push ⟨var, .text "", b₁.parent⟩).toList bp.node bp.target =
        true := by
      rw [hnode, htarget, hindex, Array.toList_push, ← Array.length_toList]
      simp [writableAt, BindingTarget.writes]
    exact ⟨hw.of_end (hw.sound.pushBinding hwrite) rfl rfl rfl, hpa⟩

/-- Walking template nodes from a sound builder places them and everything inside them, in
pre-order, and leaves the parent as it found it. -/
theorem walkNodes_layout : ∀ (ns : List TemplateNode) (b₀ : Builder),
    b₀.Sound m.handlers.length c.callbacks →
    Spec (· = b₀) (walkNodes (Scope.ofSource c) m ns)
      (fun _ b => b.Walked m.handlers.length c.callbacks b₀ (preorderNodes ns) ∧
        b.parent = b₀.parent)
      (fun _ => True)
  | [], b₀, h₀ => by
    rw [walkNodes, preorderNodes]
    refine Spec.pure _ fun _ hs => ?_
    subst hs
    exact ⟨.refl h₀, rfl⟩
  | n :: rest, b₀, h₀ => by
    rw [walkNodes, preorderNodes]
    refine Spec.bind (walkNode_layout n b₀ h₀) fun _ => Spec.of_forall fun b₁ hb₁ => ?_
    exact Spec.mono (walkNodes_layout rest b₁ hb₁.1.sound) (fun _ h => h)
      (fun _ _ h => ⟨hb₁.1.trans h.1, h.2.trans hb₁.2⟩) (fun _ h => h)
end

end

/-! ## Compiled plans -/

/-- Every compiled plan is well laid out. -/
theorem planComponent_wellFormed {c : ComponentSource} {plan : ComponentPlan}
    (h : planComponent c = .ok plan) : plan.layout.WellFormed plan.handlers.length plan.callbacks := by
  obtain ⟨m, order, b, -, -, hwalk, hplan⟩ := planComponent_ok h
  have hstart : (⟨1, takenNames c, none, #[], #[], #[], #[], #[]⟩ : Builder).Sound
      m.handlers.length c.callbacks := ⟨Layout.WellFormed.empty, fun _ h => nomatch h⟩
  obtain ⟨⟨hsound, -⟩, -⟩ := (walkNodes_layout c.nodes _ hstart).of_ok rfl hwalk
  subst hplan
  -- the reactive flags of bindings and props change nothing the layout reads
  rw [List.length_map]
  refine hsound.layout.map _ _ (fun _ => ⟨rfl, rfl⟩) fun ch => ⟨rfl, fun p hp r hr => ?_⟩
  obtain ⟨p₀, hp₀, rfl⟩ := List.mem_map.mp hp
  cases hv : p₀.value with
  | expression e deps reactive =>
    rw [hv] at hr
    cases hr
  | callback r' =>
    rw [hv] at hr
    exact ⟨p₀, hp₀, hr⟩

/-- Every compiled plan is well laid out, and its placements follow the template in pre-order:
the `k`-th placement is made for the `k`-th node of the template. -/
theorem planComponent_layout {c : ComponentSource} {plan : ComponentPlan}
    (h : planComponent c = .ok plan) :
    plan.layout.WellFormed plan.handlers.length plan.callbacks ∧
      List.Forall₂ (PlacedAs plan.nodes plan.children) plan.placements (preorderNodes c.nodes) := by
  obtain ⟨m, order, b, -, -, hwalk, hplan⟩ := planComponent_ok h
  have hstart : (⟨1, takenNames c, none, #[], #[], #[], #[], #[]⟩ : Builder).Sound
      m.handlers.length c.callbacks := ⟨Layout.WellFormed.empty, fun _ h => nomatch h⟩
  obtain ⟨⟨-, -, -, new, hnew, hrel⟩, -⟩ := (walkNodes_layout c.nodes _ hstart).of_ok rfl hwalk
  refine ⟨planComponent_wellFormed h, ?_⟩
  subst hplan
  have hplaced : b.placements.toList = new := by simpa using hnew
  show List.Forall₂ (PlacedAs b.nodes.toList (b.children.toList.map _)) b.placements.toList _
  rw [hplaced]
  refine hrel.imp fun _ _ hpl => ?_
  exact hpl.map_children (by intro; rfl)

/-- A panel with a dynamic attribute, a text binding, a nested instance passing a value and a
callback, and a button whose click runs a handler. -/
def panelSource : ComponentSource where
  name := "Panel"
  filePath := "src/Panel.comp"
  states := [⟨"title", "'Hi'"⟩, ⟨"count", "0"⟩]
  derived := []
  handlers := [⟨"bump", "count = count + 1"⟩]
  props := []
  callbacks := ["onClose"]
  nodes := [.element "section" [⟨"title", .dynamic "title"⟩] [] [
    .element "h1" [] [] [.expression "title"],
    .component "Badge" [⟨"n", .expression "count"⟩, ⟨"close", .callback "onClose"⟩],
    .element "button" [] [⟨"click", "bump"⟩] [.text "+"]]]

theorem panel_layout :
    ∃ plan, planComponent panelSource = .ok plan ∧
      plan.layout.WellFormed plan.handlers.length plan.callbacks ∧
      List.Forall₂ (PlacedAs plan.nodes plan.children) plan.placements
        (preorderNodes panelSource.nodes) := by
  obtain ⟨plan, hplan⟩ := exists_planComponent_eq_ok panelSource (by decide +kernel)
  exact ⟨plan, hplan, planComponent_layout hplan⟩

/- The section, the heading and its text are placed before the badge, then the button and its
text. -/
example : (planComponent panelSource).toOption.map (·.placements.map Placement.node?) =
    some [some 0, some 1, some 2, none, some 3, some 4] := by decide +kernel

end Reactive.Component
