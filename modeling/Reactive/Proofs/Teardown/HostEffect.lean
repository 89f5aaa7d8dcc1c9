import Reactive.Proofs.Teardown.Footprint

/-!
# What host operations do to child lists and live subscriptions

Teardown restores the children of the container and the live subscriptions, and balances the
appends and removes the host logs for the container. This file follows those three things
through each host operation.

* `Host.OnlyWrites h h'`: child lists and live subscriptions unchanged, only writes logged. Every
  propagation pass, dispatch and update does no more than this.
* `Host.Grows h h' fps`: what a mount does, given the footprints `fps` of what it mounted. The
  child list of each node that existed gains only roots of those footprints appended to it,
  the live subscriptions gain only theirs, nothing is removed, and the appends logged for a node
  that existed are as many as their roots appended to it.
* `Host.release`: what unmounting one instance does.
-/

namespace Reactive

open Component

/-- Whether a call appends a child to node `y`. -/
def HostCall.appendsTo (y : Nat) : HostCall → Bool
  | .append parent _ => parent == y
  | _ => false

/-- Whether a call removes a child from node `y`. -/
def HostCall.removesFrom (y : Nat) : HostCall → Bool
  | .remove parent _ => parent == y
  | _ => false

/-- A write appends to and removes from no node. -/
theorem HostCall.not_appendsTo_of_isWrite {w : HostCall} (hw : w.isWrite) (y : Nat) :
    w.appendsTo y = false ∧ w.removesFrom y = false := by
  cases w <;> first | exact ⟨rfl, rfl⟩ | cases hw

namespace Host

/-- The children of a node, if there is one. -/
def childrenOf (h : Host) (y : Nat) : Option (List Nat) := (h.node? y).map (·.children)

/-! ## Single operations -/

/-- The children of nodes depend on the nodes only. -/
theorem childrenOf_of_nodes {h h' : Host} (hn : h'.nodes = h.nodes) (y : Nat) :
    h'.childrenOf y = h.childrenOf y := by
  unfold childrenOf node?
  rw [hn]

theorem childrenOf_modifyNode (h : Host) (p : Nat) (f : HostNode → HostNode) (y : Nat) :
    (h.modifyNode p f).childrenOf y =
      if y = p then (h.node? y).map (fun n => (f n).children) else h.childrenOf y := by
  unfold childrenOf
  rw [Host.node?_modifyNode]
  split
  · rw [Option.map_map]
    rfl
  · rfl

/-- A node numbered after the last one changes no node that existed. -/
theorem node?_alloc_of_le (h : Host) (n : HostNode) {y : Nat} (hy : y ≤ h.lastId) :
    (h.alloc n).2.node? y = h.node? y := by
  unfold alloc node?
  simp only
  rw [List.lookup_append, List.lookup_cons, List.lookup_nil]
  have hne : (y == h.lastId + 1) = false := by simp; omega
  rw [hne, Option.or_none]

/-- Changing what a node holds but its children keeps every child list. -/
theorem childrenOf_modifyNode_of_children (h : Host) (p : Nat) {f : HostNode → HostNode}
    (hf : ∀ n, (f n).children = n.children) (y : Nat) :
    (h.modifyNode p f).childrenOf y = h.childrenOf y := by
  rw [childrenOf_modifyNode]
  split
  · simp only [hf]
    rfl
  · rfl

theorem childrenOf_setAttribute (h : Host) (node : Nat) (name value : String) (y : Nat) :
    (h.setAttribute node name value).childrenOf y = h.childrenOf y := by
  have e : (h.setAttribute node name value).childrenOf y = (h.modifyNode node fun n =>
      { n with attributes := setSorted name value n.attributes }).childrenOf y :=
    childrenOf_of_nodes rfl y
  rw [e]
  apply childrenOf_modifyNode_of_children
  exact fun _ => rfl

theorem childrenOf_setText (h : Host) (node : Nat) (value : String) (y : Nat) :
    (h.setText node value).childrenOf y = h.childrenOf y := by
  have e : (h.setText node value).childrenOf y =
      (h.modifyNode node fun n => { n with text := value }).childrenOf y :=
    childrenOf_of_nodes rfl y
  rw [e]
  apply childrenOf_modifyNode_of_children
  exact fun _ => rfl

theorem childrenOf_hostWrite (h : Host) (handle : Nat) (target : BindingTarget) (value : String)
    (y : Nat) : (Act.hostWrite h handle target value).childrenOf y = h.childrenOf y := by
  cases target
  · exact childrenOf_setText h handle value y
  · exact childrenOf_setAttribute h handle _ value y

theorem childrenOf_appendChild (h : Host) (p child y : Nat) :
    (h.appendChild p child).childrenOf y =
      if y = p then (h.childrenOf y).map (· ++ [child]) else h.childrenOf y := by
  have e : (h.appendChild p child).childrenOf y =
      (h.modifyNode p fun n => { n with children := n.children ++ [child] }).childrenOf y :=
    childrenOf_of_nodes rfl y
  rw [e, childrenOf_modifyNode]
  split
  · simp [childrenOf, Option.map_map, Function.comp_def]
  · rfl

theorem childrenOf_removeChild (h : Host) (p child y : Nat) :
    (h.removeChild p child).childrenOf y =
      if y = p then (h.childrenOf y).map (·.filter (· != child)) else h.childrenOf y := by
  have e : (h.removeChild p child).childrenOf y =
      (h.modifyNode p fun n => { n with children := n.children.filter (· != child) }).childrenOf y :=
    childrenOf_of_nodes rfl y
  rw [e, childrenOf_modifyNode]
  split
  · simp [childrenOf, Option.map_map, Function.comp_def]
  · rfl

/-! ## Runs that only write -/

/-- A run of the host that numbers no node, keeps every child list and the live subscriptions,
and logs only writes. -/
structure OnlyWrites (h h' : Host) : Prop where
  lastId : h'.lastId = h.lastId
  children : ∀ y, h'.childrenOf y = h.childrenOf y
  live : h'.live = h.live
  calls : ∃ ws, h'.calls = h.calls ++ ws ∧ ∀ w ∈ ws, w.isWrite

namespace OnlyWrites

theorem refl (h : Host) : OnlyWrites h h :=
  ⟨rfl, fun _ => rfl, rfl, [], (List.append_nil _).symm, fun _ h => absurd h List.not_mem_nil⟩

theorem trans {h₁ h₂ h₃ : Host} (h₁₂ : OnlyWrites h₁ h₂) (h₂₃ : OnlyWrites h₂ h₃) :
    OnlyWrites h₁ h₃ := by
  obtain ⟨ws₁, hws₁, hw₁⟩ := h₁₂.calls
  obtain ⟨ws₂, hws₂, hw₂⟩ := h₂₃.calls
  refine ⟨h₂₃.lastId.trans h₁₂.lastId, fun y => (h₂₃.children y).trans (h₁₂.children y),
    h₂₃.live.trans h₁₂.live, ws₁ ++ ws₂, by rw [hws₂, hws₁, List.append_assoc], fun w hw => ?_⟩
  rcases List.mem_append.mp hw with hw | hw
  · exact hw₁ w hw
  · exact hw₂ w hw

theorem hostWrite (h : Host) (handle : Nat) (target : BindingTarget) (value : String) :
    OnlyWrites h (Act.hostWrite h handle target value) := by
  refine ⟨?_, childrenOf_hostWrite h handle target value, ?_, [Act.writeCall handle target value],
    Act.hostWrite_calls h handle target value, fun w hw => ?_⟩
  · cases target <;> rfl
  · cases target
    · rfl
    · exact setAttribute_live ..
  · rw [List.mem_singleton.mp hw]
    cases target <;> rfl

theorem setAttribute (h : Host) (node : Nat) (name value : String) :
    OnlyWrites h (h.setAttribute node name value) :=
  hostWrite h node (.attribute name) value

/-- A fold of writes only writes. -/
theorem foldl {α : Type} (f : Host → α → Host) (hf : ∀ h a, OnlyWrites h (f h a)) :
    ∀ (as : List α) (h : Host), OnlyWrites h (as.foldl f h)
  | [], h => refl h
  | a :: as, h => (hf h a).trans (foldl f hf as _)

theorem writeAll (s : InstanceState) : ∀ (h : Host) (bs : List BindingPlan),
    OnlyWrites h (Act.writeAll s h bs)
  | h, [] => refl h
  | h, b :: bs => (hostWrite h _ b.target _).trans (writeAll s _ bs)

theorem takeFired (h : Host) : OnlyWrites h h.takeFired.2 :=
  ⟨rfl, fun _ => rfl, rfl, [], (List.append_nil _).symm, fun _ h => absurd h List.not_mem_nil⟩

theorem fireOnWrite (h : Host) (node : Nat) (attr event : String) :
    OnlyWrites h (h.fireOnWrite node attr event) := by
  unfold Host.fireOnWrite
  dsimp only
  split
  · exact refl h
  · exact ⟨rfl, fun _ => rfl, rfl, [], (List.append_nil _).symm,
      fun _ h => absurd h List.not_mem_nil⟩

end OnlyWrites

/-! ## What a mount does -/

/-- What a mount does to the host, given the roots `R y` it appends to each node `y` and the
numbers `subs` of the subscriptions it makes. Node numbers only grow. The child list of a node
that existed (node `0` apart, which stands for a missing handle) gains only nodes of `R y`,
appended; the live subscriptions gain only ones numbered in `subs`. Nothing is removed, and the
appends logged for a node that existed are as many as `R y` holds. -/
structure Grows (h h' : Host) (R : Nat → List Nat) (subs : List Nat) : Prop where
  lastId : h.lastId ≤ h'.lastId
  children : ∀ y, 0 < y → y ≤ h.lastId →
    ∃ Z, h'.childrenOf y = (h.childrenOf y).map (· ++ Z) ∧ ∀ z ∈ Z, z ∈ R y
  live : ∃ X, h'.live = h.live ++ X ∧ ∀ x ∈ X, x.id ∈ subs
  calls : ∃ log, h'.calls = h.calls ++ log ∧ (∀ w ∈ log, ∀ y, w.removesFrom y = false) ∧
    ∀ y, 0 < y → y ≤ h.lastId → log.countP (HostCall.appendsTo y) = (R y).length

namespace Grows

variable {h₁ h₂ h₃ : Host} {R R' : Nat → List Nat} {subs subs' : List Nat}

theorem trans (h₁₂ : Grows h₁ h₂ R subs) (h₂₃ : Grows h₂ h₃ R' subs') :
    Grows h₁ h₃ (fun y => R y ++ R' y) (subs ++ subs') := by
  obtain ⟨X₁, hX₁, hx₁⟩ := h₁₂.live
  obtain ⟨X₂, hX₂, hx₂⟩ := h₂₃.live
  obtain ⟨log₁, hlog₁, hrm₁, happ₁⟩ := h₁₂.calls
  obtain ⟨log₂, hlog₂, hrm₂, happ₂⟩ := h₂₃.calls
  refine ⟨Nat.le_trans h₁₂.lastId h₂₃.lastId, fun y hy hle => ?_, ⟨X₁ ++ X₂, ?_, fun x hx => ?_⟩,
    ⟨log₁ ++ log₂, ?_, fun w hw => ?_, fun y hy hle => ?_⟩⟩
  · obtain ⟨Z₁, hZ₁, hz₁⟩ := h₁₂.children y hy hle
    obtain ⟨Z₂, hZ₂, hz₂⟩ := h₂₃.children y hy (Nat.le_trans hle h₁₂.lastId)
    refine ⟨Z₁ ++ Z₂, ?_, fun z hz => ?_⟩
    · rw [hZ₂, hZ₁, Option.map_map]
      simp [Function.comp_def]
    · rcases List.mem_append.mp hz with hz | hz
      · exact List.mem_append_left _ (hz₁ z hz)
      · exact List.mem_append_right _ (hz₂ z hz)
  · rw [hX₂, hX₁, List.append_assoc]
  · rcases List.mem_append.mp hx with hx | hx
    · exact List.mem_append_left _ (hx₁ x hx)
    · exact List.mem_append_right _ (hx₂ x hx)
  · rw [hlog₂, hlog₁, List.append_assoc]
  · rcases List.mem_append.mp hw with hw | hw
    · exact hrm₁ w hw
    · exact hrm₂ w hw
  · rw [List.countP_append, happ₁ y hy hle, happ₂ y hy (Nat.le_trans hle h₁₂.lastId), List.length_append]

/-- The roots and subscriptions may be given in another order, and the roots of nodes that did
not exist may be given as anything. -/
theorem congr (hg : Grows h₁ h₂ R subs) (hR : ∀ y, 0 < y → y ≤ h₁.lastId → (R y).Perm (R' y))
    (hs : ∀ x ∈ subs, x ∈ subs') : Grows h₁ h₂ R' subs' := by
  obtain ⟨X, hX, hx⟩ := hg.live
  obtain ⟨log, hlog, hrm, happ⟩ := hg.calls
  refine ⟨hg.lastId, fun y hy hle => ?_, ⟨X, hX, fun x hxX => hs _ (hx x hxX)⟩,
    ⟨log, hlog, hrm, fun y hy hle => (happ y hy hle).trans (hR y hy hle).length_eq⟩⟩
  obtain ⟨Z, hZ, hz⟩ := hg.children y hy hle
  exact ⟨Z, hZ, fun z hzZ => (hR y hy hle).subset (hz z hzZ)⟩

theorem of_onlyWrites (hw : OnlyWrites h₁ h₂) : Grows h₁ h₂ (fun _ => []) [] := by
  obtain ⟨ws, hws, hw'⟩ := hw.calls
  refine ⟨Nat.le_of_eq hw.lastId.symm, fun y _ _ => ⟨[], by rw [hw.children y]; simp, fun _ h => h⟩,
    ⟨[], by rw [hw.live, List.append_nil], fun _ h => absurd h List.not_mem_nil⟩,
    ⟨ws, hws, fun w hw y => (HostCall.not_appendsTo_of_isWrite (hw' w hw) y).2, fun y _ _ => ?_⟩⟩
  show _ = 0
  rw [List.countP_eq_zero]
  intro w hw happ
  rw [(HostCall.not_appendsTo_of_isWrite (hw' w hw) y).1] at happ
  exact Bool.false_ne_true happ

theorem refl (h : Host) : Grows h h (fun _ => []) [] := of_onlyWrites (OnlyWrites.refl h)

/-- Two steps that append and subscribe nothing. -/
theorem trans_nil (h₁₂ : Grows h₁ h₂ (fun _ => []) []) (h₂₃ : Grows h₂ h₃ (fun _ => []) []) :
    Grows h₁ h₃ (fun _ => []) [] :=
  (h₁₂.trans h₂₃).congr (fun _ _ _ => by simp) fun _ hx => by simp at hx

/-- A node numbered after the last one. -/
theorem alloc (h : Host) (n : HostNode) : Grows h (h.alloc n).2 (fun _ => []) [] := by
  refine ⟨Nat.le_succ _, fun y _ hy => ⟨[], ?_, fun _ h => absurd h List.not_mem_nil⟩,
    ⟨[], (List.append_nil _).symm, fun _ h => absurd h List.not_mem_nil⟩,
    ⟨[], (List.append_nil _).symm, fun _ h => absurd h List.not_mem_nil, fun _ _ _ => rfl⟩⟩
  have e : (h.alloc n).2.childrenOf y = h.childrenOf y := by
    unfold childrenOf
    rw [node?_alloc_of_le h n hy]
  rw [e]
  simp

/-- A call that neither appends nor removes, logged. -/
theorem record (h : Host) {c : HostCall} (hc : ∀ y, c.appendsTo y = false ∧ c.removesFrom y = false) :
    Grows h (h.record c) (fun _ => []) [] := by
  refine ⟨Nat.le_refl _, fun y _ _ => ⟨[], ?_, fun _ h => absurd h List.not_mem_nil⟩,
    ⟨[], (List.append_nil _).symm, fun _ h => absurd h List.not_mem_nil⟩,
    ⟨[c], rfl, fun w hw y => ?_, fun y _ _ => ?_⟩⟩
  · have e : (h.record c).childrenOf y = h.childrenOf y := childrenOf_of_nodes rfl y
    rw [e]
    simp
  · rw [List.mem_singleton.mp hw]
    exact (hc y).2
  · simp [(hc y).1]

/-- Creating the host node of a planned node numbers one node and appends nothing. -/
theorem make (k : NodeKind) (h : Host) :
    Grows h (k.make h).2 (fun _ => []) [] ∧ (k.make h).1 = h.lastId + 1 ∧
      (k.make h).2.lastId = h.lastId + 1 := by
  cases k with
  | element tag attributes =>
    have hcreate : Grows h (h.createElement tag).2 (fun _ => []) [] :=
      (alloc h _).trans_nil (record _ fun _ => ⟨rfl, rfl⟩)
    -- the static attributes are writes to the new element
    have hw : OnlyWrites (h.createElement tag).2 ((NodeKind.element tag attributes).make h).2 :=
      OnlyWrites.foldl _ (fun h' a => OnlyWrites.setAttribute h' _ a.1 a.2) attributes _
    exact ⟨hcreate.trans_nil (of_onlyWrites hw), rfl, hw.lastId⟩
  | text value =>
    exact ⟨(alloc h _).trans_nil (record _ fun _ => ⟨rfl, rfl⟩), rfl, rfl⟩

/-- A subscription numbered after the last node or subscription. -/
theorem subscribe (h : Host) (node : Nat) (event : String) (key : HandlerKey) :
    Grows h (h.subscribe node event key).2 (fun _ => []) [h.lastId + 1] ∧
      (h.subscribe node event key).1 = h.lastId + 1 ∧
      (h.subscribe node event key).2.lastId = h.lastId + 1 := by
  refine ⟨⟨Nat.le_succ _, fun y _ _ => ⟨[], ?_, fun _ h => absurd h List.not_mem_nil⟩,
    ⟨[⟨h.lastId + 1, node, event, key⟩], rfl, fun x hx => ?_⟩,
    ⟨[.subscribe (h.lastId + 1) node event], rfl, fun w hw y => ?_, fun y _ _ => rfl⟩⟩, rfl, rfl⟩
  · have e : (h.subscribe node event key).2.childrenOf y = h.childrenOf y :=
      childrenOf_of_nodes rfl y
    rw [e]
    simp
  · rw [List.mem_singleton.mp hx]
    exact List.mem_singleton_self _
  · rw [List.mem_singleton.mp hw]
    rfl

/-- Appending a child to a node. -/
theorem appendChild (h : Host) (p child : Nat) :
    Grows h (h.appendChild p child) (fun y => if y = p then [child] else []) [] := by
  refine ⟨Nat.le_refl _, fun y _ _ => ?_,
    ⟨[], (List.append_nil _).symm, fun _ h => absurd h List.not_mem_nil⟩,
    ⟨[.append p child], rfl, fun w hw y => ?_, fun y _ _ => ?_⟩⟩
  · rw [childrenOf_appendChild]
    by_cases hyp : y = p
    · exact ⟨[child], by rw [if_pos hyp], fun z hz => by rw [if_pos hyp]; exact hz⟩
    · exact ⟨[], by rw [if_neg hyp]; simp, fun _ h => absurd h List.not_mem_nil⟩
  · rw [List.mem_singleton.mp hw]
    rfl
  · by_cases hyp : y = p
    · subst hyp
      simp [HostCall.appendsTo]
    · have hpy : (p == y) = false := beq_eq_false_iff_ne.mpr (Ne.symm hyp)
      simp [HostCall.appendsTo, hpy, hyp]

end Grows

/-! ## Releasing a footprint -/

/-- Removes nodes from the children of node `c`, in order. -/
def removeAll (h : Host) (c : Nat) (ls : List Nat) : Host := ls.foldl (fun h r => h.removeChild c r) h

/-- Ends subscriptions, in order. -/
def unsubscribeAll (h : Host) (ls : List Nat) : Host := ls.foldl Host.unsubscribe h

/-- What unmounting an instance does to the host: its subscriptions end and its roots leave its
container, both last first. -/
def release (h : Host) (fp : Footprint) : Host :=
  let h := h.unsubscribeAll fp.subscriptions.reverse
  match fp.container with
  | some c => h.removeAll c fp.roots.reverse
  | none => h

theorem childrenOf_removeAll (c : Nat) :
    ∀ (ls : List Nat) (h : Host) (y : Nat), (h.removeAll c ls).childrenOf y =
      if y = c then (h.childrenOf y).map (·.filter fun z => !ls.contains z) else h.childrenOf y
  | [], h, y => by
    unfold removeAll
    split <;> simp
  | l :: ls, h, y => by
    unfold removeAll
    rw [List.foldl_cons]
    rw [← removeAll, childrenOf_removeAll c ls, childrenOf_removeChild]
    by_cases hy : y = c
    · simp only [if_pos hy, Option.map_map, Function.comp_def, List.filter_filter]
      congr
      funext zs
      congr
      funext z
      rw [List.contains_cons, Bool.not_or, Bool.and_comm]
      rfl
    · simp only [if_neg hy]

theorem live_removeAll (c : Nat) : ∀ (ls : List Nat) (h : Host), (h.removeAll c ls).live = h.live
  | [], _ => rfl
  | _ :: ls, _ => live_removeAll c ls _

theorem lastId_removeAll (c : Nat) : ∀ (ls : List Nat) (h : Host),
    (h.removeAll c ls).lastId = h.lastId
  | [], _ => rfl
  | _ :: ls, _ => lastId_removeAll c ls _

theorem calls_removeAll (c : Nat) : ∀ (ls : List Nat) (h : Host),
    (h.removeAll c ls).calls = h.calls ++ ls.map (HostCall.remove c)
  | [], h => by simp [removeAll]
  | l :: ls, h => by
    unfold removeAll
    rw [List.foldl_cons, ← removeAll, calls_removeAll c ls]
    simp [removeChild, record, modifyNode]

theorem childrenOf_unsubscribeAll : ∀ (ls : List Nat) (h : Host) (y : Nat),
    (h.unsubscribeAll ls).childrenOf y = h.childrenOf y
  | [], _, _ => rfl
  | _ :: ls, _, y => (childrenOf_unsubscribeAll ls _ y).trans (childrenOf_of_nodes rfl y)

theorem live_unsubscribeAll : ∀ (ls : List Nat) (h : Host),
    (h.unsubscribeAll ls).live = h.live.filter fun x => !ls.contains x.id
  | [], h => by simp [unsubscribeAll]
  | l :: ls, h => by
    unfold unsubscribeAll
    rw [List.foldl_cons, ← unsubscribeAll, live_unsubscribeAll ls]
    simp only [unsubscribe, record, List.filter_filter]
    congr
    funext x
    rw [List.contains_cons, Bool.not_or, Bool.and_comm]
    rfl

theorem lastId_unsubscribeAll : ∀ (ls : List Nat) (h : Host),
    (h.unsubscribeAll ls).lastId = h.lastId
  | [], _ => rfl
  | _ :: ls, _ => lastId_unsubscribeAll ls _

theorem calls_unsubscribeAll : ∀ (ls : List Nat) (h : Host),
    (h.unsubscribeAll ls).calls = h.calls ++ ls.map HostCall.unsubscribe
  | [], h => by simp [unsubscribeAll]
  | l :: ls, h => by
    unfold unsubscribeAll
    rw [List.foldl_cons, ← unsubscribeAll, calls_unsubscribeAll ls]
    simp [unsubscribe, record]

theorem childrenOf_release (h : Host) (fp : Footprint) (y : Nat) :
    (h.release fp).childrenOf y = if fp.container = some y then
      (h.childrenOf y).map (·.filter fun z => !fp.roots.reverse.contains z) else h.childrenOf y := by
  unfold release
  cases hc : fp.container with
  | none =>
    simp only [reduceCtorEq, if_false]
    exact childrenOf_unsubscribeAll _ _ y
  | some c =>
    dsimp only
    rw [childrenOf_removeAll, childrenOf_unsubscribeAll]
    by_cases hy : y = c
    · subst hy
      simp
    · have hcy : ¬some c = some y := fun h => hy (Option.some.inj h).symm
      simp only [hy, hcy, if_false]

theorem live_release (h : Host) (fp : Footprint) :
    (h.release fp).live = h.live.filter fun x => !fp.subscriptions.reverse.contains x.id := by
  unfold release
  cases fp.container with
  | none => exact live_unsubscribeAll _ _
  | some c =>
    dsimp only
    rw [live_removeAll, live_unsubscribeAll]

/-- The calls releasing a footprint logs: its subscriptions end, then its roots leave its
container, both last first. -/
def releaseCalls (fp : Footprint) : List HostCall :=
  fp.subscriptions.reverse.map HostCall.unsubscribe ++
    match fp.container with
    | some c => fp.roots.reverse.map (HostCall.remove c)
    | none => []

theorem calls_release (h : Host) (fp : Footprint) :
    (h.release fp).calls = h.calls ++ releaseCalls fp := by
  unfold release releaseCalls
  cases fp.container with
  | none => simp [calls_unsubscribeAll]
  | some c =>
    dsimp only
    rw [calls_removeAll, calls_unsubscribeAll, List.append_assoc]

/-- Releasing appends to no node, and removes from a node as many times as the footprint has roots
in it. -/
theorem countP_releaseCalls (fp : Footprint) (y : Nat) :
    (releaseCalls fp).countP (HostCall.appendsTo y) = 0 ∧
      (releaseCalls fp).countP (HostCall.removesFrom y) =
        if fp.container = some y then fp.roots.length else 0 := by
  unfold releaseCalls
  cases hc : fp.container with
  | none => simp [List.countP_map, Function.comp_def, HostCall.appendsTo, HostCall.removesFrom]
  | some c =>
    by_cases hcy : c = y
    · subst hcy
      simp [List.countP_map, Function.comp_def, HostCall.appendsTo, HostCall.removesFrom]
    · have hne : (c == y) = false := beq_eq_false_iff_ne.mpr hcy
      have hne' : ¬some c = some y := fun h => hcy (Option.some.inj h)
      simp [List.countP_map, Function.comp_def, HostCall.appendsTo, HostCall.removesFrom, hne, hne']

end Host

end Reactive
