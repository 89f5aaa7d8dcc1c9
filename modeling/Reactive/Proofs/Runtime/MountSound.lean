import Reactive.Proofs.Runtime.Agree
import Reactive.Proofs.Teardown.MountEffect
import Reactive.Proofs.Compose.Program

/-!
# A mount leaves a sound tree

A mount renders an instance in full: it seeds every derived value from its body, makes the host
nodes of the plan, writes every binding once and then mounts the nested instances in place. This
file proves that a mount that succeeds leaves a sound tree (`Instance.Sound`) whenever every plan
of the program is coherent (`ComponentPlan.Coherent`), whatever the host held before.

* `Host.face`: what a node shows, its text and attributes; agreement reads nothing else of the
  host (`InstanceState.Agrees.congr_face`).
* `Host.Extends h h'`: a run of the host that numbers nodes only after `h`'s last number and keeps
  the face of every node numbered until then. Every part of a mount does no more, and a binding
  write to a node numbered later keeps it so.
* `NestedSound base h cs`: nested instances that are sound on `h`, write apart from one another,
  and write only nodes numbered after `base`.
* `mount_sound`: by induction on the depth bound, a mount makes its nodes after the host's last
  number and writes only them, so the instance agrees with the host once its bindings are written
  and keeps agreeing while each nested instance is mounted on later nodes.
-/

namespace Reactive

open Component

/-! ## What a host node shows -/

namespace Host

/-- What a node shows: its text and its attributes, its children aside. -/
def face (h : Host) (id : Nat) : Option (String × List (String × String)) :=
  (h.node? id).map fun n => (n.text, n.attributes)

/-- A binding target shows what the face of its node holds. -/
theorem slot_eq_of_face {h h' : Host} {id : Nat} (heq : h'.face id = h.face id)
    (t : BindingTarget) : h'.slot id t = h.slot id t := by
  unfold face at heq
  cases hn : h.node? id with
  | none =>
    rw [hn, Option.map_none, Option.map_eq_none_iff] at heq
    cases t <;> simp only [slot, hn, heq, Option.map_none, Option.bind_none]
  | some n =>
    rw [hn, Option.map_some] at heq
    obtain ⟨n', hn', hface⟩ := Option.map_eq_some_iff.mp heq
    obtain ⟨htext, hattrs⟩ := Prod.mk.inj hface
    cases t <;> simp only [slot, hn, hn', Option.map_some, Option.bind_some, htext, hattrs]

/-- A node exists exactly where it has a face. -/
theorem isSome_node?_of_face {h h' : Host} {id : Nat} (heq : h'.face id = h.face id) :
    (h'.node? id).isSome = (h.node? id).isSome := by
  have hsome := congrArg Option.isSome heq
  simpa only [face, Option.isSome_map] using hsome

theorem face_modifyNode (h : Host) (p : Nat) (f : HostNode → HostNode) (id : Nat) :
    (h.modifyNode p f).face id =
      if id = p then (h.node? id).map (fun n => ((f n).text, (f n).attributes)) else h.face id := by
  unfold face
  rw [node?_modifyNode]
  split
  · rw [Option.map_map]
    rfl
  · rfl

theorem isSome_node?_modifyNode (h : Host) (p : Nat) (f : HostNode → HostNode) (id : Nat) :
    ((h.modifyNode p f).node? id).isSome = (h.node? id).isSome := by
  rw [node?_modifyNode]
  split <;> simp

/-- A run of the host that numbers nodes only after `h`'s last number and keeps what every node
numbered until then shows. -/
structure Extends (h h' : Host) : Prop where
  lastId : h.lastId ≤ h'.lastId
  face : ∀ id ≤ h.lastId, h'.face id = h.face id

namespace Extends

variable {h h₁ h₂ h₃ : Host}

theorem refl (h : Host) : Extends h h := ⟨Nat.le_refl _, fun _ _ => rfl⟩

theorem trans (h₁₂ : Extends h₁ h₂) (h₂₃ : Extends h₂ h₃) : Extends h₁ h₃ :=
  ⟨Nat.le_trans h₁₂.lastId h₂₃.lastId,
    fun id hid => (h₂₃.face id (Nat.le_trans hid h₁₂.lastId)).trans (h₁₂.face id hid)⟩

/-- A run that changes no node and numbers nothing lower. -/
theorem of_nodes (hn : h₁.nodes = h.nodes) (hl : h.lastId ≤ h₁.lastId) : Extends h h₁ :=
  ⟨hl, fun id _ => by unfold Host.face Host.node?; rw [hn]⟩

/-- A node exists after the run where it existed before. -/
theorem isSome_node? (he : Extends h h₁) {id : Nat} (hid : id ≤ h.lastId) :
    (h₁.node? id).isSome = (h.node? id).isSome :=
  isSome_node?_of_face (he.face id hid)

/-- Appending a child changes no face. -/
theorem appendChild (h : Host) (p child : Nat) : Extends h (h.appendChild p child) :=
  ⟨Nat.le_refl _, fun id _ => by
    show (h.modifyNode p fun n => { n with children := n.children ++ [child] }).face id = h.face id
    rw [face_modifyNode]
    split
    · rename_i hid
      rw [hid]
      rfl
    · rfl⟩

/-- A binding write to a node numbered after `h`'s last number. -/
theorem hostWrite (he : Extends h h₁) {p : Nat} (hp : h.lastId < p) (t : BindingTarget)
    (v : String) : Extends h (Act.hostWrite h₁ p t v) := by
  refine ⟨?_, fun id hid => ?_⟩
  · cases t <;> exact he.lastId
  · have hne : id ≠ p := by omega
    have hface : (Act.hostWrite h₁ p t v).face id = h₁.face id := by
      unfold Host.face
      rw [Act.node?_hostWrite_of_ne hne]
    rw [hface]
    exact he.face id hid

/-- Host runs one after another, each keeping the faces, keep them. -/
theorem foldl {α : Type} {f : Host → α → Host} (hf : ∀ h₁ a, Extends h h₁ → Extends h (f h₁ a)) :
    ∀ (as : List α) {h₁ : Host}, Extends h h₁ → Extends h (as.foldl f h₁)
  | [], _, he => he
  | a :: as, _, he => foldl hf as (hf _ a he)

/-- Writing bindings of nodes numbered after `h`'s last number. -/
theorem writeAll (he : Extends h h₁) (s : InstanceState) {bs : List BindingPlan}
    (hbs : ∀ b ∈ bs, h.lastId < s.nodes.getD b.node 0) : Extends h (Act.writeAll s h₁ bs) := by
  induction bs generalizing h₁ with
  | nil => exact he
  | cons b bs ih =>
    rw [Act.writeAll_cons]
    exact ih (he.hostWrite (hbs b List.mem_cons_self) _ _) fun b' hb' =>
      hbs b' (List.mem_cons_of_mem _ hb')

end Extends

/-- A new node, numbered after every other and logged, exists and keeps every node numbered
before. -/
theorem alloc_record_extends (h : Host) (n : HostNode) (c : HostCall) :
    h.Extends ((h.alloc n).2.record c) ∧ (((h.alloc n).2.record c).node? (h.lastId + 1)).isSome := by
  refine ⟨⟨Nat.le_succ _, fun id hid => ?_⟩, ?_⟩
  · show ((h.alloc n).2.node? id).map _ = (h.node? id).map _
    rw [node?_alloc_of_le h n hid]
  · simp [alloc, record, node?, List.lookup_append]

theorem isSome_node?_setAttribute (h : Host) (p : Nat) (name v : String) (id : Nat) :
    ((h.setAttribute p name v).node? id).isSome = (h.node? id).isSome :=
  isSome_node?_modifyNode h p (fun n => { n with attributes := setSorted name v n.attributes }) id

/-- Making the host node of a planned node numbers it right after the last number, where it
exists, and keeps every node numbered before. -/
theorem make_extends (k : NodeKind) (h : Host) :
    h.Extends (k.make h).2 ∧ (k.make h).1 = h.lastId + 1 ∧ (k.make h).2.lastId = h.lastId + 1 ∧
      ((k.make h).2.node? (h.lastId + 1)).isSome := by
  obtain ⟨-, hid, hlast⟩ := Host.Grows.make k h
  refine ⟨?_, hid, hlast, ?_⟩
  · cases k with
    | element tag attributes =>
      -- the static attributes are written to the new element only
      exact Extends.foldl (fun _ a he => he.hostWrite (Nat.lt_succ_self _) (.attribute a.1) a.2)
        attributes (alloc_record_extends h _ _).1
    | text value => exact (alloc_record_extends h _ _).1
  · cases k with
    | element tag attributes =>
      have hfold : ∀ (attrs : List (String × String)) (h₁ : Host),
          ((attrs.foldl (fun g a => g.setAttribute (h.lastId + 1) a.1 a.2) h₁).node?
            (h.lastId + 1)).isSome = (h₁.node? (h.lastId + 1)).isSome := by
        intro attrs
        induction attrs with
        | nil => exact fun _ => rfl
        | cons a attrs ih => exact fun h₁ => (ih _).trans (isSome_node?_setAttribute ..)
      exact (hfold attributes _).trans (alloc_record_extends h _ _).2
    | text value => exact (alloc_record_extends h _ _).2

end Host

/-! ## Agreement reads only faces -/

namespace InstanceState

/-- Agreement reads the host only through the faces of the nodes the instance's bindings
write. -/
theorem Agrees.congr_face {s : InstanceState} {h h' : Host} {P : List String}
    (heq : ∀ b ∈ s.plan.bindings, h'.face (s.nodes.getD b.node 0) = h.face (s.nodes.getD b.node 0))
    (hag : s.Agrees h P) : s.Agrees h' P where
  present b hb := (Host.isSome_node?_of_face (heq b hb)).trans (hag.present b hb)
  derived := hag.derived
  bindings b hb hq := by
    unfold Shown
    rw [Host.slot_eq_of_face (heq b hb)]
    exact hag.bindings b hb hq

/-- A full render agrees: when every derived value is fresh and every binding's node exists,
writing every binding leaves the instance agreeing with nothing pending. -/
theorem agrees_writeAll {s : InstanceState} {h : Host} (hcoh : s.Coherent)
    (hfresh : ∀ d ∈ s.plan.derived, s.Fresh d)
    (hpresent : ∀ b ∈ s.plan.bindings, (h.node? (s.nodes.getD b.node 0)).isSome = true) :
    s.Agrees (Act.writeAll s h s.plan.bindings) [] where
  present b hb := (Act.isSome_node?_writeAll s _ h _).trans (hpresent b hb)
  derived d hd _ := hfresh d hd
  bindings b hb _ := Act.slot_writeAll_of_mem s h _ hcoh.targets b hb (hpresent b hb)

/-- Every derived value seeded at mount is fresh. -/
theorem seedValues_fresh {s : InstanceState} (hp : s.plan.Coherent) :
    ∀ d ∈ s.plan.derived, s.seedValues.Fresh d := fun d hd =>
  recompute_fresh _ s.plan.derived hp.order hp.distinct
    (fun e he => ⟨Coherent.derived_declared he, hp.derivedReads e he⟩) d hd

end InstanceState

/-- Soundness reads the host only through the faces of the nodes the tree's bindings write. -/
theorem Instance.Sound.congr_face {h h' : Host} {t : Instance} (hs : t.Sound h)
    (heq : ∀ id, t.Writes id → h'.face id = h.face id) : t.Sound h' := by
  induction hs with
  | node hcoh hag hap _ ih =>
    refine .node hcoh (hag.congr_face fun b hb => heq _ (.own hb)) hap fun c hc => ?_
    exact ih c hc fun id hw => heq id (.nested hc hw)

/-! ## Nested instances on later nodes -/

/-- Nested instances that are sound on a host, write apart from one another, and write only nodes
numbered after `base` and up to the host's last number. -/
structure NestedSound (base : Nat) (h : Host) (cs : List Instance) : Prop where
  sound : ∀ g ∈ cs, g.Sound h
  apart : cs.Pairwise fun a b => ∀ id, a.Writes id → ¬b.Writes id
  fresh : ∀ g ∈ cs, ∀ id, g.Writes id → base < id ∧ id ≤ h.lastId

namespace NestedSound

variable {base : Nat} {h h' : Host} {cs : List Instance}

theorem nil (base : Nat) (h : Host) : NestedSound base h [] :=
  ⟨fun _ hg => absurd hg List.not_mem_nil, .nil, fun _ hg => absurd hg List.not_mem_nil⟩

/-- A run that keeps the faces of the nodes numbered so far keeps nested instances sound. -/
theorem extend (hn : NestedSound base h cs) (he : h.Extends h') : NestedSound base h' cs where
  sound g hg := (hn.sound g hg).congr_face fun id hw => he.face id (hn.fresh g hg id hw).2
  apart := hn.apart
  fresh g hg id hw := ⟨(hn.fresh g hg id hw).1, Nat.le_trans (hn.fresh g hg id hw).2 he.lastId⟩

/-- One more nested instance, on nodes numbered after those of the others. -/
theorem push (hn : NestedSound base h cs) (he : h.Extends h') (hbase : base ≤ h.lastId)
    {g : Instance} (hg : g.Sound h') (hfresh : ∀ id, g.Writes id → h.lastId < id ∧ id ≤ h'.lastId) :
    NestedSound base h' (cs ++ [g]) := by
  have hn' := hn.extend he
  refine ⟨fun a ha => ?_, ?_, fun a ha id hw => ?_⟩
  · rcases List.mem_append.mp ha with ha | ha
    · exact hn'.sound a ha
    · rw [List.mem_singleton.mp ha]
      exact hg
  · refine List.pairwise_append.mpr ⟨hn.apart, List.pairwise_singleton _ _,
      fun a ha b hb id hwa hwb => ?_⟩
    rw [List.mem_singleton.mp hb] at hwb
    have hold := (hn.fresh a ha id hwa).2
    have hnew := (hfresh id hwb).1
    omega
  · rcases List.mem_append.mp ha with ha | ha
    · exact hn'.fresh a ha id hw
    · rw [List.mem_singleton.mp ha] at hw
      exact ⟨Nat.lt_of_le_of_lt hbase (hfresh id hw).1, (hfresh id hw).2⟩

/-- Nested instances writing apart from one another, on nodes numbered after every node the
instance's bindings write. -/
theorem writesApart (hn : NestedSound base h cs) {s : InstanceState}
    (hown : ∀ b ∈ s.plan.bindings, s.nodes.getD b.node 0 ≤ base) : s.WritesApart cs := by
  refine ⟨fun b hb g hg hw => ?_, fun i j a b id ha hb hwa hwb => ?_⟩
  · have hlater := (hn.fresh g hg _ hw).1
    have hbefore := hown b hb
    omega
  · -- of two positions, the earlier instance writes apart from the later
    obtain ⟨hi, rfl⟩ := List.getElem?_eq_some_iff.mp ha
    obtain ⟨hj, rfl⟩ := List.getElem?_eq_some_iff.mp hb
    have hpw := List.pairwise_iff_getElem.mp hn.apart
    rcases Nat.lt_trichotomy i j with hij | hij | hij
    · exact absurd hwb (hpw i j hi hj hij id hwa)
    · exact hij
    · exact absurd hwa (hpw j i hj hi hij id hwb)

/-- An instance over its nested instances, as one nested instance after `base`: it is coherent
and agrees, its bindings write nodes numbered after `base` up to `mid`, and its nested instances
are sound on nodes numbered after `mid`. -/
theorem node {mid : Nat} (hn : NestedSound mid h cs) {s : InstanceState} (hcoh : s.Coherent)
    (hag : s.Agrees h s.pending)
    (hown : ∀ b ∈ s.plan.bindings, base < s.nodes.getD b.node 0 ∧ s.nodes.getD b.node 0 ≤ mid)
    (hbase : base ≤ mid) (hmid : mid ≤ h.lastId) : NestedSound base h [Instance.node s cs] := by
  refine ⟨fun g hg => ?_, List.pairwise_singleton _ _, fun g hg id hw => ?_⟩
  · rw [List.mem_singleton.mp hg]
    exact .node hcoh hag (hn.writesApart fun b hb => (hown b hb).2) hn.sound
  · rw [List.mem_singleton.mp hg] at hw
    cases hw with
    | @own _ _ b hb => exact ⟨(hown b hb).1, Nat.le_trans (hown b hb).2 hmid⟩
    | nested hc hw =>
      obtain ⟨hlt, hle⟩ := hn.fresh _ hc id hw
      exact ⟨Nat.lt_of_le_of_lt hbase hlt, hle⟩

end NestedSound

/-! ## The parts of a mount -/

namespace Component.ComponentPlan

/-- The plan a nested instance falls back to when none is found is coherent. -/
theorem coherent_default : (default : ComponentPlan).Coherent where
  order := ⟨fun _ h => absurd h List.not_mem_nil, .nil⟩
  distinct := .nil
  inputs _ h := absurd h List.not_mem_nil
  derivedReads _ h := absurd h List.not_mem_nil
  bindingReads _ h := absurd h List.not_mem_nil
  handlers _ h := absurd h List.not_mem_nil
  bindingNodes _ h := absurd h List.not_mem_nil
  targets := .nil

theorem coherent_getD {ps : List ComponentPlan} (hps : ∀ p ∈ ps, p.Coherent) (i : Nat) :
    (ps.getD i default).Coherent := by
  rw [List.getD_eq_getElem?_getD]
  cases hi : ps[i]? with
  | none => exact coherent_default
  | some p => exact hps p (List.mem_of_getElem? hi)

end Component.ComponentPlan


namespace Instance

open Act

/-- The plans of the nested instances are plans of the program. -/
theorem childPlansOf_mem {prog : Program} {plan : ComponentPlan} {c c₁ : Cursor}
    {ps : List ComponentPlan} (h : exec (childPlansOf prog plan) c = (.ok ps, c₁)) :
    ∀ p ∈ ps, p ∈ prog.plans := by
  have hmap : Triple (fun _ => True) (childPlansOf prog plan)
      (fun ps _ => True ∧ List.Forall₂ (fun _ p => p ∈ prog.plans) plan.children ps)
      fun _ _ => True := by
    refine Triple.mapM fun ch _ => ?_
    split
    · rename_i p hp
      exact Triple.pure _ fun _ _ => ⟨trivial, (Program.find?_some hp).1⟩
    · exact Triple.throw _ fun _ _ => trivial
  obtain ⟨-, hrel⟩ := hmap.of_ok trivial h
  intro p hp
  obtain ⟨_, -, hmem⟩ := exists_rel_of_mem_right hrel hp
  exact hmem

/-- Creating the nodes numbers one node per planned node, each after the host's last number and
after the one before; each exists, and every node numbered before keeps its face. -/
theorem createNodes_fresh (plan : ComponentPlan) (c : Cursor) :
    ∃ handles host, exec (createNodes plan) c =
        (.ok (), { c with self := { c.self with nodes := c.self.nodes ++ handles },
                          scene := { c.scene with host } }) ∧
      c.scene.host.Extends host ∧ handles.length = plan.nodes.length ∧
      handles.Pairwise (· < ·) ∧
      ∀ x ∈ handles, c.scene.host.lastId < x ∧ x ≤ host.lastId ∧ (host.node? x).isSome := by
  let I : List NodePlan → PUnit → Cursor → Prop := fun pre _ c' =>
    ∃ handles host, c' = { c with self := { c.self with nodes := c.self.nodes ++ handles },
                                  scene := { c.scene with host } } ∧
      c.scene.host.Extends host ∧ handles.length = pre.length ∧ handles.Pairwise (· < ·) ∧
      ∀ x ∈ handles, c.scene.host.lastId < x ∧ x ≤ host.lastId ∧ (host.node? x).isSome
  have hloop : Triple (I [] ⟨⟩) (createNodes plan) (fun _ => I plan.nodes ⟨⟩) fun _ _ => False :=
    Triple.forIn_yield I fun pre node _ _ _ => by
      rw [createNode_eq]
      refine Triple.bind (Triple.host _) fun handle => ?_
      refine Triple.bind (Triple.modifySelf _) fun _ => Triple.pure _ ?_
      rintro _ ⟨_, ⟨c₀, ⟨handles, host, rfl, hext, hlen, hinc, hfresh⟩, hhandle, rfl⟩, rfl⟩
      obtain ⟨hext₁, hid, hlast, hsome⟩ := Host.make_extends node.kind host
      refine ⟨_, rfl, handles ++ [handle], (node.kind.make host).2, by simp, hext.trans hext₁,
        by simp [hlen], ?_, fun x hx => ?_⟩
      · refine List.pairwise_append.mpr ⟨hinc, List.pairwise_singleton _ _, fun x hx y hy => ?_⟩
        rw [List.mem_singleton.mp hy, hhandle, hid]
        exact Nat.lt_succ_of_le (hfresh x hx).2.1
      · rcases List.mem_append.mp hx with hx | hx
        · obtain ⟨hlt, hle, hex⟩ := hfresh x hx
          exact ⟨hlt, by omega, (hext₁.isSome_node? hle).trans hex⟩
        · rw [List.mem_singleton.mp hx, hhandle, hid]
          exact ⟨Nat.lt_succ_of_le hext.lastId, by omega, hsome⟩
  obtain ⟨_, c', hrun, handles, host, rfl, hext, hlen, hinc, hfresh⟩ :=
    hloop.exists_ok (c := c) ⟨[], c.scene.host, by simp, .refl _, rfl, .nil,
      fun _ h => absurd h List.not_mem_nil⟩
  exact ⟨handles, host, hrun, hext, hlen, hinc, hfresh⟩

/-- Writing every binding at mount writes each once, in order, with its value over the instance's
values, and counts the writes. -/
theorem exec_writeAllBindings (plan : ComponentPlan) (c : Cursor) :
    exec (writeAllBindings plan) c =
      (.ok (), { c with self := countWrites c.self plan.bindings.length,
                        scene := { c.scene with
                          host := writeAll c.self c.scene.host plan.bindings } }) := by
  let I : List BindingPlan → PUnit → Cursor → Prop := fun pre _ c' =>
    c' = { c with self := countWrites c.self pre.length,
                  scene := { c.scene with host := writeAll c.self c.scene.host pre } }
  have hloop : Triple (I [] ⟨⟩) (writeAllBindings plan) (fun _ => I plan.bindings ⟨⟩)
      fun _ _ => False :=
    Triple.forIn_yield I fun pre b _ _ _ => by
      refine Triple.bind Triple.self fun s => Triple.bind (Triple.write _ _ _) fun _ =>
        Triple.pure _ ?_
      rintro _ ⟨_, ⟨rfl, rfl⟩, rfl⟩
      refine ⟨_, rfl, ?_⟩
      simp only [I, countWrites, writeAll, List.foldl_append, List.foldl_cons, List.foldl_nil,
        List.length_append, List.length_singleton, Nat.add_assoc]
  obtain ⟨_, c', hrun, rfl⟩ := hloop.exists_ok (c := c) (by simp [I, countWrites, writeAll])
  exact hrun

/-- Subscribing the events changes no host node and numbers nothing lower. -/
theorem subscribeEvents_nodes (plan : ComponentPlan) (c : Cursor) :
    ∃ subs host, exec (subscribeEvents plan) c =
        (.ok (), { c with self := { c.self with subscriptions := c.self.subscriptions ++ subs },
                          scene := { c.scene with host } }) ∧
      host.nodes = c.scene.host.nodes ∧ c.scene.host.lastId ≤ host.lastId := by
  let I : List EventPlan → PUnit → Cursor → Prop := fun _ _ c' =>
    ∃ subs host, c' = { c with self := { c.self with subscriptions := c.self.subscriptions ++ subs },
                               scene := { c.scene with host } } ∧
      host.nodes = c.scene.host.nodes ∧ c.scene.host.lastId ≤ host.lastId
  have hloop : Triple (I [] ⟨⟩) (subscribeEvents plan) (fun _ => I plan.events ⟨⟩)
      fun _ _ => False :=
    Triple.forIn_yield I fun _ ev _ _ _ => by
      refine Triple.bind Triple.self fun s => ?_
      split
      · exact Triple.pure _ fun _ ⟨hc, _⟩ => ⟨_, rfl, hc⟩
      · rename_i key _
        refine Triple.bind (Triple.host _) fun sub => Triple.bind (Triple.modifySelf _) fun _ =>
          Triple.pure _ ?_
        rintro _ ⟨_, ⟨_, ⟨⟨subs, host, rfl, hnodes, hlast⟩, -⟩, -, rfl⟩, rfl⟩
        -- a subscription is numbered, but no node is made
        exact ⟨_, rfl, subs ++ [sub], (host.subscribe (s.nodes.getD ev.node 0) ev.event key).2,
          by simp only [List.append_assoc], hnodes, Nat.le_trans hlast (Nat.le_succ _)⟩
  obtain ⟨_, c', hrun, subs, host, rfl, hnodes, hlast⟩ :=
    hloop.exists_ok (c := c) ⟨[], c.scene.host, by simp, rfl, Nat.le_refl _⟩
  exact ⟨subs, host, hrun, hnodes, hlast⟩

/-! ## Mount and placement at every depth bound -/

/-- What placement at depth bound `d` that succeeds does, from an instance with no nested
instance yet, when the plans it mounts are coherent: it records roots, keeps what every node
numbered before shows, and leaves nested instances sound on nodes numbered after. -/
def PlaceSound (prog : Program) (d : Nat) : Prop :=
  ∀ (container : Nat) (childPlans : List ComponentPlan) (c c' : Cursor),
    (∀ p ∈ childPlans, p.Coherent) → c.children = [] →
    exec (place prog d container childPlans) c = (.ok (), c') →
    (∃ rs, c'.self = { c.self with roots := rs }) ∧ c.scene.host.Extends c'.scene.host ∧
      NestedSound c.scene.host.lastId c'.scene.host c'.children

/-- What a mount at depth bound `d` that succeeds does for an instance of a coherent plan: it
keeps the plan and what every node numbered before shows, and leaves a sound tree on nodes
numbered after. -/
def MountSound (prog : Program) (d : Nat) : Prop :=
  ∀ (id : Nat) (plan : ComponentPlan) (container : Nat) (props : Props) (scene : Scene)
    (c' : Cursor), plan.Coherent →
    exec (mount prog d container props) ⟨{ id, plan }, [], scene⟩ = (.ok (), c') →
    c'.self.plan = plan ∧ scene.host.Extends c'.scene.host ∧
      NestedSound scene.host.lastId c'.scene.host [Instance.node c'.self c'.children]

theorem placeSound_zero (prog : Program) : PlaceSound prog 0 := by
  intro container childPlans c c' _ _ hrun
  rw [place] at hrun
  cases hrun

theorem mountSound_zero (prog : Program) : MountSound prog 0 := by
  intro id plan container props scene c' _ hrun
  rw [mount] at hrun
  cases hrun

/-- Placement keeps the faces of the nodes numbered before it, and mounts each nested instance
sound on nodes numbered after those of the nested instances before it. -/
theorem placeSound_succ {prog : Program} {d : Nat} (ih : MountSound prog d) :
    PlaceSound prog (d + 1) := by
  intro container childPlans c c' hplans hkids hrun
  let plan := c.self.plan
  let I : List Placement → PUnit → Cursor → Prop := fun _ _ c₁ =>
    (∃ rs, c₁.self = { c.self with roots := rs }) ∧ c.scene.host.Extends c₁.scene.host ∧
      NestedSound c.scene.host.lastId c₁.scene.host c₁.children
  have hloop : Triple (I [] ⟨⟩) (forIn plan.placements PUnit.unit fun pl _ =>
      placeStep prog d container childPlans plan pl) (fun _ => I plan.placements ⟨⟩)
      fun _ _ => True := by
    refine Triple.forIn_yield I fun _ pl _ _ _ c₀ ⟨⟨rs, hself⟩, he, hn⟩ => ?_
    cases pl with
    | node i =>
      rw [exec_placeStep_node]
      refine ⟨⟨⟩, rfl, ?_⟩
      split
      · -- a node appended under another of the instance's nodes
        rename_i p _
        have he₁ := Host.Extends.appendChild c₀.scene.host (c₀.self.nodes.getD p 0)
          (c₀.self.nodes.getD i 0)
        exact ⟨⟨rs, hself⟩, he.trans he₁, hn.extend he₁⟩
      · -- a root, appended to the container
        have he₁ := Host.Extends.appendChild c₀.scene.host container (c₀.self.nodes.getD i 0)
        exact ⟨⟨rs ++ [c₀.self.nodes.getD i 0], by rw [hself]⟩, he.trans he₁, hn.extend he₁⟩
    | child i =>
      rw [exec_placeStep_child]
      rcases hm : exec (mount prog d (childTarget plan c₀.self.nodes container i)
          (c₀.self.childProps i none))
          ⟨{ id := c₀.scene.nextInstance, plan := childPlans.getD i default }, [],
            { c₀.scene with nextInstance := c₀.scene.nextInstance + 1 }⟩ with ⟨r, c₁⟩
      cases r with
      | error _ => trivial
      | ok u =>
        cases u
        -- the nested mount is sound on nodes numbered after the host it started from
        obtain ⟨-, he₁, hn₁⟩ := ih _ _ _ _ _ c₁ (ComponentPlan.coherent_getD hplans i) hm
        exact ⟨_, rfl, ⟨rs, hself⟩, he.trans he₁, hn.push he₁ he.lastId
          (hn₁.sound _ (List.mem_singleton_self _)) (hn₁.fresh _ (List.mem_singleton_self _))⟩
  have hstart : I [] ⟨⟩ c := ⟨⟨c.self.roots, rfl⟩, .refl _, by rw [hkids]; exact .nil _ _⟩
  rw [place_succ] at hrun
  simp only [exec_bind, exec_self] at hrun
  have hI := hloop c hstart
  revert hI hrun
  rcases exec (forIn plan.placements PUnit.unit fun pl _ =>
    placeStep prog d container childPlans plan pl) c with ⟨r, c₁⟩
  cases r with
  | error _ => exact fun h _ => nomatch h
  | ok _ =>
    intro hrun hI
    cases hrun
    exact hI

/-- A mount renders its instance in full on new nodes: seeded values are fresh, each binding is
written once to its own new node, and placement keeps what those nodes show. -/
theorem mountSound_succ {prog : Program} {d : Nat} (hprog : ∀ p ∈ prog.plans, p.Coherent)
    (hplace : PlaceSound prog d) : MountSound prog (d + 1) := by
  intro id plan container props scene c' hp hrun
  rw [mount_succ] at hrun
  have hcreated : (Phase.created != Phase.created) = false := rfl
  simp only [exec_bind, exec_self, hcreated, Bool.false_eq_true, if_false] at hrun
  cases hcheck : prog.checkTree plan with
  | error e => simp [hcheck] at hrun
  | ok u =>
  cases u
  simp only [hcheck, exec_bind] at hrun
  have hcursor := exec_childPlansOf_cursor prog plan ⟨{ id, plan }, [], scene⟩
  rcases hplans : exec (childPlansOf prog plan) ⟨{ id, plan }, [], scene⟩ with ⟨r, c₁⟩
  rw [hplans] at hcursor hrun
  cases r with
  | error e => simp at hrun
  | ok childPlans =>
  have hchild : ∀ p ∈ childPlans, p.Coherent := fun p hp' =>
    hprog p (childPlansOf_mem hplans p hp')
  subst hcursor
  obtain ⟨values, callbacks, hseed⟩ := seedValues_acceptProps { id, plan } props
  -- seeding makes every derived value fresh
  have hfresh : ∀ e ∈ plan.derived, ({ id, plan, values, callbacks } : InstanceState).Fresh e := by
    intro e he
    have hplan : (({ id, plan } : InstanceState).acceptProps props).plan.Coherent := by
      rw [acceptProps_frame]
      exact hp
    have h₀ := InstanceState.seedValues_fresh hplan e (by rw [acceptProps_frame]; exact he)
    rwa [hseed] at h₀
  simp only [exec_modifySelf, hseed] at hrun
  obtain ⟨handles, host₂, hnodes, he₂, hlen, hinc, hnew⟩ := createNodes_fresh plan
    ⟨{ id, plan, values, callbacks }, [], scene⟩
  rw [hnodes] at hrun
  simp only at hrun
  rw [exec_writeAllBindings] at hrun
  simp only at hrun
  -- the instance with its nodes made, and the host once every binding is written
  let s₂ : InstanceState := { id, plan, values, nodes := [] ++ handles, callbacks }
  let host₃ := writeAll s₂ host₂ plan.bindings
  obtain ⟨subs, host₄, hsubs, hnodes₄, hlast₄⟩ := subscribeEvents_nodes plan
    ⟨countWrites s₂ plan.bindings.length, [], ⟨host₃, scene.nextInstance⟩⟩
  rw [hsubs] at hrun
  simp only at hrun
  split at hrun
  case h_2 => simp at hrun
  rename_i c₆ hplaced
  simp only [Prod.mk.injEq, true_and] at hrun
  subst hrun
  obtain ⟨⟨rs, hself₆⟩, he₆, hn₆⟩ := hplace container childPlans _ c₆ hchild rfl hplaced
  -- every binding writes one of the new nodes
  have hown : ∀ b ∈ plan.bindings, s₂.nodes.getD b.node 0 ∈ handles := fun b hb => by
    have hi : b.node < handles.length := hlen ▸ hp.bindingNodes b hb
    simp only [s₂, List.nil_append, List.getD_eq_getElem?_getD, List.getElem?_eq_getElem hi,
      Option.getD_some]
    exact List.getElem_mem hi
  have hlast₃ : host₃.lastId = host₂.lastId := (Host.OnlyWrites.writeAll s₂ host₂ _).lastId
  have hcoh₂ : s₂.Coherent := InstanceState.Coherent.of_plan hp (by simp [s₂, hlen])
    (List.Pairwise.imp Nat.ne_of_lt hinc)
  -- the full render: seeded values are fresh and every binding shows its value
  have hag₃ : s₂.Agrees host₃ [] := InstanceState.agrees_writeAll hcoh₂
    (fun e he => hfresh e he) fun b hb => (hnew _ (hown b hb)).2.2
  have he₃₆ : host₃.Extends c₆.scene.host := (Host.Extends.of_nodes hnodes₄ hlast₄).trans he₆
  have hsame : c₆.self.plan = s₂.plan ∧ c₆.self.nodes = s₂.nodes ∧ c₆.self.values = s₂.values ∧
      c₆.self.pending = [] := by
    rw [hself₆]
    exact ⟨rfl, rfl, rfl, rfl⟩
  -- the placed instance agrees as rendered, its bindings on the new nodes
  have hag₆ : c₆.self.Agrees c₆.scene.host c₆.self.pending := by
    rw [hsame.2.2.2]
    refine (hag₃.congr_face fun b hb => he₃₆.face _ ?_).of_self hsame.1 hsame.2.1 hsame.2.2.1
    exact hlast₃ ▸ (hnew _ (hown b hb)).2.1
  have hown₆ : ∀ b ∈ c₆.self.plan.bindings, scene.host.lastId < c₆.self.nodes.getD b.node 0 ∧
      c₆.self.nodes.getD b.node 0 ≤ host₄.lastId := fun b hb => by
    obtain ⟨hlt, hle, -⟩ := hnew _ (hown b (hsame.1 ▸ hb : b ∈ s₂.plan.bindings))
    rw [hsame.2.1]
    exact ⟨hlt, Nat.le_trans hle (hlast₃ ▸ hlast₄)⟩
  have he₃ : scene.host.Extends host₃ := he₂.writeAll s₂ fun b hb => (hnew _ (hown b hb)).1
  exact ⟨hsame.1, he₃.trans he₃₆, hn₆.node (hcoh₂.congr hsame.1 hsame.2.1)
    (hag₆.of_self (by rfl) (by rfl) (by rfl)) hown₆ (Nat.le_trans he₃.lastId hlast₄) he₆.lastId⟩

/-- Every mount that succeeds, at every depth bound, of an instance of a program whose plans are
all coherent leaves a sound tree, and keeps what every node numbered before it shows. -/
theorem mount_sound {prog : Program} (hprog : ∀ p ∈ prog.plans, p.Coherent) (d : Nat) :
    MountSound prog d := by
  -- mount at one bound places at the bound below, which mounts at the one below that
  suffices h : MountSound prog d ∧ PlaceSound prog d from h.1
  induction d with
  | zero => exact ⟨mountSound_zero prog, placeSound_zero prog⟩
  | succ d ih => exact ⟨mountSound_succ hprog ih.2, placeSound_succ ih.1⟩

end Instance

end Reactive
