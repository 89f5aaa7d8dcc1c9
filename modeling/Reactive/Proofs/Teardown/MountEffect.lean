import Reactive.Proofs.Teardown.HostEffect

/-!
# What a mount does to the host

A mount that succeeds grows the host (`Host.Grows`) by exactly what the footprints of the tree it
leaves record: the child list of every node that existed gains only roots of those footprints
appended to it, as many appends as roots, the live subscriptions gain only theirs, and nothing is
removed. Every instance of the tree is mounted, and its roots and subscriptions are numbered
after the host's last number before the mount (`mountGrows`).

The proof follows the parts of a mount (`mount_succ`): creating nodes and subscribing number new
nodes and subscriptions, writing bindings only writes, and placement appends roots to the
container, other nodes to the instance's own, and mounts each nested instance, which grows the
host by induction on the depth bound.
-/

namespace Reactive

open Component Footprint

namespace Instance

open Act

/-! ## The parts before placement -/

/-- Looking up the plans of the nested instances does not change the cursor. -/
theorem exec_childPlansOf_cursor (prog : Program) (plan : ComponentPlan) (c : Cursor) :
    (exec (childPlansOf prog plan) c).2 = c := by
  have hmap : Triple (· = c) (childPlansOf prog plan) (fun _ c' => c' = c)
      fun _ c' => c' = c := by
    refine Triple.mono (Triple.mapM (I := (· = c)) (R := fun _ _ => True) fun ch _ => ?_)
      (fun _ h => h) (fun _ _ h => h.1) fun _ _ h => h
    split
    · exact Triple.pure _ fun _ hc => ⟨hc, trivial⟩
    · exact Triple.throw _ fun _ hc => hc
  have h := hmap c rfl
  revert h
  rcases exec (childPlansOf prog plan) c with ⟨r, c'⟩
  cases r with
  | ok _ => exact id
  | error _ => exact id

/-- Creating the nodes appends their handles, each numbered after the host's last number, and
grows the host by new nodes only. -/
theorem createNodes_grows (plan : ComponentPlan) (c : Cursor) :
    ∃ handles host, exec (createNodes plan) c =
        (.ok (), { c with self := { c.self with nodes := c.self.nodes ++ handles },
                          scene := { c.scene with host } }) ∧
      c.scene.host.Grows host (fun _ => []) [] ∧ ∀ x ∈ handles, c.scene.host.lastId < x := by
  let I : List NodePlan → PUnit → Cursor → Prop := fun _ _ c' =>
    ∃ handles host, c' = { c with self := { c.self with nodes := c.self.nodes ++ handles },
                                  scene := { c.scene with host } } ∧
      c.scene.host.Grows host (fun _ => []) [] ∧ ∀ x ∈ handles, c.scene.host.lastId < x
  have hloop : Triple (I [] ⟨⟩) (createNodes plan) (fun _ => I plan.nodes ⟨⟩) fun _ _ => False :=
    Triple.forIn_yield I fun _ node _ _ _ => by
      rw [createNode_eq]
      refine Triple.bind (Triple.host _) fun handle => ?_
      refine Triple.bind (Triple.modifySelf _) fun _ => Triple.pure _ ?_
      rintro _ ⟨_, ⟨c₀, ⟨handles, host, rfl, hgrow, hfresh⟩, hhandle, rfl⟩, rfl⟩
      obtain ⟨hmake, hid, -⟩ := Host.Grows.make node.kind host
      refine ⟨_, rfl, handles ++ [handle], (node.kind.make host).2, by simp, hgrow.trans_nil hmake,
        fun x hx => ?_⟩
      rcases List.mem_append.mp hx with hx | hx
      · exact hfresh x hx
      · rw [List.mem_singleton.mp hx, hhandle, hid]
        exact Nat.lt_succ_of_le hgrow.lastId
  obtain ⟨_, c', hrun, handles, host, rfl, hgrow, hfresh⟩ :=
    hloop.exists_ok (c := c) ⟨[], c.scene.host, by simp, .refl _, fun _ h => absurd h List.not_mem_nil⟩
  exact ⟨handles, host, hrun, hgrow, hfresh⟩

/-- Writing the bindings counts the writes and only writes to the host. -/
theorem writeAllBindings_onlyWrites (plan : ComponentPlan) (c : Cursor) :
    ∃ k host, exec (writeAllBindings plan) c =
        (.ok (), { c with self := { c.self with stats := { c.self.stats with
                                      bindingWrites := c.self.stats.bindingWrites + k } },
                          scene := { c.scene with host } }) ∧
      c.scene.host.OnlyWrites host := by
  let I : List BindingPlan → PUnit → Cursor → Prop := fun _ _ c' =>
    ∃ k host, c' = { c with self := { c.self with stats := { c.self.stats with
                                        bindingWrites := c.self.stats.bindingWrites + k } },
                            scene := { c.scene with host } } ∧
      c.scene.host.OnlyWrites host
  have hloop : Triple (I [] ⟨⟩) (writeAllBindings plan) (fun _ => I plan.bindings ⟨⟩)
      fun _ _ => False :=
    Triple.forIn_yield I fun _ b _ _ _ => by
      refine Triple.bind Triple.self fun s => Triple.bind (Triple.write _ _ _) fun _ =>
        Triple.pure _ ?_
      rintro _ ⟨_, ⟨⟨k, host, rfl, hw⟩, rfl⟩, rfl⟩
      exact ⟨_, rfl, k + 1, _, rfl, hw.trans (.hostWrite _ _ _ _)⟩
  obtain ⟨_, c', hrun, k, host, rfl, hw⟩ :=
    hloop.exists_ok (c := c) ⟨0, c.scene.host, by simp, .refl _⟩
  exact ⟨k, host, hrun, hw⟩

/-- Subscribing the events appends the subscriptions, each numbered after the host's last number,
and grows the live subscriptions by them only. -/
theorem subscribeEvents_grows (plan : ComponentPlan) (c : Cursor) :
    ∃ subs host, exec (subscribeEvents plan) c =
        (.ok (), { c with self := { c.self with subscriptions := c.self.subscriptions ++ subs },
                          scene := { c.scene with host } }) ∧
      c.scene.host.Grows host (fun _ => []) subs ∧ ∀ x ∈ subs, c.scene.host.lastId < x := by
  let I : List EventPlan → PUnit → Cursor → Prop := fun _ _ c' =>
    ∃ subs host, c' = { c with self := { c.self with subscriptions := c.self.subscriptions ++ subs },
                               scene := { c.scene with host } } ∧
      c.scene.host.Grows host (fun _ => []) subs ∧ ∀ x ∈ subs, c.scene.host.lastId < x
  have hloop : Triple (I [] ⟨⟩) (subscribeEvents plan) (fun _ => I plan.events ⟨⟩)
      fun _ _ => False :=
    Triple.forIn_yield I fun _ ev _ _ _ => by
      refine Triple.bind Triple.self fun s => ?_
      split
      · exact Triple.pure _ fun _ ⟨hc, _⟩ => ⟨_, rfl, hc⟩
      · rename_i key _
        refine Triple.bind (Triple.host _) fun sub => Triple.bind (Triple.modifySelf _) fun _ =>
          Triple.pure _ ?_
        rintro _ ⟨_, ⟨_, ⟨⟨subs, host, rfl, hgrow, hfresh⟩, -⟩, hsub, rfl⟩, rfl⟩
        obtain ⟨hgrow₁, hid, -⟩ := Host.Grows.subscribe host (s.nodes.getD ev.node 0) ev.event key
        refine ⟨_, rfl, subs ++ [sub], _, by simp only [List.append_assoc]; rfl,
          ?_, fun x hx => ?_⟩
        · rw [hsub, hid]
          exact (hgrow.trans hgrow₁).congr (fun _ _ _ => by simp) fun _ hx => hx
        · rcases List.mem_append.mp hx with hx | hx
          · exact hfresh x hx
          · rw [List.mem_singleton.mp hx, hsub, hid]
            exact Nat.lt_succ_of_le hgrow.lastId
  obtain ⟨_, c', hrun, subs, host, rfl, hgrow, hfresh⟩ :=
    hloop.exists_ok (c := c) ⟨[], c.scene.host, by simp, .refl _, fun _ h => absurd h List.not_mem_nil⟩
  exact ⟨subs, host, hrun, hgrow, hfresh⟩

/-- Taking props and seeding values at mount change only values and callback keys. -/
theorem seedValues_acceptProps (s : InstanceState) (props : Props) :
    ∃ values callbacks, (s.acceptProps props).seedValues = { s with values, callbacks } := by
  refine ⟨((s.acceptProps props).seedValues).values, (s.acceptProps props).callbacks, ?_⟩
  rw [InstanceState.seedValues, acceptProps_frame props s]

/-! ## Placement -/

/-- A handle of a planned node is one of the instance's nodes, or the placeholder `0`. -/
theorem getD_fresh {nodes : List Nat} {base : Nat} (h : ∀ x ∈ nodes, base < x) (i : Nat) :
    nodes.getD i 0 = 0 ∨ base < nodes.getD i 0 := by
  rw [List.getD_eq_getElem?_getD]
  cases hi : nodes[i]? with
  | none => exact .inl rfl
  | some x => exact .inr (h x (List.mem_of_getElem? hi))

/-- What a mount at depth bound `d` that succeeds does: every instance of the tree it leaves is
mounted and numbered its nodes and subscriptions after the host's last number, and the host grew
by the roots and subscriptions of their footprints. -/
def MountGrows (prog : Program) (d : Nat) : Prop :=
  ∀ (id : Nat) (plan : ComponentPlan) (container : Nat) (props : Props) (scene : Scene)
    (c' : Cursor), exec (mount prog d container props) ⟨{ id, plan }, [], scene⟩ = (.ok (), c') →
    (∀ fp ∈ (Instance.node c'.self c'.children).outline.footprints,
      fp.phase = .mounted ∧ fp.FreshAfter scene.host.lastId) ∧
    scene.host.Grows c'.scene.host
      (fun y => rootsIn y (Instance.node c'.self c'.children).outline.footprints)
      (subscriptionsOf (Instance.node c'.self c'.children).outline.footprints)

/-- What placement at depth bound `d` that succeeds does, from an instance with new nodes and no
roots or nested instances yet, over a host grown from `h₀` by subscriptions `subs`: it records
roots `rs` (new nodes, or the placeholder), mounts nested instances whose footprints are fresh,
and grows the host by the roots and the nested instances' footprints. -/
def PlaceGrows (prog : Program) (d : Nat) : Prop :=
  ∀ (container : Nat) (childPlans : List ComponentPlan) (h₀ : Host) (subs : List Nat)
    (c c' : Cursor), c.self.roots = [] → c.children = [] → (∀ x ∈ c.self.nodes, h₀.lastId < x) →
    h₀.Grows c.scene.host (fun _ => []) subs →
    exec (place prog d container childPlans) c = (.ok (), c') →
    ∃ rs, c'.self = { c.self with roots := rs } ∧ (∀ r ∈ rs, r = 0 ∨ h₀.lastId < r) ∧
      (∀ fp ∈ c'.children.flatMap (·.outline.footprints),
        fp.phase = .mounted ∧ fp.FreshAfter h₀.lastId) ∧
      h₀.Grows c'.scene.host
        (fun y => (if some container = some y then rs else []) ++
          rootsIn y (c'.children.flatMap (·.outline.footprints)))
        (subs ++ subscriptionsOf (c'.children.flatMap (·.outline.footprints)))

theorem placeGrows_zero (prog : Program) : PlaceGrows prog 0 := by
  intro container childPlans h₀ subs c c' _ _ _ _ hrun
  rw [place] at hrun
  cases hrun

theorem mountGrows_zero (prog : Program) : MountGrows prog 0 := by
  intro id plan container props scene c' hrun
  rw [mount] at hrun
  cases hrun

/-- Placement grows the host by its roots and by what its nested mounts grow it by. The loop
invariant: the instance has recorded roots `rs`, its nested instances are mounted and fresh, and
the host grew by the roots and their footprints. -/
theorem placeGrows_succ {prog : Program} {d : Nat} (ih : MountGrows prog d) :
    PlaceGrows prog (d + 1) := by
  intro container childPlans h₀ subs c c' hroots hkids hnodes hgrow hrun
  let plan := c.self.plan
  let I : List Placement → PUnit → Cursor → Prop := fun _ _ c₁ =>
    ∃ rs, c₁.self = { c.self with roots := rs } ∧ (∀ r ∈ rs, r = 0 ∨ h₀.lastId < r) ∧
      (∀ fp ∈ c₁.children.flatMap (·.outline.footprints),
        fp.phase = .mounted ∧ fp.FreshAfter h₀.lastId) ∧
      h₀.Grows c₁.scene.host
        (fun y => (if some container = some y then rs else []) ++
          rootsIn y (c₁.children.flatMap (·.outline.footprints)))
        (subs ++ subscriptionsOf (c₁.children.flatMap (·.outline.footprints)))
  have hloop : Triple (I [] ⟨⟩) (forIn plan.placements PUnit.unit fun pl _ =>
      placeStep prog d container childPlans plan pl) (fun _ => I plan.placements ⟨⟩)
      fun _ _ => True := by
    refine Triple.forIn_yield I fun _ pl _ _ _ c₀ ⟨rs, hself, hrs, hfps, hg⟩ => ?_
    -- the handles of the planned nodes are new nodes, or the placeholder
    have hhandle : ∀ i, c₀.self.nodes.getD i 0 = 0 ∨ h₀.lastId < c₀.self.nodes.getD i 0 := by
      rw [hself]
      exact getD_fresh hnodes
    cases pl with
    | node i =>
      rw [exec_placeStep_node]
      refine ⟨⟨⟩, rfl, ?_⟩
      split
      · -- a node under another of the instance's nodes: no node that existed gains a child
        rename_i p _
        refine ⟨rs, hself, hrs, hfps, ?_⟩
        refine (hg.trans (Host.Grows.appendChild _ _ _)).congr (fun y hy hle => ?_)
          fun x hx => by simpa using hx
        have hne : y ≠ c₀.self.nodes.getD p 0 := by
          rcases hhandle p with h | h <;> omega
        simp only [if_neg hne, List.append_nil]
        exact List.Perm.refl _
      · -- a root, appended to the container
        refine ⟨rs ++ [c₀.self.nodes.getD i 0], by rw [hself], fun r hr => ?_, hfps, ?_⟩
        · rcases List.mem_append.mp hr with hr | hr
          · exact hrs r hr
          · rw [List.mem_singleton.mp hr]
            exact hhandle i
        · refine (hg.trans (Host.Grows.appendChild _ _ _)).congr (fun y _ _ => ?_)
            fun x hx => by simpa using hx
          by_cases hy : y = container
          · subst hy
            simp only [if_pos, List.append_assoc]
            exact List.Perm.append_left rs List.perm_append_comm
          · have hy' : ¬some container = some y := fun h => hy (Option.some.inj h).symm
            simp [hy, hy']
    | child i =>
      rw [exec_placeStep_child]
      rcases hm : exec (mount prog d (childTarget plan c₀.self.nodes container i)
          (c₀.self.childProps i none))
          ⟨{ id := c₀.scene.nextInstance, plan := childPlans.getD i default }, [],
            { c₀.scene with nextInstance := c₀.scene.nextInstance + 1 }⟩ with ⟨r, c₁⟩
      cases r with
      | error _ => trivial
      | ok u =>
        cases u
        -- the nested mount grows the host from where placement is
        obtain ⟨hfresh₁, hgrow₁⟩ := ih _ _ _ _ _ c₁ hm
        refine ⟨_, rfl, rs, hself, hrs, fun fp hfp => ?_, ?_⟩
        · simp only [List.flatMap_append, List.flatMap_cons, List.flatMap_nil, List.append_nil,
            List.mem_append] at hfp
          rcases hfp with hfp | hfp
          · exact hfps fp hfp
          · obtain ⟨hmounted, hfresh⟩ := hfresh₁ fp hfp
            exact ⟨hmounted, hfresh.mono hg.lastId⟩
        · refine (hg.trans hgrow₁).congr (fun y _ _ => ?_) fun x hx => ?_
          · simp [List.append_assoc]
          · simpa [List.append_assoc] using hx
  have hstart : I [] ⟨⟩ c :=
    ⟨[], by rw [← hroots], fun _ h => absurd h List.not_mem_nil, by simp [hkids],
      hgrow.congr (fun y _ _ => by simp [hkids]) fun x hx => by simp [hkids, hx]⟩
  rw [place_succ] at hrun
  simp only [exec_bind, exec_self] at hrun
  have hI := hloop c hstart
  revert hI hrun
  rcases exec (forIn plan.placements PUnit.unit fun pl _ =>
    placeStep prog d container childPlans plan pl) c with ⟨r, c₁⟩
  cases r with
  | error _ => exact fun h _ => nomatch h
  | ok _ =>
    intro hrun hI
    cases hrun
    exact hI

/-- A mount grows the host by what its parts do: new nodes, writes, new subscriptions, then
placement. -/
theorem mountGrows_succ {prog : Program} {d : Nat} (hplace : PlaceGrows prog d) :
    MountGrows prog (d + 1) := by
  intro id plan container props scene c' hrun
  rw [mount_succ] at hrun
  have hcreated : (Phase.created != Phase.created) = false := rfl
  simp only [exec_bind, exec_self, hcreated, Bool.false_eq_true, if_false] at hrun
  cases hcheck : prog.checkTree plan with
  | error e => simp [hcheck] at hrun
  | ok u =>
  cases u
  simp only [hcheck, exec_bind] at hrun
  -- the plans of the nested instances are looked up without changing the cursor
  have hcursor := exec_childPlansOf_cursor prog plan ⟨{ id, plan }, [], scene⟩
  rcases hplans : exec (childPlansOf prog plan) ⟨{ id, plan }, [], scene⟩ with ⟨r, c₁⟩
  rw [hplans] at hcursor hrun
  cases r with
  | error e => simp at hrun
  | ok childPlans =>
  subst hcursor
  obtain ⟨values, callbacks, hseed⟩ := seedValues_acceptProps { id, plan } props
  simp only [exec_modifySelf, hseed] at hrun
  obtain ⟨handles, host₂, hnodes, hgrow₂, hfresh₂⟩ := createNodes_grows plan
    ⟨{ id, plan, values, callbacks }, [], scene⟩
  rw [hnodes] at hrun
  simp only at hrun
  obtain ⟨k, host₃, hwrites, hw₃⟩ := writeAllBindings_onlyWrites plan
    ⟨{ id, plan, values, nodes := [] ++ handles, callbacks }, [], ⟨host₂, scene.nextInstance⟩⟩
  rw [hwrites] at hrun
  simp only at hrun
  obtain ⟨subs, host₄, hsubs, hgrow₄, hfresh₄⟩ := subscribeEvents_grows plan
    ⟨{ id, plan, values, nodes := [] ++ handles, callbacks, stats := { bindingWrites := 0 + k } }, [],
      ⟨host₃, scene.nextInstance⟩⟩
  rw [hsubs] at hrun
  simp only at hrun
  -- before placement the host grew by new nodes and subscriptions only
  have hgrow₅ : scene.host.Grows host₄ (fun _ => []) subs :=
    ((hgrow₂.trans_nil (.of_onlyWrites hw₃)).trans hgrow₄).congr (fun _ _ _ => by simp)
      fun _ hx => hx
  have hbase : scene.host.lastId ≤ host₃.lastId :=
    Nat.le_trans hgrow₂.lastId (Nat.le_of_eq hw₃.lastId.symm)
  rcases hplaced : exec (place prog d container childPlans)
      ⟨{ id, plan, values, container := some container, nodes := [] ++ handles,
          subscriptions := [] ++ subs, callbacks, stats := { bindingWrites := 0 + k } }, [],
        ⟨host₄, scene.nextInstance⟩⟩ with ⟨r, c₆⟩
  rw [hplaced] at hrun
  cases r with
  | error e => simp at hrun
  | ok u =>
  simp only [Prod.mk.injEq, true_and] at hrun
  subst hrun
  obtain ⟨rs, hself₆, hrs, hfps, hgrow₆⟩ := hplace container childPlans scene.host subs _ c₆ rfl rfl
    (fun x hx => hfresh₂ x (by simpa using hx)) hgrow₅ hplaced
  rw [Instance.footprints_node]
  refine ⟨fun fp hfp => ?_, hgrow₆.congr (fun y _ _ => ?_) fun x hx => ?_⟩
  · rcases List.mem_cons.mp hfp with rfl | hfp
    · -- the mounted instance's own footprint
      refine ⟨rfl, fun r hr => hrs r (by rw [hself₆] at hr; exact hr), fun x hx => ?_⟩
      have hx' : x ∈ subs := by simpa [InstanceState.footprint, hself₆] using hx
      exact Nat.lt_of_le_of_lt hbase (hfresh₄ x hx')
    · exact hfps fp hfp
  · simp [InstanceState.footprint, hself₆]
  · simpa [InstanceState.footprint, hself₆] using hx

/-- Every mount that succeeds, at every depth bound, leaves a mounted tree of fresh footprints and
grows the host by exactly their roots and subscriptions. -/
theorem mountGrows (prog : Program) (d : Nat) : MountGrows prog d := by
  -- mount at one bound places at the bound below, which mounts at the one below that
  suffices h : MountGrows prog d ∧ PlaceGrows prog d from h.1
  induction d with
  | zero => exact ⟨mountGrows_zero prog, placeGrows_zero prog⟩
  | succ d ih => exact ⟨mountGrows_succ ih.2, placeGrows_succ ih.1⟩

end Instance

end Reactive
