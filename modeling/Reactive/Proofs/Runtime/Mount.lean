import Reactive.Proofs.Runtime.Triple
import Reactive.Proofs.Runtime.Calm
import Reactive.Proofs.Compose.Instances
import Mathlib.Data.List.GetD

/-!
# The steps of a mount

Mount is one long block: checks, the plans of the nested instances, props and values, host
nodes, binding writes, subscriptions, then placement. This file names its parts
(`childPlansOf`, `createNodes`, `writeAllBindings`, `subscribeEvents`, `placeStep`) and proves
that `mount` and `place` are those parts in order (`mount_succ`, `place_succ`), so that proofs
about a whole mount reason about one part at a time.

The parts before placement leave the nested instances and the plan as they are and never fail
(`Act.Triple.createNodes_keeps` and its siblings); a placement either attaches a node or mounts one
nested instance and appends it (`exec_placeStep_node`, `exec_placeStep_child`).
-/

namespace Reactive

open Component

/-- What the host does to create the node of a planned node: an element with its static
attributes, or a text node. -/
def Component.NodeKind.make : NodeKind → Host → Nat × Host
  | .element tag attributes, h =>
    let (el, h) := h.createElement tag
    (el, attributes.foldl (fun h (k, v) => h.setAttribute el k v) h)
  | .text value, h => h.createText value

namespace Instance

open Act

/-- The plans of a plan's nested instances, in order; the first that is not found fails. -/
def childPlansOf (prog : Program) (plan : ComponentPlan) : Act (List ComponentPlan) :=
  plan.children.mapM fun c =>
    match prog.find? c.component with
    | some p => pure p
    | none => throw (.unknownComponent c.component)

/-- Creates the host nodes of a plan in order, keeping their handles. -/
def createNodes (plan : ComponentPlan) : Act Unit :=
  forIn plan.nodes PUnit.unit fun node _ => do
    let handle ← Act.createNode node.kind
    Act.modifySelf fun s => { s with nodes := s.nodes ++ [handle] }
    pure (ForInStep.yield PUnit.unit)

/-- Writes every binding of a plan once, in order. -/
def writeAllBindings (plan : ComponentPlan) : Act Unit :=
  forIn plan.bindings PUnit.unit fun b _ => do
    let s ← Act.self
    Act.write b.node b.target (Eval.eval s.values b.expr).toText
    pure (ForInStep.yield PUnit.unit)

/-- Subscribes every event of a plan whose handler is known, keeping the subscriptions. -/
def subscribeEvents (plan : ComponentPlan) : Act Unit :=
  forIn plan.events PUnit.unit fun ev _ => do
    let s ← Act.self
    match s.keyOf? ev.handler with
    | none => pure (ForInStep.yield PUnit.unit)
    | some key =>
      let sub ← Act.host (·.subscribe (s.nodes.getD ev.node 0) ev.event key)
      Act.modifySelf fun s => { s with subscriptions := s.subscriptions ++ [sub] }
      pure (ForInStep.yield PUnit.unit)

/-- Places one node or nested instance of a plan: one turn of the placement loop. -/
def placeStep (prog : Program) (depth container : Nat) (childPlans : List ComponentPlan)
    (plan : ComponentPlan) (placement : Placement) : Act (ForInStep PUnit) := do
  let s ← Act.self
  match placement with
  | .node i =>
    let handle := s.nodes.getD i 0
    match (plan.nodes[i]?).bind (·.parent) with
    | some p =>
      Act.onHost (·.appendChild (s.nodes.getD p 0) handle)
      pure (ForInStep.yield PUnit.unit)
    | none =>
      Act.onHost (·.appendChild container handle)
      Act.modifySelf fun s => { s with roots := s.roots ++ [handle] }
      pure (ForInStep.yield PUnit.unit)
  | .child i =>
    let target := match (plan.children[i]?).bind (·.parent) with
      | some p => s.nodes.getD p 0
      | none => container
    let props := s.childProps i none
    let id ← Act.freshId
    let c ← get
    let (r, child, scene) :=
      Act.runOn (mount prog depth target props) (fresh id (childPlans.getD i default)) c.scene
    set { c with scene }
    match r with
    | .error e => throw e
    | .ok () => modify fun c => { c with children := c.children ++ [child] }
    pure (ForInStep.yield PUnit.unit)

/-- Mount, part by part. -/
theorem mount_succ (prog : Program) (d container : Nat) (props : Props) :
    mount prog (d + 1) container props = (do
      let s ← Act.self
      if s.phase != .created then throw (.alreadyMounted s.plan.name)
      match prog.checkTree s.plan with
      | .error e => throw e
      | .ok () => pure ()
      let childPlans ← childPlansOf prog s.plan
      Act.modifySelf fun s => (s.acceptProps props).seedValues
      createNodes s.plan
      writeAllBindings s.plan
      subscribeEvents s.plan
      Act.modifySelf fun s => { s with container := some container }
      place prog d container childPlans
      Act.modifySelf fun s =>
        { s with phase := .mounted, stats := { s.stats with mounts := s.stats.mounts + 1 } }) := by
  rw [mount]
  rfl

/-- Placement, one placement of the plan at a time. -/
theorem place_succ (prog : Program) (d container : Nat) (childPlans : List ComponentPlan) :
    place prog (d + 1) container childPlans = (do
      let plan := (← Act.self).plan
      forIn plan.placements PUnit.unit fun placement _ =>
        placeStep prog d container childPlans plan placement
      pure ()) := by
  rw [place]
  rfl

/-! ## What each part changes -/

theorem createNode_eq (k : NodeKind) : Act.createNode k = Act.host k.make := by
  cases k <;> rfl

/-- Taking props at mount changes only the values and the callback keys. -/
theorem acceptProps_frame : ∀ (props : Props) (s : InstanceState),
    s.acceptProps props =
      { s with values := (s.acceptProps props).values,
               callbacks := (s.acceptProps props).callbacks }
  | [], _ => rfl
  | (name, p) :: rest, s => by
    unfold InstanceState.acceptProps
    rw [List.foldl_cons]
    refine (acceptProps_frame rest _).trans ?_
    cases p with
    | value v =>
      by_cases hname : s.plan.props.contains name = true
      · simp only [hname, if_true]
        rfl
      · simp only [hname, Bool.false_eq_true, if_false]
        rfl
    | callback k =>
      by_cases hname : s.plan.callbacks.contains name = true
      · simp only [hname, if_true]
        rfl
      · simp only [hname, Bool.false_eq_true, if_false]
        rfl

/-- Creating the nodes appends their handles and changes only the host. -/
theorem createNodes_frame (plan : ComponentPlan) (c : Cursor) :
    ∃ handles host, exec (createNodes plan) c =
      (.ok (), { c with self := { c.self with nodes := c.self.nodes ++ handles },
                        scene := { c.scene with host } }) := by
  let I : List NodePlan → PUnit → Cursor → Prop := fun _ _ c' =>
    ∃ handles host, c' = { c with self := { c.self with nodes := c.self.nodes ++ handles },
                                  scene := { c.scene with host } }
  have hloop : Triple (I [] ⟨⟩) (createNodes plan) (fun _ => I plan.nodes ⟨⟩) fun _ _ => False :=
    Triple.forIn_yield I fun _ node _ _ _ => by
      rw [createNode_eq]
      refine Triple.bind (Triple.host _) fun handle => ?_
      refine Triple.bind (Triple.modifySelf _) fun _ => Triple.pure _ ?_
      rintro _ ⟨_, ⟨c₀, ⟨handles, host, rfl⟩, hhandle, rfl⟩, rfl⟩
      exact ⟨_, rfl, handles ++ [handle], (node.kind.make host).2, by simp⟩
  obtain ⟨_, c', hrun, handles, host, rfl⟩ := hloop.exists_ok (c := c) ⟨[], c.scene.host, by simp⟩
  exact ⟨handles, host, hrun⟩

/-- Writing the bindings counts the writes and changes only the host. -/
theorem writeAllBindings_frame (plan : ComponentPlan) (c : Cursor) :
    ∃ k host, exec (writeAllBindings plan) c =
      (.ok (), { c with self := { c.self with stats := { c.self.stats with
                                    bindingWrites := c.self.stats.bindingWrites + k } },
                        scene := { c.scene with host } }) := by
  let I : List BindingPlan → PUnit → Cursor → Prop := fun _ _ c' =>
    ∃ k host, c' = { c with self := { c.self with stats := { c.self.stats with
                                        bindingWrites := c.self.stats.bindingWrites + k } },
                            scene := { c.scene with host } }
  have hloop : Triple (I [] ⟨⟩) (writeAllBindings plan) (fun _ => I plan.bindings ⟨⟩)
      fun _ _ => False :=
    Triple.forIn_yield I fun _ b _ _ _ => by
      refine Triple.bind Triple.self fun s => Triple.bind (Triple.write _ _ _) fun _ =>
        Triple.pure _ ?_
      rintro _ ⟨_, ⟨⟨k, host, rfl⟩, rfl⟩, rfl⟩
      exact ⟨_, rfl, k + 1, _, rfl⟩
  obtain ⟨_, c', hrun, k, host, rfl⟩ := hloop.exists_ok (c := c) ⟨0, c.scene.host, by simp⟩
  exact ⟨k, host, hrun⟩

/-- Subscribing the events appends the subscriptions and changes only the host. -/
theorem subscribeEvents_frame (plan : ComponentPlan) (c : Cursor) :
    ∃ subs host, exec (subscribeEvents plan) c =
      (.ok (), { c with self := { c.self with subscriptions := c.self.subscriptions ++ subs },
                        scene := { c.scene with host } }) := by
  let I : List EventPlan → PUnit → Cursor → Prop := fun _ _ c' =>
    ∃ subs host, c' = { c with self := { c.self with subscriptions := c.self.subscriptions ++ subs },
                               scene := { c.scene with host } }
  have hloop : Triple (I [] ⟨⟩) (subscribeEvents plan) (fun _ => I plan.events ⟨⟩)
      fun _ _ => False :=
    Triple.forIn_yield I fun _ ev _ _ _ => by
      refine Triple.bind Triple.self fun s => ?_
      split
      · exact Triple.pure _ fun _ ⟨hc, _⟩ => ⟨_, rfl, hc⟩
      · refine Triple.bind (Triple.host _) fun sub => Triple.bind (Triple.modifySelf _) fun _ =>
          Triple.pure _ ?_
        rintro _ ⟨_, ⟨_, ⟨⟨subs, host, rfl⟩, rfl⟩, hsub, rfl⟩, rfl⟩
        exact ⟨_, rfl, subs ++ [sub], _, by simp only [List.append_assoc]; rfl⟩
  obtain ⟨_, c', hrun, subs, host, rfl⟩ := hloop.exists_ok (c := c) ⟨[], c.scene.host, by simp⟩
  exact ⟨subs, host, hrun⟩

/-! ## Placement -/

/-- The host node nested instance `i` of a plan is mounted into: its parent node, or the
container. -/
def childTarget (plan : ComponentPlan) (nodes : List Nat) (container i : Nat) : Nat :=
  match (plan.children[i]?).bind (·.parent) with
  | some p => nodes.getD p 0
  | none => container

/-- Placing node `i` appends its host node to its parent's, or to the container, where it is
recorded as a root. -/
theorem exec_placeStep_node (prog : Program) (d container : Nat) (childPlans : List ComponentPlan)
    (plan : ComponentPlan) (i : Nat) (c : Cursor) :
    exec (placeStep prog d container childPlans plan (.node i)) c =
      (.ok (.yield ⟨⟩), match (plan.nodes[i]?).bind (·.parent) with
        | some p => { c with scene := { c.scene with
            host := c.scene.host.appendChild (c.self.nodes.getD p 0) (c.self.nodes.getD i 0) } }
        | none => { c with self := { c.self with roots := c.self.roots ++ [c.self.nodes.getD i 0] },
                           scene := { c.scene with
                             host := c.scene.host.appendChild container (c.self.nodes.getD i 0) } }) := by
  simp only [placeStep, exec_bind, exec_self]
  split <;> rfl

/-- An operation run on an instance is its run from a cursor on that instance. -/
theorem runOn_eq {α : Type} (a : Act α) (i : Instance) (scene : Scene) :
    Act.runOn a i scene = ((exec a ⟨i.state, i.children, scene⟩).1,
      .node (exec a ⟨i.state, i.children, scene⟩).2.self (exec a ⟨i.state, i.children, scene⟩).2.children,
      (exec a ⟨i.state, i.children, scene⟩).2.scene) := rfl

theorem exec_freshId (c : Cursor) :
    exec Act.freshId c = (.ok c.scene.nextInstance,
      { c with scene := { c.scene with nextInstance := c.scene.nextInstance + 1 } }) := rfl

/-- Placing nested instance `i` mounts a fresh instance of its plan, with the next instance
number, into its target with its props; on success the instance is appended to the nested
ones, and either way the scene is the one the mount leaves. -/
theorem exec_placeStep_child (prog : Program) (d container : Nat) (childPlans : List ComponentPlan)
    (plan : ComponentPlan) (i : Nat) (c : Cursor) :
    exec (placeStep prog d container childPlans plan (.child i)) c =
      match exec (mount prog d (childTarget plan c.self.nodes container i) (c.self.childProps i none))
          ⟨{ id := c.scene.nextInstance, plan := childPlans.getD i default }, [],
            { c.scene with nextInstance := c.scene.nextInstance + 1 }⟩ with
      | (.ok (), c₁) => (.ok (.yield ⟨⟩),
          { c with children := c.children ++ [.node c₁.self c₁.children], scene := c₁.scene })
      | (.error e, c₁) => (.error e, { c with scene := c₁.scene }) := by
  simp only [placeStep, exec_bind, exec_self, exec_freshId, exec_get, runOn_eq, fresh,
    Instance.state, Instance.children, childTarget]
  generalize exec (mount prog d _ (c.self.childProps i none))
    ⟨{ id := c.scene.nextInstance, plan := childPlans.getD i default }, [],
      { c.scene with nextInstance := c.scene.nextInstance + 1 }⟩ = out
  rcases out with ⟨r, c₁⟩
  cases r <;> rfl

/-! ## Mounts that succeed -/


/-- The plans of the nested instances are found when every nested component is: the lookup
does not change the cursor. -/
theorem exec_childPlansOf {prog : Program} {plan : ComponentPlan}
    (h : ∀ ch ∈ plan.children, (prog.find? ch.component).isSome) (c : Cursor) :
    ∃ childPlans, exec (childPlansOf prog plan) c = (.ok childPlans, c) ∧
      List.Forall₂ (fun ch p => prog.find? ch.component = some p) plan.children childPlans := by
  have hmap : Triple (· = c) (childPlansOf prog plan) (fun ps c' => c' = c ∧
      List.Forall₂ (fun ch p => prog.find? ch.component = some p) plan.children ps)
      fun _ _ => False := by
    refine Triple.mapM fun ch hch => ?_
    obtain ⟨p, hp⟩ := Option.isSome_iff_exists.mp (h ch hch)
    simp only [hp]
    exact Triple.pure p fun _ hc => ⟨hc, rfl⟩
  obtain ⟨ps, _, hrun, rfl, hps⟩ := hmap.exists_ok rfl
  exact ⟨ps, hrun, hps⟩

/-- A tree within `n` levels is within any larger number. -/
theorem Within.mono {n : Nat} {t : Instance} (h : t.Within n) : ∀ {m : Nat}, n ≤ m → t.Within m := by
  induction h with
  | node _ ih =>
    intro m hm
    obtain ⟨m', rfl⟩ : ∃ m', m = m' + 1 := ⟨m - 1, by omega⟩
    exact .node fun g hg => ih g hg (by omega)

/-- Every mount of a fresh instance of a plan at depth `d` succeeds, whatever its number,
container, props and scene, and leaves a tree of at most `n` levels. -/
def MountsWithin (prog : Program) (d : Nat) (plan : ComponentPlan) (n : Nat) : Prop :=
  ∀ id container props scene, ∃ c', exec (mount prog d container props) ⟨{ id, plan }, [], scene⟩ =
    (.ok (), c') ∧ (Instance.node c'.self c'.children).Within n

theorem MountsWithin.mono {prog : Program} {d n m : Nat} {plan : ComponentPlan}
    (h : MountsWithin prog d plan n) (hnm : n ≤ m) : MountsWithin prog d plan m := by
  intro id container props scene
  obtain ⟨c', hrun, hwithin⟩ := h id container props scene
  exact ⟨c', hrun, hwithin.mono hnm⟩

/-- Placement succeeds when every nested instance it mounts does, keeping the plan and adding
nested instances within their levels. -/
theorem place_ok {prog : Program} {d r : Nat} (container : Nat)
    (childPlans : List ComponentPlan) {c : Cursor} (hplace : ∀ pl ∈ c.self.plan.placements,
      pl.Within c.self.plan.nodes.length childPlans.length)
    (hkids : ∀ p ∈ childPlans, MountsWithin prog d p r) (hc : ∀ g ∈ c.children, g.Within r) :
    ∃ c', exec (place prog (d + 1) container childPlans) c = (.ok (), c') ∧
      c'.self.plan = c.self.plan ∧ ∀ g ∈ c'.children, g.Within r := by
  let plan := c.self.plan
  let I : List Placement → PUnit → Cursor → Prop := fun _ _ c' =>
    c'.self.plan = plan ∧ ∀ g ∈ c'.children, g.Within r
  have hloop : Triple (I [] ⟨⟩) (forIn plan.placements PUnit.unit fun pl _ =>
      placeStep prog d container childPlans plan pl) (fun _ => I plan.placements ⟨⟩)
      fun _ _ => False := by
    refine Triple.forIn_yield I fun _ pl _ hpl _ c₀ ⟨hplan, hgs⟩ => ?_
    have hwithin := hplace pl (by rw [hpl]; simp)
    cases pl with
    | node i =>
      rw [exec_placeStep_node]
      refine ⟨_, rfl, ?_⟩
      split <;> exact ⟨hplan, hgs⟩
    | child i =>
      rw [exec_placeStep_child]
      have hi : i < childPlans.length := hwithin
      obtain ⟨c₁, hrun, hwithin₁⟩ := hkids _ (List.getD_eq_getElem _ _ hi ▸ List.getElem_mem hi)
        c₀.scene.nextInstance (childTarget plan c₀.self.nodes container i)
        (c₀.self.childProps i none) { c₀.scene with nextInstance := c₀.scene.nextInstance + 1 }
      rw [hrun]
      refine ⟨_, rfl, hplan, fun g hg => ?_⟩
      rcases List.mem_append.mp hg with hg | hg
      · exact hgs g hg
      · rw [List.mem_singleton.mp hg]
        exact hwithin₁
  obtain ⟨_, c', hrun, hI⟩ := hloop.exists_ok (c := c) ⟨rfl, hc⟩
  refine ⟨c', ?_, hI⟩
  rw [place_succ]
  simp only [exec_bind, exec_self]
  rw [hrun]
  rfl

/-- A mount succeeds, one level above its nested instances, when the plan's reachable components
are found, its placements point at its nodes and nested instances, and each nested instance's
mount succeeds. -/
theorem mount_ok_of_children {prog : Program} {d r : Nat} {plan : ComponentPlan}
    (hcheck : prog.checkTree plan = .ok ())
    (hplace : ∀ pl ∈ plan.placements, pl.Within plan.nodes.length plan.children.length)
    (hkids : ∀ ch ∈ plan.children, ∃ p, prog.find? ch.component = some p ∧
      MountsWithin prog d p r) :
    MountsWithin prog (d + 2) plan (r + 1) := by
  intro id container props scene
  have hfound : ∀ ch ∈ plan.children, (prog.find? ch.component).isSome := fun ch hch => by
    obtain ⟨p, hp, _⟩ := hkids ch hch
    simp [hp]
  obtain ⟨childPlans, hplans, hrel⟩ := exec_childPlansOf hfound ⟨{ id, plan }, [], scene⟩
  -- the nested instances' plans are the found ones, each of which mounts
  have hlen : childPlans.length = plan.children.length := hrel.length_eq.symm
  have hmounts : ∀ p ∈ childPlans, MountsWithin prog d p r := by
    intro p hp
    obtain ⟨ch, hch, hfind⟩ := exists_rel_of_mem_right hrel hp
    obtain ⟨p', hp', hm⟩ := hkids ch hch
    rw [hfind] at hp'
    cases hp'
    exact hm
  -- the parts before placement change neither the plan nor the nested instances
  let c₁ : Cursor := ⟨(({ id, plan } : InstanceState).acceptProps props).seedValues, [], scene⟩
  have hplan₁ : c₁.self.plan = plan := by
    show ((({ id, plan } : InstanceState).acceptProps props).seedValues).plan = plan
    rw [InstanceState.seedValues, acceptProps_frame]
  obtain ⟨handles, host₂, hnodes⟩ := createNodes_frame plan c₁
  obtain ⟨k, host₃, hwrites⟩ := writeAllBindings_frame plan
    { c₁ with self := { c₁.self with nodes := c₁.self.nodes ++ handles },
              scene := { c₁.scene with host := host₂ } }
  obtain ⟨subs, host₄, hsubs⟩ := subscribeEvents_frame plan
    { c₁ with self := { c₁.self with nodes := c₁.self.nodes ++ handles,
                                     stats := { c₁.self.stats with
                                       bindingWrites := c₁.self.stats.bindingWrites + k } },
              scene := { c₁.scene with host := host₃ } }
  obtain ⟨c₆, hplaced, hplan₆, hgs₆⟩ := place_ok (d := d) (r := r) container childPlans
    (c := { c₁ with self := { c₁.self with nodes := c₁.self.nodes ++ handles,
                                           stats := { c₁.self.stats with
                                             bindingWrites := c₁.self.stats.bindingWrites + k },
                                           subscriptions := c₁.self.subscriptions ++ subs,
                                           container := some container },
                    scene := { c₁.scene with host := host₄ } })
    (by rw [hlen]; simpa [hplan₁] using hplace) hmounts (fun _ h => absurd h List.not_mem_nil)
  refine ⟨{ c₆ with
      self := { c₆.self with
        phase := .mounted, stats := { c₆.self.stats with mounts := c₆.self.stats.mounts + 1 } } },
    ?_, Instance.Within.node hgs₆⟩
  rw [mount_succ]
  have hcreated : (Phase.created != Phase.created) = false := rfl
  simp only [exec_bind, exec_self, hcreated, Bool.false_eq_true, if_false, hcheck, hplans,
    exec_modifySelf]
  rw [hnodes]
  simp only
  rw [hwrites]
  simp only
  rw [hsubs]
  simp only
  rw [hplaced]

end Instance

end Reactive
