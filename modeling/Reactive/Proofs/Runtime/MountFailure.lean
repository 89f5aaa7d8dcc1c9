import Reactive.Proofs.Compose.Reach

/-!
# Failed mounts

A mount checks two things before it changes anything: the instance must be fresh, and every
component reachable from its plan must be found (`Program.checkTree`). This file shows that these
checks are the only ways a mount fails, apart from running out of depth, and that a failed check
leaves the instance and the host as they were.

* An instance that is not fresh fails with `alreadyMounted`, and one whose reachable components
  are not all found fails with the check's error; either way the cursor is unchanged
  (`exec_mount_of_not_created`, `exec_mount_of_checkTree_error`).
* Once the check passes, a mount fails only by running out of depth, and below no recursion only
  at a depth under twice the number of plans, plus four (`mount_fails_deep`): at the depth a
  program mounts with, a mount runs out of depth only when some reachable component contains
  itself.
-/

namespace Reactive

open Component

namespace Instance

open Act

variable {prog : Program}

/-! ## The checks -/

/-- A mount of an instance that is not fresh fails at once and changes nothing. -/
theorem exec_mount_of_not_created {d container : Nat} {props : Props} {c : Cursor}
    (h : c.self.phase ≠ .created) :
    exec (mount prog (d + 1) container props) c = (.error (.alreadyMounted c.self.plan.name), c) := by
  have hne : (c.self.phase != .created) = true := by
    cases hp : c.self.phase with
    | created => exact absurd hp h
    | mounted => rfl
    | unmounted => rfl
  rw [mount_succ]
  simp only [exec_bind, exec_self, hne, if_true, exec_throw]

/-- A mount of a fresh instance whose check fails fails with the check's error and changes
nothing. -/
theorem exec_mount_of_checkTree_error {d container : Nat} {props : Props} {c : Cursor}
    {e : InstanceError} (hcreated : c.self.phase = .created)
    (hcheck : prog.checkTree c.self.plan = .error e) :
    exec (mount prog (d + 1) container props) c = (.error e, c) := by
  have hfresh : (c.self.phase != .created) = false := by rw [hcreated]; rfl
  rw [mount_succ]
  simp only [exec_bind, exec_self, hfresh, Bool.false_eq_true, if_false, hcheck, exec_throw]

/-- Once its checks pass, a mount is a placement from the cursor its earlier parts leave, which
keeps the plan, followed by marking the instance mounted; the nested instances are placed with the
plans found for them. -/
theorem exec_mount_of_findsAll (d container : Nat) (props : Props) {c : Cursor}
    (hcreated : c.self.phase = .created) (hall : prog.FindsAll c.self.plan) :
    ∃ childPlans c₁, List.Forall₂ (fun ch q => prog.find? ch.component = some q)
        c.self.plan.children childPlans ∧ c₁.self.plan = c.self.plan ∧
      exec (mount prog (d + 1) container props) c =
        exec (place prog d container childPlans >>= fun _ => Act.modifySelf fun s =>
          { s with phase := .mounted, stats := { s.stats with mounts := s.stats.mounts + 1 } }) c₁ := by
  have hfresh : (c.self.phase != .created) = false := by rw [hcreated]; rfl
  have hcheck := Program.checkTree_eq_ok_iff.mpr hall
  obtain ⟨childPlans, hplans, hrel⟩ :=
    exec_childPlansOf (fun ch hch => hall _ (.child hch)) c
  -- the parts before placement change the values, nodes, counts, subscriptions and host
  let c₁ : Cursor := { c with self := (c.self.acceptProps props).seedValues }
  obtain ⟨handles, host₂, hnodes⟩ := createNodes_frame c.self.plan c₁
  obtain ⟨k, host₃, hwrites⟩ := writeAllBindings_frame c.self.plan
    { c₁ with self := { c₁.self with nodes := c₁.self.nodes ++ handles },
              scene := { c₁.scene with host := host₂ } }
  obtain ⟨subs, host₄, hsubs⟩ := subscribeEvents_frame c.self.plan
    { c₁ with self := { c₁.self with nodes := c₁.self.nodes ++ handles,
                                     stats := { c₁.self.stats with
                                       bindingWrites := c₁.self.stats.bindingWrites + k } },
              scene := { c₁.scene with host := host₃ } }
  let c₄ : Cursor :=
    { c₁ with self := { c₁.self with nodes := c₁.self.nodes ++ handles,
                                     stats := { c₁.self.stats with
                                       bindingWrites := c₁.self.stats.bindingWrites + k },
                                     subscriptions := c₁.self.subscriptions ++ subs,
                                     container := some container },
              scene := { c₁.scene with host := host₄ } }
  refine ⟨childPlans, c₄, hrel, ?_, ?_⟩
  · show ((c.self.acceptProps props).seedValues).plan = c.self.plan
    rw [InstanceState.seedValues, acceptProps_frame]
  · rw [mount_succ]
    simp only [exec_bind, exec_self, hfresh, Bool.false_eq_true, if_false, hcheck, hplans,
      exec_modifySelf]
    rw [hnodes]
    simp only
    rw [hwrites]
    simp only
    rw [hsubs]

/-! ## Placement -/

/-- A placement fails only where it mounts a nested instance, with that mount's error: one of the
plan's placements is nested instance `i`, and the mount of a fresh instance of the plan given for
it fails. -/
theorem place_error {d container : Nat} {childPlans : List ComponentPlan} {c c' : Cursor}
    {e : InstanceError} (h : exec (place prog (d + 1) container childPlans) c = (.error e, c')) :
    ∃ i, Placement.child i ∈ c.self.plan.placements ∧ ∃ target props id scene c₁,
      exec (mount prog d target props) ⟨{ id, plan := childPlans.getD i default }, [], scene⟩ =
        (.error e, c₁) := by
  have hloop : Triple (fun _ => True) (forIn c.self.plan.placements PUnit.unit fun pl _ =>
      placeStep prog d container childPlans c.self.plan pl) (fun _ _ => True)
      (fun e _ => ∃ i, Placement.child i ∈ c.self.plan.placements ∧ ∃ target props id scene c₁,
        exec (mount prog d target props) ⟨{ id, plan := childPlans.getD i default }, [], scene⟩ =
          (.error e, c₁)) := by
    refine Triple.forIn_yield (fun _ _ _ => True) fun pre pl post hpl _ c₀ _ => ?_
    cases pl with
    | node i =>
      rw [exec_placeStep_node]
      exact ⟨_, rfl, trivial⟩
    | child i =>
      rw [exec_placeStep_child]
      let fresh : Cursor := ⟨{ id := c₀.scene.nextInstance, plan := childPlans.getD i default },
        [], { c₀.scene with nextInstance := c₀.scene.nextInstance + 1 }⟩
      rcases hm : exec (mount prog d (childTarget c.self.plan c₀.self.nodes container i)
        (c₀.self.childProps i none)) fresh with ⟨r, c₁⟩
      cases r with
      | ok u => exact ⟨_, rfl, trivial⟩
      | error e' => exact ⟨i, by rw [hpl]; simp, _, _, _, _, c₁, hm⟩
  rw [place_succ, exec_bind, exec_self] at h
  dsimp only at h
  rw [exec_bind] at h
  revert h
  rcases hx : exec (forIn c.self.plan.placements PUnit.unit fun pl _ =>
    placeStep prog d container childPlans c.self.plan pl) c with ⟨r, c₁⟩
  cases r with
  | ok u => intro h; cases h
  | error e' =>
    intro h
    cases h
    exact hloop.of_error trivial hx

/-! ## Running out of depth -/

/-- What a mount that failed after its checks passed says: it ran out of depth; and, below no
recursion, with `anc` names found once each on the way down that the plan does not reach, at a
depth under twice the number of plans left, plus four. -/
def OutOfDepth (prog : Program) (d : Nat) (plan : ComponentPlan) (e : InstanceError) : Prop :=
  (∃ n, e = .tooDeep n) ∧ ∀ anc : List String, prog.Seen anc →
    (∀ a ∈ anc, ¬ prog.Reaches plan a) → ¬ prog.Recursive plan →
    d < 2 * (prog.plans.length - anc.length) + 4

/-- The mount of an instance of a plan with no nested instances fails only at a depth under
two. -/
theorem mount_default_lt {d container : Nat} {props : Props} {id : Nat} {scene : Scene}
    {e : InstanceError} {c' : Cursor}
    (h : exec (mount prog d container props) ⟨{ id, plan := default }, [], scene⟩ = (.error e, c')) :
    d < 2 := by
  match d, h with
  | 0, _ => omega
  | 1, _ => omega
  | d + 2, h =>
    obtain ⟨childPlans, c₁, -, hplan, hrun⟩ := exec_mount_of_findsAll (d + 1) container props
      (c := ⟨{ id, plan := default }, [], scene⟩) rfl (Program.findsAll_of_children_nil rfl)
    rw [hrun, exec_bind] at h
    revert h
    rcases hplace : exec (place prog (d + 1) container childPlans) c₁ with ⟨r, c₂⟩
    cases r with
    | ok u => intro h; cases h
    | error e' =>
      intro _
      -- a plan with no placements places nothing
      obtain ⟨i, hi, -⟩ := place_error hplace
      rw [hplan] at hi
      cases hi

/-- A mount of a fresh instance whose reachable components are found fails only by running out
of depth, and below no recursion only at a depth under twice the number of plans, plus four. The
induction goes down two levels at a time, from a mount to the mounts of its nested instances; on
the way down the expanded names are distinct and found, so there are no more of them than
plans. -/
theorem mount_fails_deep : ∀ (d container : Nat) (props : Props) (c : Cursor) (e : InstanceError),
    c.self.phase = .created → prog.FindsAll c.self.plan →
    (exec (mount prog d container props) c).1 = .error e → OutOfDepth prog d c.self.plan e
  | 0, container, props, c, e, _, _, h => by
    have hrun : exec (mount prog 0 container props) c = (.error (.tooDeep c.self.plan.name), c) := by
      rw [mount]; rfl
    rw [hrun] at h
    cases h
    exact ⟨⟨_, rfl⟩, fun _ _ _ _ => by omega⟩
  | 1, container, props, c, e, hcreated, hall, h => by
    obtain ⟨childPlans, c₁, -, -, hrun⟩ := exec_mount_of_findsAll 0 container props hcreated hall
    have hplace : exec (place prog 0 container childPlans) c₁ =
        (.error (.tooDeep c₁.self.plan.name), c₁) := by
      rw [place]; rfl
    rw [hrun, exec_bind, hplace] at h
    cases h
    exact ⟨⟨_, rfl⟩, fun _ _ _ _ => by omega⟩
  | d + 2, container, props, c, e, hcreated, hall, h => by
    obtain ⟨childPlans, c₁, hrel, hplan, hrun⟩ :=
      exec_mount_of_findsAll (d + 1) container props hcreated hall
    rw [hrun, exec_bind] at h
    -- the error is the placement's, and so that of the mount of one nested instance
    obtain ⟨c₂, hplace⟩ : ∃ c₂, exec (place prog (d + 1) container childPlans) c₁ = (.error e, c₂) := by
      revert h
      rcases exec (place prog (d + 1) container childPlans) c₁ with ⟨r, c₂⟩
      cases r with
      | ok u => intro h; cases h
      | error e' => intro h; cases h; exact ⟨c₂, rfl⟩
    obtain ⟨i, -, target, props', id, scene, c₃, hnested⟩ := place_error hplace
    by_cases hi : i < childPlans.length
    · -- a nested instance of the plan, whose component was found
      obtain ⟨ch, hch, hfind⟩ := exists_rel_of_mem_right hrel
        (List.getD_eq_getElem _ _ hi ▸ List.getElem_mem hi)
      have hall' := hall.of_reaches (.child hch) _ hfind
      obtain ⟨hdeep, hbound⟩ := mount_fails_deep d target props' _ e rfl hall' (by rw [hnested])
      refine ⟨hdeep, fun anc hseen hanc hrec => ?_⟩
      have hnot : ch.component ∉ anc := fun ha => hanc _ ha (.child hch)
      have hseen' := hseen.push hnot (by simp [hfind])
      have hlen := hseen'.length_le
      have h' := hbound _ hseen' (Program.not_reaches_of_child hrec hch hfind hanc)
        (Program.not_recursive_of_child hrec hch hfind)
      simp only [List.length_append, List.length_singleton] at hlen h'
      omega
    · -- a placement past the nested instances mounts an instance with no nested ones
      rw [List.getD_eq_default _ _ (by omega)] at hnested
      have hlt := mount_default_lt hnested
      obtain ⟨hdeep, -⟩ := mount_fails_deep d target props' _ e rfl
        (Program.findsAll_of_children_nil rfl) (by rw [hnested])
      exact ⟨hdeep, fun _ _ _ _ => by omega⟩

end Instance

/-! ## Mount fails cleanly -/

/-- The depth a program mounts with is at least twice the number of its plans, plus four. -/
theorem Program.mountDepth_ge (prog : Program) :
    2 * prog.plans.length + 4 ≤ prog.mountDepth := by
  unfold Program.mountDepth Instance.depthLimit
  omega

/-- A mount fails only by its checks or by running out of depth, and a failed check changes
nothing. An instance that is not fresh fails with `alreadyMounted`. A fresh one fails naming a
missing component exactly when a component reachable from its plan is not found, and below no
recursion the name is the first missing one in depth-first template order, and with recursion or
not it is the one the pruned walk of the check names; such a failure leaves
the instance, its nested instances and the host with its record of calls as they were, so a later
mount starts from the same cursor. Every other failure is running out of depth, which at the depth
a program mounts with happens only when a reachable component contains itself. -/
theorem mount_fails_cleanly (prog : Program) (container : Nat) (props : Props) (c : Cursor) :
    let run := Act.exec (Instance.mount prog prog.mountDepth container props) c
    (c.self.phase ≠ .created → run = (.error (.alreadyMounted c.self.plan.name), c)) ∧
    (c.self.phase = .created →
      ((∃ x, run.1 = .error (.unknownComponent x)) ↔
        ∃ y, prog.Reaches c.self.plan y ∧ prog.find? y = none) ∧
      (∀ x, run.1 = .error (.unknownComponent x) → ¬ prog.Recursive c.self.plan →
        prog.FirstMissing c.self.plan.children x) ∧
      (∀ x, run.1 = .error (.unknownComponent x) ↔
        prog.PrunedWalk [] c.self.plan.children (.error x)) ∧
      ∀ e, run.1 = .error e →
        (run.2 = c ∧ ∃ x, e = .unknownComponent x) ∨
        ((∃ n, e = .tooDeep n) ∧ prog.Recursive c.self.plan)) := by
  obtain ⟨d, hd⟩ : ∃ d, prog.mountDepth = d + 1 :=
    ⟨prog.mountDepth - 1, by have := prog.mountDepth_ge; omega⟩
  intro run
  refine ⟨fun h => by simp only [run, hd]; exact Instance.exec_mount_of_not_created h,
    fun hcreated => ?_⟩
  cases hcheck : prog.checkTree c.self.plan with
  | error e₀ =>
    -- the check fails: the mount fails with its error and changes nothing
    have hrun : run = (.error e₀, c) := by
      simp only [run, hd]
      exact Instance.exec_mount_of_checkTree_error hcreated hcheck
    obtain ⟨x₀, rfl, hx₀, hmiss₀⟩ := Program.checkTree_eq_error hcheck
    refine ⟨⟨fun _ => ⟨x₀, hx₀, hmiss₀⟩, fun _ => ⟨x₀, by rw [hrun]⟩⟩, fun x hx hrec => ?_,
      fun x => ?_, fun e he => .inl ⟨by rw [hrun], x₀, ?_⟩⟩
    · rw [hrun] at hx
      cases hx
      exact (Program.checkTree_error_iff_firstMissing hrec).mp hcheck
    · -- the mount names what the check names
      rw [hrun, ← Program.checkTree_error_iff_prunedWalk, hcheck]
    · rw [hrun] at he
      cases he
      rfl
  | ok u =>
    -- the check passes: the mount fails only by running out of depth, below a recursion
    have hall := Program.checkTree_eq_ok_iff.mp hcheck
    have hdeep : ∀ e, run.1 = .error e → (∃ n, e = .tooDeep n) ∧ prog.Recursive c.self.plan := by
      intro e he
      obtain ⟨hdeep, hbound⟩ := Instance.mount_fails_deep _ container props c e hcreated hall he
      refine ⟨hdeep, Classical.byContradiction fun hrec => ?_⟩
      have hlt := hbound [] Program.Seen.nil (fun _ h => absurd h List.not_mem_nil) hrec
      have hge := prog.mountDepth_ge
      simp only [List.length_nil, Nat.sub_zero] at hlt
      omega
    refine ⟨⟨fun hx => ?_, fun hy => ?_⟩, fun x hx _ => ?_, fun x => ⟨fun hx => ?_, fun hx => ?_⟩,
      fun e he => .inr (hdeep e he)⟩
    · obtain ⟨x, hx⟩ := hx
      obtain ⟨⟨n, hn⟩, -⟩ := hdeep _ hx
      cases hn
    · obtain ⟨y, hy, hmiss⟩ := hy
      have hfound := hall y hy
      rw [hmiss] at hfound
      cases hfound
    · obtain ⟨⟨n, hn⟩, -⟩ := hdeep _ hx
      cases hn
    · obtain ⟨⟨n, hn⟩, -⟩ := hdeep _ hx
      cases hn
    · -- a walk that names a component makes the check fail
      rw [← Program.checkTree_error_iff_prunedWalk, hcheck] at hx
      cases hx

end Reactive
