import Reactive.Proofs.Teardown.Frame

/-!
# Unmount releases what mount placed

Between a mount and the teardown of its tree, the container holds the children it held before
(`Baseline`) followed by roots of mounted instances, the live subscriptions are those from before
followed by subscriptions of mounted instances, and the appends logged for the container exceed
its removes by the roots still in it. `Placed` says so of the footprints of the tree and the host.

Unmounting one instance releases its footprint: its subscriptions end and its roots leave its
container (`Host.release`), which keeps `Placed` (`Placed.release`). An unmount is a run of such
releases over its subtree (`unmountReleases`); under the recursive policy it leaves the whole
subtree unmounted when no mounted instance lay under an unmounted one (`Outline.Closed`).
Once no instance of the tree is mounted, `Placed` says that the container and the live
subscriptions are as they were and that the appends and removes balance (`Placed.restored`).
-/

namespace Reactive

open Component Footprint

/-- The host before a mount, as teardown has to restore it: the container with its children, the
live subscriptions, all numbered at most `lastId` (a node is never numbered `0`), and the calls
logged so far. -/
structure Baseline where
  container : Nat
  lastId : Nat
  children : List Nat
  live : List Subscription
  calls : List HostCall
  container_pos : 0 < container
  container_le : container ≤ lastId
  children_le : ∀ y ∈ children, 0 < y ∧ y ≤ lastId
  live_le : ∀ x ∈ live, x.id ≤ lastId

/-- What a footprint is after its instance is released: no subscription, no container, and no
root when it had a container to remove them from. -/
def Footprint.release (fp : Footprint) : Footprint :=
  ⟨fp.phase, none, match fp.container with | some _ => [] | none => fp.roots, []⟩

/-- Roots of footprints `fps`, mounted into the container of `b`, and their subscriptions are all
that the host holds beyond what it held before, and the container's appends exceed its removes by
those roots. -/
structure Placed (b : Baseline) (fps : List Footprint) (h : Host) : Prop where
  children : ∃ Y, h.childrenOf b.container = some (b.children ++ Y) ∧
    ∀ y ∈ Y, y ∈ rootsIn b.container fps
  live : ∃ X, h.live = b.live ++ X ∧ ∀ x ∈ X, x.id ∈ subscriptionsOf fps
  fresh : ∀ fp ∈ fps, fp.FreshAfter b.lastId
  idle : ∀ fp ∈ fps, fp.phase ≠ .mounted → fp.container = none ∧ fp.subscriptions = []
  calls : ∃ log, h.calls = b.calls ++ log ∧
    log.countP (HostCall.appendsTo b.container) =
      log.countP (HostCall.removesFrom b.container) + (rootsIn b.container fps).length

namespace Footprint

@[simp]
theorem rootsIn_release (y : Nat) (fp : Footprint) : rootsIn y [fp.release] = [] := by
  simp [rootsIn, release]

@[simp]
theorem subscriptionsOf_release (fp : Footprint) : subscriptionsOf [fp.release] = [] := by
  simp [subscriptionsOf, release]

theorem rootsIn_middle (y : Nat) (A B : List Footprint) (fp : Footprint) :
    rootsIn y (A ++ fp :: B) =
      rootsIn y A ++ (if fp.container = some y then fp.roots else []) ++ rootsIn y B := by
  simp [List.append_assoc]

theorem rootsIn_middle_release (y : Nat) (A B : List Footprint) (fp : Footprint) :
    rootsIn y (A ++ fp.release :: B) = rootsIn y A ++ rootsIn y B := by
  simp [release]

theorem subscriptionsOf_middle_release (A B : List Footprint) (fp : Footprint) :
    subscriptionsOf (A ++ fp.release :: B) = subscriptionsOf A ++ subscriptionsOf B := by
  simp [release]

end Footprint

namespace Placed

variable {b : Baseline} {A B : List Footprint} {fp : Footprint} {h : Host}

/-- Releasing one footprint keeps the placement: the container loses exactly the released roots,
none of which it held before, and the live subscriptions exactly the released ones. -/
theorem release (hp : Placed b (A ++ fp :: B) h) : Placed b (A ++ fp.release :: B) (h.release fp) := by
  have hfp : fp.FreshAfter b.lastId := hp.fresh fp (by simp)
  refine ⟨?_, ?_, fun f hf => ?_, fun f hf hph => ?_, ?_⟩
  · -- the container's children
    obtain ⟨Y, hY, hy⟩ := hp.children
    rw [Host.childrenOf_release]
    by_cases hc : fp.container = some b.container
    · -- its roots are filtered out; those it held before are no roots
      rw [if_pos hc, hY]
      refine ⟨Y.filter fun z => !fp.roots.reverse.contains z, ?_, fun y hyY => ?_⟩
      · rw [Option.map_some, List.filter_append]
        congr
        apply List.filter_eq_self.mpr
        intro z hz
        have hz' := b.children_le z hz
        rw [List.contains_reverse, Bool.not_eq_eq_eq_not, Bool.not_true, Bool.eq_false_iff, ne_eq,
          List.contains_iff_mem]
        intro hmem
        rcases hfp.1 z hmem with h0 | hlt <;> omega
      · obtain ⟨hyY, hyr⟩ := List.mem_filter.mp hyY
        have hnot : y ∉ fp.roots := by simpa using hyr
        have hy' := hy y hyY
        rw [rootsIn_middle, if_pos hc] at hy'
        rw [rootsIn_middle_release]
        simp only [List.mem_append] at hy' ⊢
        tauto
    · rw [if_neg hc]
      refine ⟨Y, hY, fun y hyY => ?_⟩
      have hy' := hy y hyY
      rw [rootsIn_middle, if_neg hc, List.append_nil] at hy'
      rwa [rootsIn_middle_release]
  · -- the live subscriptions
    obtain ⟨X, hX, hx⟩ := hp.live
    rw [Host.live_release, hX, List.filter_append]
    refine ⟨X.filter fun x => !fp.subscriptions.reverse.contains x.id, ?_, fun x hxX => ?_⟩
    · congr
      apply List.filter_eq_self.mpr
      intro z hz
      have hz' := b.live_le z hz
      rw [List.contains_reverse, Bool.not_eq_eq_eq_not, Bool.not_true, Bool.eq_false_iff, ne_eq,
        List.contains_iff_mem]
      intro hmem
      have := hfp.2 _ hmem
      omega
    · obtain ⟨hxX, hxs⟩ := List.mem_filter.mp hxX
      have hnot : x.id ∉ fp.subscriptions := by simpa using hxs
      have hx' := hx x hxX
      rw [subscriptionsOf_middle_release]
      simp only [subscriptionsOf_append, subscriptionsOf_cons, List.mem_append] at hx' ⊢
      tauto
  · -- what stays is as fresh as it was
    rcases List.mem_append.mp hf with hf | hf
    · exact hp.fresh f (List.mem_append_left _ hf)
    · rcases List.mem_cons.mp hf with rfl | hf
      · refine ⟨fun r hr => hfp.1 r ?_, fun x hx => absurd hx (by simp [Footprint.release])⟩
        unfold Footprint.release at hr
        split at hr
        · exact absurd hr List.not_mem_nil
        · exact hr
      · exact hp.fresh f (by simp [hf])
  · rcases List.mem_append.mp hf with hf | hf
    · exact hp.idle f (List.mem_append_left _ hf) hph
    · rcases List.mem_cons.mp hf with rfl | hf
      · exact ⟨rfl, rfl⟩
      · exact hp.idle f (by simp [hf]) hph
  · -- the container's removes grow by its released roots
    obtain ⟨log, hlog, hcount⟩ := hp.calls
    obtain ⟨happ, hrem⟩ := Host.countP_releaseCalls fp b.container
    refine ⟨log ++ Host.releaseCalls fp, by rw [Host.calls_release, hlog, List.append_assoc], ?_⟩
    rw [rootsIn_middle] at hcount
    rw [rootsIn_middle_release, List.countP_append, List.countP_append, happ, hrem]
    split at hcount
    · rw [if_pos ‹_›]
      simp only [List.length_append] at hcount ⊢
      omega
    · rw [if_neg ‹_›]
      simp only [List.length_append, List.append_nil] at hcount ⊢
      omega

/-- A mount of fresh, mounted footprints from the host as it was places them. -/
theorem of_grows {h₀ : Host} {fps : List Footprint} (hgrow : h₀.Grows h (rootsIn · fps) (subscriptionsOf fps))
    (hchildren : h₀.childrenOf b.container = some b.children) (hlive : h₀.live = b.live)
    (hcalls : h₀.calls = b.calls) (hlast : h₀.lastId = b.lastId)
    (hfps : ∀ fp ∈ fps, fp.phase = .mounted ∧ fp.FreshAfter b.lastId) : Placed b fps h := by
  obtain ⟨Z, hZ, hz⟩ := hgrow.children b.container b.container_pos (hlast ▸ b.container_le)
  obtain ⟨X, hX, hx⟩ := hgrow.live
  obtain ⟨log, hlog, hrm, happ⟩ := hgrow.calls
  refine ⟨⟨Z, by rw [hZ, hchildren]; rfl, hz⟩, ⟨X, by rw [hX, hlive], hx⟩,
    fun fp hfp => (hfps fp hfp).2, fun fp hfp hph => absurd (hfps fp hfp).1 hph,
    ⟨log, by rw [hlog, hcalls], ?_⟩⟩
  rw [happ b.container b.container_pos (hlast ▸ b.container_le), List.countP_eq_zero.mpr
    fun w hw => by rw [hrm w hw b.container]; exact Bool.false_ne_true, Nat.zero_add]

/-- Writes keep the placement. -/
theorem of_onlyWrites {h' : Host} (hp : Placed b fps h) (hw : h.OnlyWrites h') : Placed b fps h' := by
  obtain ⟨Y, hY, hy⟩ := hp.children
  obtain ⟨X, hX, hx⟩ := hp.live
  obtain ⟨log, hlog, hcount⟩ := hp.calls
  obtain ⟨ws, hws, hw'⟩ := hw.calls
  refine ⟨⟨Y, by rw [hw.children, hY], hy⟩, ⟨X, by rw [hw.live, hX], hx⟩, hp.fresh, hp.idle,
    ⟨log ++ ws, by rw [hws, hlog, List.append_assoc], ?_⟩⟩
  -- a write appends to and removes from no node
  have happ : ws.countP (HostCall.appendsTo b.container) = 0 :=
    List.countP_eq_zero.mpr fun w hw => by
      rw [(HostCall.not_appendsTo_of_isWrite (hw' w hw) _).1]
      exact Bool.false_ne_true
  have hrem : ws.countP (HostCall.removesFrom b.container) = 0 :=
    List.countP_eq_zero.mpr fun w hw => by
      rw [(HostCall.not_appendsTo_of_isWrite (hw' w hw) _).2]
      exact Bool.false_ne_true
  rw [List.countP_append, List.countP_append, happ, hrem, hcount, Nat.add_zero, Nat.add_zero]

/-- Once no instance is mounted, the container holds exactly its children from before, the live
subscriptions are those from before, and the container's appends and removes balance. -/
theorem restored (hp : Placed b fps h) (hall : ∀ fp ∈ fps, fp.phase ≠ .mounted) :
    h.childrenOf b.container = some b.children ∧ h.live = b.live ∧
      ∃ log, h.calls = b.calls ++ log ∧
        log.countP (HostCall.appendsTo b.container) = log.countP (HostCall.removesFrom b.container) := by
  -- nothing unmounted keeps a root in a container or a subscription
  have hroots : rootsIn b.container fps = [] := by
    refine List.flatMap_eq_nil_iff.mpr fun fp hfp => ?_
    rw [(hp.idle fp hfp (hall fp hfp)).1]
    exact if_neg (by simp)
  have hsubs : subscriptionsOf fps = [] :=
    List.flatMap_eq_nil_iff.mpr fun fp hfp => (hp.idle fp hfp (hall fp hfp)).2
  obtain ⟨Y, hY, hy⟩ := hp.children
  obtain ⟨X, hX, hx⟩ := hp.live
  obtain ⟨log, hlog, hcount⟩ := hp.calls
  have hY0 : Y = [] := List.eq_nil_iff_forall_not_mem.mpr fun y hyY => by
    simpa [hroots] using hy y hyY
  have hX0 : X = [] := List.eq_nil_iff_forall_not_mem.mpr fun x hxX => by
    simpa [hsubs] using hx x hxX
  refine ⟨by rw [hY, hY0, List.append_nil], by rw [hX, hX0, List.append_nil], log, hlog, ?_⟩
  rw [hcount, hroots, List.length_nil, Nat.add_zero]

end Placed

/-- Every placement of footprints `fps` over host `h`, whatever footprints surround them, is a
placement of `fps'` over `h'` in their place: what a run of releases does. -/
def Releases (fps : List Footprint) (h : Host) (fps' : List Footprint) (h' : Host) : Prop :=
  ∀ (b : Baseline) (A B : List Footprint), Placed b (A ++ fps ++ B) h → Placed b (A ++ fps' ++ B) h'

namespace Releases

variable {fps fps₁ fps₂ fps₃ : List Footprint} {h h₁ h₂ h₃ : Host}

theorem refl (fps : List Footprint) (h : Host) : Releases fps h fps h := fun _ _ _ hp => hp

theorem trans (h₁₂ : Releases fps₁ h₁ fps₂ h₂) (h₂₃ : Releases fps₂ h₂ fps₃ h₃) :
    Releases fps₁ h₁ fps₃ h₃ :=
  fun b A B hp => h₂₃ b A B (h₁₂ b A B hp)

/-- Releases among some footprints are releases among more. -/
theorem frame (hr : Releases fps₁ h₁ fps₂ h₂) (A₀ B₀ : List Footprint) :
    Releases (A₀ ++ fps₁ ++ B₀) h₁ (A₀ ++ fps₂ ++ B₀) h₂ := by
  intro b A B hp
  have h := hr b (A ++ A₀) (B₀ ++ B) (by simpa only [List.append_assoc] using hp)
  simpa only [List.append_assoc] using h

/-- Releasing the first footprint. -/
theorem release_head (fp : Footprint) (F : List Footprint) (h : Host) :
    Releases (fp :: F) h (fp.release :: F) (h.release fp) := by
  intro b A B hp
  have h := Placed.release (A := A) (B := F ++ B) (by simpa only [List.append_assoc,
    List.cons_append] using hp)
  simpa only [List.append_assoc, List.cons_append] using h

/-- Marking unmounted a footprint with no container and no subscription changes nothing. -/
theorem unmounted_head {fp : Footprint} (F : List Footprint) (h : Host) (hc : fp.container = none)
    (hs : fp.subscriptions = []) :
    Releases (fp :: F) h ({ fp with phase := .unmounted } :: F) h := by
  intro b A B hp
  -- the two lists have the same roots in every node and the same subscriptions
  have hroots : ∀ y, rootsIn y (A ++ { fp with phase := .unmounted } :: F ++ B) =
      rootsIn y (A ++ fp :: F ++ B) := fun y => by simp [hc]
  have hsubs : subscriptionsOf (A ++ { fp with phase := .unmounted } :: F ++ B) =
      subscriptionsOf (A ++ fp :: F ++ B) := by simp [hs]
  have hmem : ∀ f ∈ A ++ { fp with phase := .unmounted } :: F ++ B,
      f = { fp with phase := .unmounted } ∨ f ∈ A ++ fp :: F ++ B := by
    intro f hf
    simp only [List.mem_append, List.mem_cons] at hf ⊢
    tauto
  obtain ⟨Y, hY, hy⟩ := hp.children
  obtain ⟨X, hX, hx⟩ := hp.live
  obtain ⟨log, hlog, hcount⟩ := hp.calls
  refine ⟨⟨Y, hY, fun y hyY => (hroots _).symm ▸ hy y hyY⟩,
    ⟨X, hX, fun x hxX => hsubs.symm ▸ hx x hxX⟩, fun f hf => ?_, fun f hf hph => ?_,
    ⟨log, hlog, (hroots _).symm ▸ hcount⟩⟩
  · rcases hmem f hf with rfl | hf
    · exact hp.fresh fp (by simp)
    · exact hp.fresh f hf
  · rcases hmem f hf with rfl | hf
    · exact ⟨hc, hs⟩
    · exact hp.idle f hf hph

/-- Releases within a nested instance are releases within the tree. -/
theorem child {s : InstanceState} {gs : List Instance} {k : Nat} {g g' : Instance}
    (hk : gs[k]? = some g) (hr : Releases g.outline.footprints h₁ g'.outline.footprints h₂) :
    Releases (Instance.node s gs).outline.footprints h₁
      (Instance.node s (gs.set k g')).outline.footprints h₂ := by
  have hat : (Instance.node s gs).at? [k] = some g := by
    simp only [Instance.at?, Instance.children, hk]
  obtain ⟨A₀, B₀, hfps, hset⟩ := Instance.footprints_setAt [k] _ g hat
  have hnode : (Instance.node s gs).setAt [k] g' = Instance.node s (gs.set k g') := by
    simp only [Instance.setAt, hk]
  rw [hfps, ← hnode, hset]
  exact hr.frame A₀ B₀

end Releases

/-! ## The steps of an unmount -/

/-- A bind that succeeds ran its first part to success. -/
theorem Act.exec_bind_ok_inv {α β : Type} {x : Act α} {f : α → Act β} {c c' : Cursor} {v : β}
    (h : Act.exec (x >>= f) c = (.ok v, c')) :
    ∃ a c₁, Act.exec x c = (.ok a, c₁) ∧ Act.exec (f a) c₁ = (.ok v, c') := by
  rw [Act.exec_bind] at h
  revert h
  rcases Act.exec x c with ⟨r, c₁⟩
  cases r with
  | ok a => exact fun h => ⟨a, c₁, rfl, h⟩
  | error e => exact fun h => nomatch h

/-- What unmount leaves of an instance before its nested instances: no subscriptions, container
or nodes, and no roots if it had a container. -/
def InstanceState.released (s : InstanceState) : InstanceState :=
  { s with subscriptions := [], roots := match s.container with | some _ => [] | none => s.roots,
           container := none, nodes := [] }

theorem InstanceState.footprint_released (s : InstanceState) :
    s.released.footprint = s.footprint.release := by
  unfold released InstanceState.footprint Footprint.release
  cases s.container <;> rfl

namespace Instance

open Act

/-- Ends subscriptions, last first. -/
def releaseSubscriptions (subs : List Nat) : Act Unit :=
  forIn subs.reverse PUnit.unit fun sub _ => do
    Act.onHost (·.unsubscribe sub)
    pure (ForInStep.yield PUnit.unit)

/-- Removes roots from a container, last first. -/
def removeRoots (container : Nat) (roots : List Nat) : Act Unit :=
  forIn roots.reverse PUnit.unit fun node _ => do
    Act.onHost (·.removeChild container node)
    pure (ForInStep.yield PUnit.unit)

/-- Unmounts nested instance `index` if it is mounted: one turn of the loop over nested
instances. -/
def unmountStep (prog : Program) (d index : Nat) (_ : PUnit) : Act (ForInStep PUnit) := do
  if ((← get).children[index]?).any (·.isMounted) then
    Act.onChild index (unmount prog d)
    pure (ForInStep.yield PUnit.unit)
  else pure (ForInStep.yield PUnit.unit)

/-- The end of an unmount: the mounted nested instances are unmounted, last first, under the
recursive policy, then the instance is marked unmounted. -/
def finishUnmount (prog : Program) (d : Nat) : Act Unit := do
  if prog.options.teardown == .recursive then
    let count := (← get).children.length
    forIn (List.range count).reverse PUnit.unit (unmountStep prog d)
  Act.modifySelf fun s => { s with pending := [], phase := .unmounted }

/-- Unmount, step by step. -/
theorem unmount_succ (prog : Program) (d : Nat) :
    unmount prog (d + 1) = (do
      Act.ensureMounted
      let s ← Act.self
      releaseSubscriptions s.subscriptions
      Act.modifySelf fun s => { s with subscriptions := [] }
      match s.container with
      | some c =>
        removeRoots c s.roots
        Act.modifySelf fun s => { s with roots := [], container := none }
      | none => pure ()
      Act.modifySelf fun s => { s with nodes := [] }
      finishUnmount prog d) := by
  rw [unmount]
  rfl

/-- A loop that runs a host operation for each element. -/
theorem exec_forIn_onHost {γ : Type} (f : γ → Host → Host) :
    ∀ (xs : List γ) (c : Cursor),
      exec (forIn xs PUnit.unit fun x _ => do
          Act.onHost (f x)
          pure (ForInStep.yield PUnit.unit)) c =
        (.ok ⟨⟩, { c with scene := { c.scene with host := xs.foldl (fun h x => f x h) c.scene.host } })
  | [], c => rfl
  | x :: xs, c => by
    rw [List.forIn_cons, exec_bind, exec_bind, exec_onHost]
    exact exec_forIn_onHost f xs _

theorem exec_releaseSubscriptions (subs : List Nat) (c : Cursor) :
    exec (releaseSubscriptions subs) c =
      (.ok ⟨⟩, { c with scene := { c.scene with host := c.scene.host.unsubscribeAll subs.reverse } }) :=
  exec_forIn_onHost (fun sub h => h.unsubscribe sub) subs.reverse c

theorem exec_removeRoots (container : Nat) (roots : List Nat) (c : Cursor) :
    exec (removeRoots container roots) c =
      (.ok ⟨⟩, { c with scene := { c.scene with
        host := c.scene.host.removeAll container roots.reverse } }) :=
  exec_forIn_onHost (fun r h => h.removeChild container r) roots.reverse c

/-- An unmount of a mounted instance releases its footprint, then finishes. -/
theorem exec_unmount_succ (prog : Program) (d : Nat) {c : Cursor} (hm : c.self.phase = .mounted) :
    exec (unmount prog (d + 1)) c = exec (finishUnmount prog d)
      { self := c.self.released, children := c.children,
        scene := { c.scene with host := c.scene.host.release c.self.footprint } } := by
  rw [unmount_succ]
  simp only [exec_bind, exec_ensureMounted hm, exec_self, exec_releaseSubscriptions,
    exec_modifySelf]
  cases hc : c.self.container with
  | none =>
    unfold InstanceState.released Host.release InstanceState.footprint
    simp only [hc, exec_bind, exec_modifySelf]
  | some k =>
    unfold InstanceState.released Host.release InstanceState.footprint
    simp only [hc, exec_bind, exec_modifySelf, exec_removeRoots]

/-- No instance of the tree is mounted. -/
def AllUnmounted (g : Instance) : Prop := ∀ fp ∈ g.outline.footprints, fp.phase ≠ .mounted

/-- A closed tree whose root is not mounted has no mounted instance. -/
theorem allUnmounted_of_closed {g : Instance} (hc : g.outline.Closed)
    (hg : g.state.phase ≠ .mounted) : AllUnmounted g := by
  obtain ⟨s, gs⟩ := g
  intro fp hfp
  simp only [Instance.outline, Outline.footprints, List.mem_cons] at hfp
  rcases hfp with rfl | hfp
  · exact hg
  · exact hc.1 hg fp hfp

/-- What an unmount at depth bound `d` that succeeds does: the instance was mounted and is now
unmounted, the footprints of its subtree were released, and under the recursive policy a closed
subtree is left with no mounted instance. -/
def UnmountReleases (prog : Program) (d : Nat) : Prop :=
  ∀ c c', exec (unmount prog d) c = (.ok (), c') →
    c.self.phase = .mounted ∧ c'.self.phase = .unmounted ∧
    Releases (Instance.node c.self c.children).outline.footprints c.scene.host
      (Instance.node c'.self c'.children).outline.footprints c'.scene.host ∧
    (prog.options.teardown = .recursive → (Instance.node c.self c.children).outline.Closed →
      AllUnmounted (Instance.node c'.self c'.children))

theorem unmountReleases_zero (prog : Program) : UnmountReleases prog 0 := by
  intro c c' hrun
  rw [unmount] at hrun
  cases hrun

/-- What the loop over nested instances keeps, from cursor `c₀` after the indices `pre`: the
instance's own state, a release of the tree's footprints, the nested instances not yet visited,
and, under the recursive policy over closed nested instances, no mounted instance left in those
visited. -/
def ChildrenReleased (prog : Program) (c₀ : Cursor) (pre : List Nat) (c : Cursor) : Prop :=
  c.self = c₀.self ∧
  Releases (Instance.node c₀.self c₀.children).outline.footprints c₀.scene.host
    (Instance.node c.self c.children).outline.footprints c.scene.host ∧
  (∀ k, k ∉ pre → c.children[k]? = c₀.children[k]?) ∧
  (prog.options.teardown = .recursive → Outline.ClosedAll (Instance.outlines c₀.children) →
    ∀ k ∈ pre, ∀ g, c.children[k]? = some g → AllUnmounted g)

/-- The loop over nested instances, each unmounted if mounted, releases their footprints. -/
theorem unmountChildren_releases {prog : Program} {d : Nat} (ih : UnmountReleases prog d)
    (c₀ : Cursor) :
    Triple (ChildrenReleased prog c₀ [])
      (forIn (List.range c₀.children.length).reverse PUnit.unit (unmountStep prog d))
      (fun _ => ChildrenReleased prog c₀ (List.range c₀.children.length).reverse)
      fun _ _ => True := by
  refine Triple.forIn_yield (fun pre _ => ChildrenReleased prog c₀ pre)
    fun pre x post hxs _ c ⟨hself, hrel, hrest, hdone⟩ => ?_
  -- each index is visited once
  have hx : x ∉ pre := by
    have hnd : (List.range c₀.children.length).reverse.Nodup := List.nodup_reverse.mpr List.nodup_range
    rw [hxs] at hnd
    exact fun h => (List.nodup_append.mp hnd).2.2 x h x List.mem_cons_self rfl
  have hxc : c.children[x]? = c₀.children[x]? := hrest x hx
  rw [unmountStep, exec_get_bind]
  by_cases hmnt : ((c.children[x]?).any (·.isMounted)) = true
  · -- a mounted nested instance is unmounted in its place
    obtain ⟨g, hg, hgm⟩ := (Option.any_eq_true _ _).mp hmnt
    rw [if_pos hmnt, exec_bind, exec_onChild_some hg]
    rcases hun : exec (unmount prog d) ⟨g.state, g.children, c.scene⟩ with ⟨r, c₁⟩
    cases r with
    | error _ => trivial
    | ok u =>
      cases u
      obtain ⟨-, -, hrel₁, hclosed₁⟩ := ih _ _ hun
      have hg' : g = Instance.node g.state g.children := by cases g; rfl
      refine ⟨⟨⟩, rfl, hself, hrel.trans (Releases.child hg (hg' ▸ hrel₁)), fun k hk => ?_,
        fun hrec hca k hk g' hg'' => ?_⟩
      · have hkx : x ≠ k := fun h => hk (h ▸ List.mem_append_right _ (List.mem_singleton_self _))
        rw [List.getElem?_set_ne hkx]
        exact hrest k fun h => hk (List.mem_append_left _ h)
      · rcases List.mem_append.mp hk with hk | hk
        · have hkx : x ≠ k := fun h => hx (h ▸ hk)
          rw [List.getElem?_set_ne hkx] at hg''
          exact hdone hrec hca k hk g' hg''
        · rw [List.mem_singleton.mp hk] at hg''
          have hlt : x < c.children.length := (List.getElem?_eq_some_iff.mp hg).1
          rw [List.getElem?_set_self hlt, Option.some.injEq] at hg''
          subst hg''
          -- the nested instance was closed, so its unmount leaves nothing mounted
          have hgc : g.outline.Closed := by
            rw [Outline.closedAll_iff, Instance.outlines_eq_map] at hca
            exact hca _ (List.mem_map_of_mem (List.mem_of_getElem? (hxc ▸ hg)))
          exact hclosed₁ hrec (hg' ▸ hgc)
  · -- any other is left as it is: under the recursive policy it has nothing mounted
    rw [if_neg hmnt]
    refine ⟨⟨⟩, rfl, hself, hrel, fun k hk => hrest k fun h => hk (List.mem_append_left _ h),
      fun hrec hca k hk g hg => ?_⟩
    rcases List.mem_append.mp hk with hk | hk
    · exact hdone hrec hca k hk g hg
    · rw [List.mem_singleton.mp hk] at hg
      have hgc : g.outline.Closed := by
        rw [Outline.closedAll_iff, Instance.outlines_eq_map] at hca
        exact hca _ (List.mem_map_of_mem (List.mem_of_getElem? (hxc ▸ hg)))
      refine allUnmounted_of_closed hgc fun hm => hmnt ?_
      rw [hg]
      simp only [Option.any_some, Instance.isMounted, hm]
      rfl

/-- A tree has no mounted instance when its root is not mounted and neither has any nested one. -/
theorem allUnmounted_node {s : InstanceState} {gs : List Instance} (hs : s.phase ≠ .mounted)
    (hgs : ∀ g ∈ gs, AllUnmounted g) : AllUnmounted (Instance.node s gs) := by
  intro fp hfp
  rw [Instance.footprints_node] at hfp
  rcases List.mem_cons.mp hfp with rfl | hfp
  · exact hs
  · obtain ⟨g, hg, hfp⟩ := List.mem_flatMap.mp hfp
    exact hgs g hg fp hfp

/-- The end of an unmount, from an instance already released: the nested instances' footprints
are released, the instance is marked unmounted, and under the recursive policy nothing of a tree
of closed nested instances stays mounted. -/
theorem finishUnmount_releases {prog : Program} {d : Nat} (ih : UnmountReleases prog d)
    {c c' : Cursor} (hidle : c.self.container = none ∧ c.self.subscriptions = [])
    (hrun : exec (finishUnmount prog d) c = (.ok (), c')) :
    c'.self.phase = .unmounted ∧
    Releases (Instance.node c.self c.children).outline.footprints c.scene.host
      (Instance.node c'.self c'.children).outline.footprints c'.scene.host ∧
    (prog.options.teardown = .recursive → Outline.ClosedAll (Instance.outlines c.children) →
      AllUnmounted (Instance.node c'.self c'.children)) := by
  -- marking the instance unmounted releases nothing more
  have hmark : ∀ c₁ : Cursor, c₁.self = c.self →
      Releases (Instance.node c₁.self c₁.children).outline.footprints c₁.scene.host
        (Instance.node { c₁.self with pending := [], phase := .unmounted } c₁.children).outline.footprints
        c₁.scene.host := by
    intro c₁ hself
    rw [Instance.footprints_node, Instance.footprints_node]
    exact Releases.unmounted_head _ _ (hself ▸ hidle.1) (hself ▸ hidle.2)
  rw [finishUnmount] at hrun
  by_cases hrec : prog.options.teardown = .recursive
  · have hcond : (prog.options.teardown == .recursive) = true := by rw [hrec]; rfl
    simp only [hcond, if_true] at hrun
    rw [exec_get_bind] at hrun
    obtain ⟨_, c₁, hloop, hend⟩ := exec_bind_ok_inv hrun
    obtain ⟨hself, hrel, hrest, hdone⟩ := (unmountChildren_releases ih c).of_ok
      ⟨rfl, .refl _ _, fun _ _ => rfl, fun _ _ _ h => absurd h List.not_mem_nil⟩ hloop
    simp only [exec_modifySelf, Prod.mk.injEq, true_and] at hend
    subst hend
    refine ⟨rfl, hrel.trans (hmark c₁ hself), fun _ hca => allUnmounted_node (by simp) ?_⟩
    -- every nested instance was visited
    intro g hg
    obtain ⟨k, hk⟩ := List.mem_iff_getElem?.mp hg
    by_cases hlt : k < c.children.length
    · exact hdone hrec hca k (List.mem_reverse.mpr (List.mem_range.mpr hlt)) g hk
    · have hnone : c.children[k]? = none := List.getElem?_eq_none (Nat.le_of_not_lt hlt)
      rw [hrest k fun h => hlt (List.mem_range.mp (List.mem_reverse.mp h)), hnone] at hk
      cases hk
  · have hcond : (prog.options.teardown == .recursive) = false := by
      cases h : prog.options.teardown
      · exact absurd h hrec
      · rfl
    simp only [hcond, Bool.false_eq_true, if_false, exec_modifySelf, Prod.mk.injEq,
      true_and] at hrun
    subst hrun
    exact ⟨rfl, hmark c rfl, fun h => absurd h hrec⟩

/-- An instance that is not mounted fails the check. -/
theorem exec_ensureMounted_of_ne {c : Cursor} (h : c.self.phase ≠ .mounted) :
    exec ensureMounted c = (.error (.notMounted c.self.plan.name), c) := by
  have hm : (c.self.phase != .mounted) = true := by
    cases hp : c.self.phase
    · rfl
    · exact absurd hp h
    · rfl
  simp [ensureMounted, exec_bind, hm]

theorem unmountReleases_succ {prog : Program} {d : Nat} (ih : UnmountReleases prog d) :
    UnmountReleases prog (d + 1) := by
  intro c c' hrun
  -- the instance was mounted, or the unmount failed at once
  have hm : c.self.phase = .mounted := by
    by_contra hne
    rw [unmount_succ, exec_bind, exec_ensureMounted_of_ne hne] at hrun
    cases hrun
  rw [exec_unmount_succ prog d hm] at hrun
  obtain ⟨hph, hrel, hclosed⟩ := finishUnmount_releases ih ⟨rfl, rfl⟩ hrun
  refine ⟨hm, hph, ?_, fun hrec hc => hclosed hrec hc.2⟩
  refine Releases.trans ?_ hrel
  rw [Instance.footprints_node, Instance.footprints_node, InstanceState.footprint_released]
  exact Releases.release_head _ _ _

/-- Every unmount that succeeds, at every depth bound, releases the footprints of its subtree,
and under the recursive policy leaves a closed subtree with nothing mounted. -/
theorem unmountReleases (prog : Program) : ∀ d, UnmountReleases prog d
  | 0 => unmountReleases_zero prog
  | d + 1 => unmountReleases_succ (unmountReleases prog d)

end Instance

end Reactive
