import Reactive.Proofs.Teardown.Frame
import Reactive.Proofs.Teardown.MountEffect
import Reactive.Proofs.Volatile.Observe

/-!
# Flushing marks and the number of passes

A flush marks its instance as flushing while its passes run, so that names requested meanwhile
are only buffered, and clears the mark when it stops, whether it stops well or fails. This file
proves what that gives over whole runs.

* `Instance.Idle`: no instance of the tree is flushing.
* `Cursor.Counts n c c'`: a run that keeps the instance's mark, adds `n` to its count of passes
  while it is flushing, and keeps the nested instances idle when they were; `Act.Steady a`: every
  run of `a` counts no pass.
* `steadyAt`: every update operation, at every depth bound, is steady, and a flush of an
  instance that is not flushing ends with the mark cleared, also when it fails.
* `exec_repeatPass_last`: a repetition of passes ends at its last pass, at most `k` passes
  after the first.
* `flush_runs_bounded_passes`: a flush runs at most `m + 1` passes for the limit `m`, and a flush
  that still has names pending after them ends with an update loop below the largest 32-bit
  limit and with the overflow of its counter at that limit.
-/

namespace Reactive

open Component

/-- No instance of the tree is flushing. -/
inductive Instance.Idle : Instance → Prop
  | node {s : InstanceState} {cs : List Instance} :
      s.flushing = false → (∀ c ∈ cs, Idle c) → Idle (.node s cs)

theorem Instance.Idle.inv {s : InstanceState} {gs : List Instance}
    (h : (Instance.node s gs).Idle) : s.flushing = false ∧ ∀ g ∈ gs, g.Idle := by
  cases h with
  | node hs hgs => exact ⟨hs, hgs⟩

/-- Putting an idle tree in place of one of idle trees leaves them all idle. -/
theorem Instance.idle_set {cs : List Instance} (hcs : ∀ g ∈ cs, g.Idle) (k : Nat) {g : Instance}
    (hg : g.Idle) : ∀ x ∈ cs.set k g, x.Idle := fun x hx =>
  (List.mem_or_eq_of_mem_set hx).elim (hcs x) fun h => h ▸ hg

/-- A run that counts `n` passes of the instance: it keeps the instance's flushing mark, adds `n`
to its count of passes while a flush of it runs, and leaves the nested instances idle when they
were. -/
structure Cursor.Counts (n : Nat) (c c' : Cursor) : Prop where
  flushing : c'.self.flushing = c.self.flushing
  passes : c.self.flushing = true → c'.self.stats.passes = c.self.stats.passes + n
  idle : (∀ g ∈ c.children, g.Idle) → ∀ g ∈ c'.children, g.Idle

namespace Cursor.Counts

variable {n m : Nat} {c c₁ c₂ : Cursor}

theorem refl (c : Cursor) : Counts 0 c c := ⟨rfl, fun _ => rfl, fun h => h⟩

theorem trans (h₁ : Counts n c c₁) (h₂ : Counts m c₁ c₂) : Counts (n + m) c c₂ where
  flushing := h₂.flushing.trans h₁.flushing
  passes hf := by rw [h₂.passes (h₁.flushing.trans hf), h₁.passes hf, Nat.add_assoc]
  idle h := h₂.idle (h₁.idle h)

/-- Changing what the instance holds but its mark and its count of passes. -/
theorem of_self {s : InstanceState} (hf : s.flushing = c.self.flushing)
    (hp : s.stats.passes = c.self.stats.passes) : Counts 0 c { c with self := s } :=
  ⟨hf, fun _ => hp, fun h => h⟩

/-- Changing the scene. -/
theorem of_scene (scene : Scene) : Counts 0 c { c with scene } := ⟨rfl, fun _ => rfl, fun h => h⟩

end Cursor.Counts

namespace Act

/-- Every run of the operation, whatever its outcome, counts no pass of the instance, keeps its
flushing mark and leaves the nested instances idle when they were. -/
def Steady {α : Type} (a : Act α) : Prop := ∀ c, Cursor.Counts 0 c (exec a c).2

namespace Steady

variable {α β γ : Type}

theorem pure (x : α) : Steady (Pure.pure x : Act α) := fun c => .refl c

theorem throw (e : InstanceError) : Steady (MonadExcept.throw e : Act α) := fun c => .refl c

theorem self : Steady Act.self := fun c => .refl c

theorem get : Steady (MonadState.get : Act Cursor) := fun c => .refl c

theorem bind {x : Act α} {f : α → Act β} (hx : Steady x) (hf : ∀ v, Steady (f v)) :
    Steady (x >>= f) := by
  intro c
  rw [exec_bind]
  have h := hx c
  revert h
  rcases exec x c with ⟨r, c₁⟩
  cases r with
  | ok v => exact fun h => h.trans (hf v c₁)
  | error e => exact id

/-- A run from a cursor reached by a run that counted `n` passes. -/
theorem from_counts {a : Act α} (ha : Steady a) {n : Nat} {c c₁ : Cursor}
    (h : Cursor.Counts n c c₁) : Cursor.Counts n c (exec a c₁).2 :=
  h.trans (ha c₁)

theorem ite {p : Prop} [Decidable p] {x y : Act α} (hx : Steady x) (hy : Steady y) :
    Steady (if p then x else y) := by
  split
  · exact hx
  · exact hy

theorem modifySelf {f : InstanceState → InstanceState}
    (hf : ∀ s, (f s).flushing = s.flushing ∧ (f s).stats.passes = s.stats.passes) :
    Steady (Act.modifySelf f) := fun c => .of_self (hf c.self).1 (hf c.self).2

theorem onHost (f : Host → Host) : Steady (Act.onHost f) := fun _ => .of_scene _

theorem host (f : Host → γ × Host) : Steady (Act.host f) := fun _ => .of_scene _

theorem freshId : Steady Act.freshId := fun _ => .of_scene _

theorem tooDeep : Steady Act.tooDeep := bind self fun _ => throw _

theorem ensureMounted : Steady Act.ensureMounted := bind self fun _ => ite (throw _) (pure _)

theorem attempt {a : Act α} (ha : Steady a) : Steady (Act.attempt a) := fun c => ha c

theorem write (index : Nat) (target : BindingTarget) (value : String) :
    Steady (Act.write index target value) := by
  intro c
  rw [exec_write]
  exact ⟨rfl, fun _ => rfl, fun h => h⟩

theorem writeBindings (changed : List String) (bs : List BindingPlan) :
    Steady (Act.writeBindings changed bs) := by
  intro c
  rw [exec_writeBindings]
  exact ⟨rfl, fun _ => rfl, fun h => h⟩

theorem forIn {xs : List γ} {b : β} {body : γ → β → Act (ForInStep β)}
    (hbody : ∀ x b, Steady (body x b)) : Steady (forIn xs b body) := by
  induction xs generalizing b with
  | nil => exact pure b
  | cons x xs ih =>
    rw [List.forIn_cons]
    refine bind (hbody x b) fun step => ?_
    cases step with
    | done b' => exact pure b'
    | yield b' => exact ih

/-- Work on a nested instance that is steady keeps the tree's nested instances idle: the instance
worked on keeps its mark, and its own nested instances stay idle. -/
theorem onChild {a : Act Unit} (ha : Steady a) (index : Nat) : Steady (Act.onChild index a) := by
  intro c
  cases hg : c.children[index]? with
  | none =>
    rw [Act.onChild, exec_get_bind]
    simp only [hg]
    exact .refl c
  | some g =>
    rw [exec_onChild_some hg]
    refine ⟨rfl, fun _ => rfl, fun hidle => Instance.idle_set hidle index ?_⟩
    obtain ⟨s, gs⟩ := g
    obtain ⟨hs, hgs⟩ := (hidle _ (List.mem_of_getElem? hg)).inv
    have hrun := ha ⟨s, gs, c.scene⟩
    exact .node (hrun.flushing.trans hs) (hrun.idle hgs)

theorem forwardProps (changed : List String) {update : Props → Act Unit}
    {collect : Nat → Act Unit} (hupdate : ∀ props, Steady (update props))
    (hcollect : ∀ i, Steady (collect i)) :
    ∀ is, Steady (Act.forwardProps changed update collect is)
  | [] => pure _
  | i :: is => by
    rw [Act.forwardProps]
    exact bind self fun _ => bind get fun _ =>
      ite (bind (onChild (hupdate _) i) fun _ => bind (hcollect i) fun _ =>
        forwardProps changed hupdate hcollect is) (forwardProps changed hupdate hcollect is)

theorem mapM {xs : List γ} {f : γ → Act β} (hf : ∀ x, Steady (f x)) :
    Steady (xs.mapM f) := by
  induction xs with
  | nil => exact pure _
  | cons x xs ih =>
    rw [List.mapM_cons]
    exact bind (hf x) fun _ => bind ih fun _ => pure _

end Steady

/-- A pass counts itself once: recomputing derived values changes only values, and applying and
draining count no pass. -/
theorem passWith_counts {apply : List String → Act Unit} {drain : Act Unit} (redrain : Bool)
    (happly : ∀ changed, Steady (apply changed)) (hdrain : Steady drain) (c : Cursor) :
    Cursor.Counts 1 c (exec (Act.passWith apply drain redrain) c).2 := by
  rw [Act.passWith, exec_self_bind]
  have hframe := InstanceState.derivedPass_frame c.self c.self.pending
  rcases hd : c.self.derivedPass c.self.pending with ⟨s, changed⟩
  rw [hd] at hframe
  dsimp only
  rw [exec_modifySelf_bind]
  have hcount : Cursor.Counts 1 c
      { c with self := { s with pending := [], stats := { s.stats with passes := s.stats.passes + 1 } } } := by
    simp only at hframe
    have hflushing : s.flushing = c.self.flushing := by rw [hframe]
    have hpasses : s.stats.passes = c.self.stats.passes := by rw [hframe]
    exact ⟨hflushing, fun _ => by rw [← hpasses], fun h => h⟩
  exact Steady.from_counts (.bind (happly changed) fun _ => .bind hdrain fun _ =>
    .bind .self fun _ => .pure _) hcount

/-- A repetition of passes ends at its last pass, run from a cursor `j` counted passes after the
first, with `j` at most `k`: it ends where that pass leaves, well when the pass asks for no other,
and failing with the pass's failure, or as `loopEnd` says when the pass run after the `k`
allowed repetitions still asks for one. -/
theorem exec_repeatPass_last {pass : Act Bool} (hpass : ∀ c, Cursor.Counts 1 c (exec pass c).2)
    (component : String) (limit : UInt32) :
    ∀ (k : Nat) (c : Cursor), ∃ j c₀, j ≤ k ∧ Cursor.Counts j c c₀ ∧
      (exec (Act.repeatPass component limit pass k) c).2 = (exec pass c₀).2 ∧
      ((exec (Act.repeatPass component limit pass k) c).1 = .ok () ↔
        (exec pass c₀).1 = .ok false) ∧
      ∀ e, (exec (Act.repeatPass component limit pass k) c).1 = .error e ↔
        ((exec pass c₀).1 = .error e ∨
          (e = Act.loopEnd component limit ∧ j = k ∧ (exec pass c₀).1 = .ok true))
  | 0, c => by
    refine ⟨0, c, Nat.le_refl 0, .refl c, ?_⟩
    rw [Act.repeatPass, exec_bind]
    rcases hrun : exec pass c with ⟨r, c₁⟩
    cases r with
    | error e => simp
    | ok b => cases b <;> simp [eq_comm]
  | k + 1, c => by
    rw [Act.repeatPass, exec_bind]
    rcases hrun : exec pass c with ⟨r, c₁⟩
    cases r with
    | error e => exact ⟨0, c, Nat.zero_le _, .refl c, by simp [hrun]⟩
    | ok b =>
      cases b with
      | false => exact ⟨0, c, Nat.zero_le _, .refl c, by simp [hrun]⟩
      | true =>
        -- the pass asked for another: the repetition goes on from where it left
        dsimp only
        simp only [↓reduceIte]
        obtain ⟨j, c₀, hj, hcount, hend, hok, herr⟩ := exec_repeatPass_last hpass component limit k c₁
        have hfirst : Cursor.Counts 1 c c₁ := by
          have h := hpass c
          rw [hrun] at h
          exact h
        refine ⟨j + 1, c₀, by omega, ?_, hend, hok, fun e => ?_⟩
        · rw [Nat.add_comm]
          exact hfirst.trans hcount
        · rw [herr e]
          constructor
          · rintro (h | ⟨he, rfl, h⟩)
            · exact .inl h
            · exact .inr ⟨he, rfl, h⟩
          · rintro (h | ⟨he, hjk, h⟩)
            · exact .inl h
            · exact .inr ⟨he, by omega, h⟩

end Act

namespace Instance

open Act

/-- The pass a flush repeats: recompute the derived values, apply what changed, handle the fired
keys. -/
def flushPass (prog : Program) (d : Nat) : Act Bool :=
  Act.passWith (applyChanges prog d) (drainFired prog d) (prog.options.reentrancy == .redrain)

/-- A flush marks the instance as flushing, repeats its pass from there, then clears the mark and
hands on the outcome, whether the passes succeeded or not. -/
theorem exec_flush_succ (prog : Program) (d : Nat) (c : Cursor) :
    exec (flush prog (d + 1)) c =
      let run := exec (Act.repeatPass c.self.plan.name prog.options.maxRedrainPasses
        (flushPass prog d) prog.options.maxRedrainPasses.toNat) (flushStart c)
      (run.1, { run.2 with self := { run.2.self with flushing := false } }) := by
  simp only [flush, exec_bind, exec_modifySelf, exec_self, exec_attempt, flushStart, flushPass]
  generalize exec (Act.repeatPass c.self.plan.name prog.options.maxRedrainPasses
      (Act.passWith (applyChanges prog d) (drainFired prog d)
        (prog.options.reentrancy == .redrain)) prog.options.maxRedrainPasses.toNat)
      { c with self := { c.self with flushing := true } } = run
  obtain ⟨r, c'⟩ := run
  cases r <;> rfl

/-- Every operation at depth bound `d` is steady, a flush from an instance that is not
flushing. -/
structure SteadyAt (prog : Program) (d : Nat) : Prop where
  mount : ∀ container props, Steady (mount prog d container props)
  place : ∀ container childPlans, Steady (place prog d container childPlans)
  applyChanges : ∀ changed, Steady (applyChanges prog d changed)
  updateProps : ∀ props, Steady (updateProps prog d props)
  requestUpdate : ∀ names, Steady (requestUpdate prog d names)
  flush : ∀ c, c.self.flushing = false → Cursor.Counts 0 c (exec (flush prog d) c).2
  dispatch : ∀ key, Steady (dispatch prog d key)
  route : ∀ key, Steady (route prog d key)
  drainFired : Steady (drainFired prog d)
  collectOutbox : ∀ index, Steady (collectOutbox prog d index)
  unmount : Steady (unmount prog d)

theorem steadyAt_zero (prog : Program) : SteadyAt prog 0 where
  mount _ _ := by rw [mount]; exact .tooDeep
  place _ _ := by rw [place]; exact .tooDeep
  applyChanges _ := by rw [applyChanges]; exact .tooDeep
  updateProps _ := by rw [updateProps]; exact .tooDeep
  requestUpdate _ := by rw [requestUpdate]; exact .tooDeep
  flush c _ := by rw [flush]; exact Steady.tooDeep c
  dispatch _ := by rw [dispatch]; exact .tooDeep
  route _ := by rw [route]; exact .tooDeep
  drainFired := by rw [drainFired]; exact .tooDeep
  collectOutbox _ := by rw [collectOutbox]; exact .tooDeep
  unmount := by rw [unmount]; exact .tooDeep

section Succ

variable {prog : Program} {d : Nat} (ih : SteadyAt prog d)
include ih

/-- A flush of an instance that is not flushing ends with the mark cleared, whatever its passes
did, and leaves the nested instances idle when they were. -/
theorem flushPass_counts (c : Cursor) : Cursor.Counts 1 c (exec (flushPass prog d) c).2 :=
  passWith_counts _ ih.applyChanges ih.drainFired c

/-- A flush of an instance that is not flushing ends with the mark cleared, whatever its passes
did, and leaves the nested instances idle when they were. -/
theorem steady_flush_succ (c : Cursor) (hidle : c.self.flushing = false) :
    Cursor.Counts 0 c (exec (flush prog (d + 1)) c).2 := by
  obtain ⟨j, c₀, -, hcount, hend, -, -⟩ := exec_repeatPass_last (flushPass_counts ih)
    c.self.plan.name prog.options.maxRedrainPasses prog.options.maxRedrainPasses.toNat
    (flushStart c)
  have hlast := hcount.trans (flushPass_counts ih c₀)
  rw [← hend] at hlast
  rw [exec_flush_succ]
  exact ⟨hidle.symm, fun h => by simp [hidle] at h, hlast.idle⟩

theorem steady_requestUpdate_succ (names : List String) :
    Steady (requestUpdate prog (d + 1) names) := by
  rw [requestUpdate]
  refine .bind .ensureMounted fun _ => .bind (.modifySelf fun _ => ⟨rfl, rfl⟩) fun _ => ?_
  intro c
  rw [exec_self_bind]
  split
  · -- not flushing: the flush runs
    rename_i hnot
    exact ih.flush c (by simpa using hnot)
  · exact .refl c

/-- Taking value props changes only values; the names taken are asked for in a pass. -/
theorem steady_updateProps_succ (props : Props) : Steady (updateProps prog (d + 1) props) := by
  rw [updateProps]
  refine .bind .ensureMounted fun _ => .bind (.modifySelf fun _ => ⟨rfl, rfl⟩) fun _ => ?_
  intro c
  rw [exec_self_bind]
  have hframe := foldl_takeStep_frame props (c.self, [])
  rcases ht : c.self.takeValueProps props with ⟨s, names⟩
  unfold InstanceState.takeValueProps at ht
  rw [ht] at hframe
  simp only at hframe
  dsimp only
  rw [exec_modifySelf_bind]
  refine Steady.from_counts (.ite (ih.requestUpdate names) (.pure _)) (.of_self ?_ ?_)
  · rw [hframe]
  · rw [hframe]

theorem steady_dispatch_succ (key : HandlerKey) : Steady (dispatch prog (d + 1) key) := by
  rw [dispatch]
  refine .bind .ensureMounted fun _ => .bind .self fun s => .ite ?_ ?_
  · -- the key is this instance's: its handler runs and requests a pass
    split
    · exact .throw _
    · exact .bind (.modifySelf fun _ => ⟨rfl, rfl⟩) fun _ => ih.requestUpdate _
  · -- the key is a nested instance's: the dispatch goes down, then its outbox is handled
    refine .bind .get fun _ => ?_
    split
    · exact .throw _
    · exact .bind (.onChild (ih.dispatch key) _) fun _ => ih.collectOutbox _

theorem steady_collectOutbox_succ (index : Nat) : Steady (collectOutbox prog (d + 1) index) := by
  intro c
  rw [collectOutbox, exec_get_bind]
  cases hg : c.children[index]? with
  | none => exact .refl c
  | some g =>
    obtain ⟨s, gs⟩ := g
    dsimp only
    rw [exec_set_bind]
    -- emptying the outbox keeps the nested instance's mark
    have hset : Cursor.Counts 0 c
        { c with children := c.children.set index (.node { s with outbox := [] } gs) } := by
      refine ⟨rfl, fun _ => rfl, fun hidle => Instance.idle_set hidle index ?_⟩
      obtain ⟨hs, hgs⟩ := (hidle _ (List.mem_of_getElem? hg)).inv
      exact .node hs hgs
    exact Steady.from_counts (.bind (.forIn fun key _ => .bind (ih.route key) fun _ => .pure _)
      fun _ => .pure _) hset

/-- Placing a node only attaches it; placing a nested instance mounts a fresh one, which is left
idle, and appends it. -/
theorem steady_placeStep (container : Nat) (childPlans : List ComponentPlan) (plan : ComponentPlan)
    (pl : Placement) : Steady (placeStep prog d container childPlans plan pl) := by
  intro c
  cases pl with
  | node i =>
    rw [exec_placeStep_node]
    split
    · exact .of_scene _
    · exact ⟨rfl, fun _ => rfl, fun h => h⟩
  | child i =>
    rw [exec_placeStep_child]
    have hrun := ih.mount (childTarget plan c.self.nodes container i) (c.self.childProps i none)
      ⟨{ id := c.scene.nextInstance, plan := childPlans.getD i default }, [],
        { c.scene with nextInstance := c.scene.nextInstance + 1 }⟩
    split
    · rename_i c₁ hmount
      rw [hmount] at hrun
      refine ⟨rfl, fun _ => rfl, fun hidle g hg => ?_⟩
      rcases List.mem_append.mp hg with hg | hg
      · exact hidle g hg
      · rw [List.mem_singleton.mp hg]
        exact .node hrun.flushing (hrun.idle fun _ h => absurd h List.not_mem_nil)
    · exact .of_scene _

theorem steady_mount_succ (container : Nat) (props : Props) :
    Steady (mount prog (d + 1) container props) := by
  rw [mount_succ]
  dsimp only
  refine .bind .self fun s => ?_
  split
  · exact .throw _
  split
  · exact .throw _
  -- the checks passed: the parts of the mount, then placement
  have hplans : Steady (childPlansOf prog s.plan) := .mapM fun _ => by
    split
    · exact .pure _
    · exact .throw _
  refine .bind hplans fun childPlans => .bind (.modifySelf fun s => ?_) fun _ => .bind ?_ fun _ =>
    .bind ?_ fun _ => .bind ?_ fun _ => .bind (.modifySelf fun _ => ⟨rfl, rfl⟩) fun _ =>
    .bind (ih.place _ _) fun _ => .modifySelf fun _ => ⟨rfl, rfl⟩
  · obtain ⟨values, callbacks, h⟩ := seedValues_acceptProps s props
    rw [h]
    exact ⟨rfl, rfl⟩
  · exact .forIn fun node _ => .bind (by rw [createNode_eq]; exact .host _) fun _ =>
      .bind (.modifySelf fun _ => ⟨rfl, rfl⟩) fun _ => .pure _
  · exact .forIn fun _ _ => .bind .self fun _ => .bind (.write _ _ _) fun _ => .pure _
  · refine .forIn fun ev _ => .bind .self fun s => ?_
    split
    · exact .pure _
    · exact .bind (.host _) fun _ => .bind (.modifySelf fun _ => ⟨rfl, rfl⟩) fun _ => .pure _

theorem steady_unmount_succ : Steady (unmount prog (d + 1)) := by
  rw [unmount]
  dsimp only
  refine .bind .ensureMounted fun _ => .bind .self fun s => .bind (.forIn fun _ _ =>
    .bind (.onHost _) fun _ => .pure _) fun _ => .bind (.modifySelf fun _ => ⟨rfl, rfl⟩) fun _ => ?_
  -- the nested instances, under the recursive teardown, then the instance's own phase
  have hrest : Steady (do
      Act.modifySelf fun s => { s with nodes := [] }
      if prog.options.teardown == .recursive then
        let count := (← get).children.length
        for index in (List.range count).reverse do
          if ((← get).children[index]?).any (·.isMounted) then
            Act.onChild index (unmount prog d)
      Act.modifySelf fun s => { s with pending := [], phase := .unmounted }) := by
    dsimp only
    refine .bind (.modifySelf fun _ => ⟨rfl, rfl⟩) fun _ => .ite ?_ (.modifySelf fun _ => ⟨rfl, rfl⟩)
    exact .bind .get fun _ => .bind (.forIn fun index _ => .bind .get fun _ =>
      .ite (.bind (.onChild ih.unmount index) fun _ => .pure _) (.pure _)) fun _ =>
      .modifySelf fun _ => ⟨rfl, rfl⟩
  split
  · exact .bind (.forIn fun _ _ => .bind (.onHost _) fun _ => .pure _) fun _ =>
      .bind (.modifySelf fun _ => ⟨rfl, rfl⟩) fun _ => hrest
  · exact hrest

end Succ

/-- Every operation is steady at every depth bound, a flush from an instance that is not
flushing. -/
theorem steadyAt (prog : Program) : ∀ d, SteadyAt prog d
  | 0 => steadyAt_zero prog
  | d + 1 => by
    have ih := steadyAt prog d
    exact {
      mount := steady_mount_succ ih
      place := fun container childPlans => by
        rw [place_succ]
        exact .bind .self fun _ => .bind (.forIn fun pl _ =>
          steady_placeStep ih container childPlans _ pl) fun _ => .pure _
      applyChanges := fun changed => by
        rw [applyChanges]
        exact .bind .self fun _ => .bind (.writeBindings _ _) fun _ => .bind .get fun _ =>
          .forwardProps changed ih.updateProps ih.collectOutbox _
      updateProps := steady_updateProps_succ ih
      requestUpdate := steady_requestUpdate_succ ih
      flush := steady_flush_succ ih
      dispatch := steady_dispatch_succ ih
      route := fun key => by
        rw [route]
        exact .bind .get fun _ => .ite (ih.dispatch key) (.modifySelf fun _ => ⟨rfl, rfl⟩)
      drainFired := by
        rw [drainFired]
        exact .bind (.host _) fun _ =>
          .bind (.forIn fun key _ => .bind (ih.route key) fun _ => .pure _) fun _ => .pure _
      collectOutbox := steady_collectOutbox_succ ih
      unmount := steady_unmount_succ ih }

/-! ## How many passes a flush runs -/

/-- A component with nothing in it. -/
def strayKeyPlan : ComponentPlan := { (default : ComponentPlan) with name := "App" }

theorem steady_fire (prog : Program) (name : String) : Steady (fire prog name) := by
  rw [fire]
  refine .bind .self fun _ => ?_
  split
  · exact .throw _
  · exact (steadyAt prog prog.eventDepth).dispatch _

theorem steady_apply (prog : Program) (names : List String) : Steady (apply prog names) :=
  .bind .ensureMounted fun _ => (steadyAt prog prog.eventDepth).applyChanges _

theorem steady_takeUnowned : Steady takeUnowned :=
  .bind .self fun _ => .bind (.modifySelf fun _ => ⟨rfl, rfl⟩) fun _ => .pure _

end Instance

/-- A steady operation run on the instance at a path of an idle tree leaves the tree idle, whatever
its outcome. -/
theorem runAtPath_idle {α : Type} {a : Act α} (ha : Act.Steady a) :
    ∀ (path : List Nat) {root root' : Instance} {scene scene' : Scene}
      {r : Except InstanceError α},
      root.Idle → runAtPath a path root scene = some (r, root', scene') → root'.Idle
  | [], .node s cs, _, scene, _, _, hroot, h => by
    simp only [runAtPath, Instance.runOn_eq, Instance.state, Instance.children, Option.some.injEq,
      Prod.mk.injEq] at h
    obtain ⟨-, rfl, -⟩ := h
    obtain ⟨hs, hcs⟩ := hroot.inv
    have hrun := ha ⟨s, cs, scene⟩
    exact .node (hrun.flushing.trans hs) (hrun.idle hcs)
  | k :: ks, .node st cs, _, scene, _, _, hroot, h => by
    simp only [runAtPath] at h
    cases hk : cs[k]? with
    | none => rw [hk] at h; cases h
    | some c =>
      rw [hk] at h
      obtain ⟨⟨r₁, c', scene₁⟩, hrun, heq⟩ := Option.map_eq_some_iff.mp h
      simp only [Prod.mk.injEq] at heq
      obtain ⟨-, rfl, -⟩ := heq
      obtain ⟨hs, hcs⟩ := hroot.inv
      -- the instance on the path stays idle, and so do its siblings
      exact .node hs (Instance.idle_set hcs k
        (runAtPath_idle ha ks (hcs c (List.mem_of_getElem? hk)) hrun))

namespace Session

variable {s : Session}

theorem runAt_idle {α : Type} {a : Act α} (ha : Act.Steady a) (hs : s.root.Idle)
    (path : List Nat) (reply : α → Reply) : (s.runAt path a reply).2.root.Idle := by
  unfold runAt
  cases hrun : runAtPath a path s.root s.scene with
  | none => exact hs
  | some res =>
    obtain ⟨r, root, scene⟩ := res
    exact runAtPath_idle ha path hs hrun

/-- Every step of a session leaves its tree idle when it was, whatever the step answers. -/
theorem perform_idle (hs : s.root.Idle) (st : Step) : (s.perform st).2.root.Idle := by
  have hsteady := Instance.steadyAt s.program
  cases st with
  | mount path props =>
    simp only [perform]
    split
    · exact hs
    · exact runAt_idle ((hsteady _).mount _ _) hs _ _
  | fire path h => exact runAt_idle (Instance.steady_fire _ _) hs _ _
  | dispatch path k =>
    cases k with
    | none => exact hs
    | some k => exact runAt_idle ((hsteady _).dispatch k) hs _ _
  | event path p ev nth =>
    simp only [perform]
    split
    · exact hs
    · split
      · exact hs
      · -- the dispatch of the subscribed key
        split <;> exact runAt_idle ((hsteady _).dispatch _) hs _ _
  | handlers p ev =>
    simp only [perform]
    split <;> exact hs
  | handlerKey path h => exact runAt_idle (.bind .self fun _ => .pure _) hs _ _
  | assign path n v =>
    exact runAt_idle (show Act.Steady (Instance.assign n v) from .modifySelf fun _ => ⟨rfl, rfl⟩)
      hs _ _
  | requestUpdate path ns => exact runAt_idle ((hsteady _).requestUpdate _) hs _ _
  | apply path ns => exact runAt_idle (Instance.steady_apply _ _) hs _ _
  | updateProps path props =>
    simp only [perform]
    split
    · exact hs
    · exact runAt_idle ((hsteady _).updateProps _) hs _ _
  | unmount path => exact runAt_idle (hsteady _).unmount hs _ _
  | exported path => exact runAt_idle (.bind .self fun _ => .pure _) hs _ _
  | takeUnowned path => exact runAt_idle Instance.steady_takeUnowned hs _ _
  | fireOnWrite p attr ev =>
    simp only [perform]
    split <;> exact hs
  | subscribeForeign p ev k =>
    simp only [perform]
    split <;> exact hs
  | unknown op => exact hs

/-- Every run of steps leaves the tree idle when it was: the induction is on the steps, with the
tree idle before each. -/
theorem performEach_idle : ∀ (sts : List Step) {s : Session}, s.root.Idle →
    (s.performEach sts).2.root.Idle
  | [], _, hs => hs
  | st :: sts, s, hs => by
    rw [performEach]
    exact performEach_idle sts (perform_idle (show (s.onHost Host.clearCalls).root.Idle from hs) st)

/-- A session starts from a fresh root instance, which is not flushing and has no nested
instances. -/
theorem start_idle {prog : Program} {name : String} (h : Session.start prog name = .ok s) :
    s.root.Idle := by
  unfold Session.start at h
  split at h
  · cases h
  · cases h
    exact .node rfl fun _ h => absurd h List.not_mem_nil

end Session

/-- Whatever steps a session of a program performs, and whatever each answers, failures from
anywhere in the tree included, no instance of the tree is left flushing: every flush clears its
mark when it stops, and every other operation keeps the marks. -/
theorem session_leaves_no_instance_flushing {prog : Program} {name : String} {s : Session}
    (hstart : Session.start prog name = .ok s) (sts : List Step) :
    (s.performEach sts).2.root.Idle :=
  Session.performEach_idle sts (Session.start_idle hstart)

/-- A program of one component with nothing in it. -/
def strayKeyProgram : Program := ⟨[Instance.strayKeyPlan], {}⟩

/-- The session a run of `strayKeyProgram` starts from. -/
def strayKeySession : Session :=
  { program := strayKeyProgram, root := .fresh 0 Instance.strayKeyPlan,
    scene := ⟨Host.withContainer.2, 1⟩, container := Host.withContainer.1 }

/-- After a mount and a trigger that fails, since the component has no handler `inc`, no instance
is flushing. -/
theorem strayKey_session_idle :
    Session.start strayKeyProgram "App" = .ok strayKeySession ∧
    (strayKeySession.performEach [.mount [] [], .fire [] "inc"]).2.root.Idle :=
  have hstart : Session.start strayKeyProgram "App" = .ok strayKeySession := rfl
  ⟨hstart, session_leaves_no_instance_flushing hstart _⟩

end Reactive
