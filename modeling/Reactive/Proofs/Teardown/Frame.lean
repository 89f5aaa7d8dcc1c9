import Reactive.Proofs.Teardown.HostEffect

/-!
# Updates keep the outline of the instance tree

Dispatching a key, requesting an update, taking props and the passes these run change values,
pending names, outboxes and counters, and write to host nodes; they mount and unmount nothing.
`Cursor.Keeps c c'` says so of a run from `c` to `c'`: the outline of the tree is the same and the
host took only writes. `Act.KeepsOutline a` says it of every run of `a`, failed or not.

The rules below carry `KeepsOutline` through the monad and the runtime's building blocks (loops,
work on a nested instance, passes, forwarding props). `keepsAt` then proves it of every update
operation at every depth bound, by induction on the bound with one case per operation, and
`runAtPath_keeps` of their runs on a nested instance of a session.
-/

namespace Reactive

open Component

/-- A run that keeps the outline of the tree and only writes to the host. -/
structure Cursor.Keeps (c c' : Cursor) : Prop where
  footprint : c'.self.footprint = c.self.footprint
  outlines : Instance.outlines c'.children = Instance.outlines c.children
  host : c.scene.host.OnlyWrites c'.scene.host

namespace Cursor.Keeps

variable {c c₁ c₂ : Cursor}

theorem refl (c : Cursor) : Keeps c c := ⟨rfl, rfl, .refl _⟩

theorem trans (h₁ : Keeps c c₁) (h₂ : Keeps c₁ c₂) : Keeps c c₂ :=
  ⟨h₂.footprint.trans h₁.footprint, h₂.outlines.trans h₁.outlines, h₁.host.trans h₂.host⟩

theorem outline (h : Keeps c c₁) :
    (Instance.node c₁.self c₁.children).outline = (Instance.node c.self c.children).outline := by
  simp only [Instance.outline, h.footprint, h.outlines]

/-- Changing what the instance holds but its footprint. -/
theorem of_self {s : InstanceState} (hs : s.footprint = c.self.footprint) :
    Keeps c { c with self := s } := ⟨hs, rfl, .refl _⟩

/-- Changing the host by writes only. -/
theorem of_host {h : Host} (hh : c.scene.host.OnlyWrites h) :
    Keeps c { c with scene := { c.scene with host := h } } := ⟨rfl, rfl, hh⟩

end Cursor.Keeps

/-- Putting in place of a nested instance one of the same outline keeps the outlines. -/
theorem Instance.outlines_set {cs : List Instance} {k : Nat} {g g' : Instance}
    (hk : cs[k]? = some g) (hg : g'.outline = g.outline) :
    Instance.outlines (cs.set k g') = Instance.outlines cs := by
  have hmap : (cs.map Instance.outline)[k]? = some g.outline := by simp [hk]
  rw [Instance.outlines_eq_map, Instance.outlines_eq_map, List.map_set, hg,
    set_self_of_getElem? hmap]

namespace Act

section
variable {α β : Type} (c : Cursor)

theorem exec_self_bind (f : InstanceState → Act β) : exec (Act.self >>= f) c = exec (f c.self) c :=
  rfl

theorem exec_get_bind (f : Cursor → Act β) :
    exec ((get : Act Cursor) >>= f) c = exec (f c) c := rfl

theorem exec_set_bind (c' : Cursor) (f : PUnit → Act β) :
    exec ((set c' : Act PUnit) >>= f) c = exec (f ⟨⟩) c' := rfl

theorem exec_modifySelf_bind (g : InstanceState → InstanceState) (f : Unit → Act β) :
    exec (Act.modifySelf g >>= f) c = exec (f ()) { c with self := g c.self } := rfl

end

/-- Work on nested instance `index`: the instance there is replaced by what the work leaves,
whether it succeeds or fails, and the scene is the one it leaves. -/
theorem exec_onChild_some {index : Nat} {a : Act Unit} {c : Cursor} {g : Instance}
    (hg : c.children[index]? = some g) :
    exec (onChild index a) c =
      ((exec a ⟨g.state, g.children, c.scene⟩).1,
        { c with children := c.children.set index
                   (.node (exec a ⟨g.state, g.children, c.scene⟩).2.self
                     (exec a ⟨g.state, g.children, c.scene⟩).2.children),
                 scene := (exec a ⟨g.state, g.children, c.scene⟩).2.scene }) := by
  rw [onChild, exec_get_bind]
  simp only [hg]
  rw [Instance.runOn_eq]
  dsimp only
  rw [exec_set_bind]
  generalize (exec a ⟨g.state, g.children, c.scene⟩).1 = r
  cases r <;> rfl

/-- Every run of the operation, whatever its outcome, keeps the outline of the tree and only
writes to the host. -/
def KeepsOutline {α : Type} (a : Act α) : Prop := ∀ c, Cursor.Keeps c (exec a c).2

namespace KeepsOutline

variable {α β γ : Type}

theorem pure (x : α) : KeepsOutline (Pure.pure x : Act α) := fun c => .refl c

theorem throw (e : InstanceError) : KeepsOutline (MonadExcept.throw e : Act α) := fun c => .refl c

theorem self : KeepsOutline Act.self := fun c => .refl c

theorem get : KeepsOutline (MonadState.get : Act Cursor) := fun c => .refl c

theorem bind {x : Act α} {f : α → Act β} (hx : KeepsOutline x) (hf : ∀ v, KeepsOutline (f v)) :
    KeepsOutline (x >>= f) := by
  intro c
  rw [exec_bind]
  have h := hx c
  revert h
  rcases exec x c with ⟨r, c₁⟩
  cases r with
  | ok v => exact fun h => h.trans (hf v c₁)
  | error e => exact id

/-- A run from a cursor reached by a run that kept the outline. -/
theorem from_keeps {a : Act α} (ha : KeepsOutline a) {c c₁ : Cursor} (h : Cursor.Keeps c c₁) :
    Cursor.Keeps c (exec a c₁).2 :=
  h.trans (ha c₁)

theorem ite {p : Prop} [Decidable p] {x y : Act α} (hx : KeepsOutline x) (hy : KeepsOutline y) :
    KeepsOutline (if p then x else y) := by
  split
  · exact hx
  · exact hy

theorem modifySelf {f : InstanceState → InstanceState} (hf : ∀ s, (f s).footprint = s.footprint) :
    KeepsOutline (Act.modifySelf f) := fun c => .of_self (hf c.self)

theorem onHost {f : Host → Host} (hf : ∀ h : Host, h.OnlyWrites (f h)) : KeepsOutline (Act.onHost f) :=
  fun c => .of_host (hf c.scene.host)

theorem host {f : Host → γ × Host} (hf : ∀ h : Host, h.OnlyWrites (f h).2) : KeepsOutline (Act.host f) :=
  fun c => .of_host (hf c.scene.host)

theorem tooDeep : KeepsOutline Act.tooDeep := bind self fun _ => throw _

theorem ensureMounted : KeepsOutline Act.ensureMounted := bind self fun _ => ite (throw _) (pure _)

theorem attempt {a : Act α} (ha : KeepsOutline a) : KeepsOutline (Act.attempt a) := fun c => ha c

theorem write (index : Nat) (target : BindingTarget) (value : String) :
    KeepsOutline (Act.write index target value) := by
  intro c
  rw [exec_write]
  exact ⟨rfl, rfl, .hostWrite _ _ _ _⟩

theorem writeBindings (changed : List String) (bs : List BindingPlan) :
    KeepsOutline (Act.writeBindings changed bs) := by
  intro c
  rw [exec_writeBindings]
  exact ⟨rfl, rfl, .writeAll _ _ _⟩

theorem forIn {xs : List γ} {b : β} {body : γ → β → Act (ForInStep β)}
    (hbody : ∀ x b, KeepsOutline (body x b)) : KeepsOutline (forIn xs b body) := by
  induction xs generalizing b with
  | nil => exact pure b
  | cons x xs ih =>
    rw [List.forIn_cons]
    refine bind (hbody x b) fun step => ?_
    cases step with
    | done b' => exact pure b'
    | yield b' => exact ih

/-- Work on a nested instance that keeps its outline keeps the tree's. -/
theorem onChild {a : Act Unit} (ha : KeepsOutline a) (index : Nat) :
    KeepsOutline (Act.onChild index a) := by
  intro c
  cases hg : c.children[index]? with
  | none =>
    rw [Act.onChild, exec_get_bind]
    simp only [hg]
    exact .refl c
  | some g =>
    rw [exec_onChild_some hg]
    have hrun := ha ⟨g.state, g.children, c.scene⟩
    have hout : (Instance.node (exec a ⟨g.state, g.children, c.scene⟩).2.self
        (exec a ⟨g.state, g.children, c.scene⟩).2.children).outline = g.outline := by
      rw [hrun.outline]
      cases g
      rfl
    exact ⟨rfl, Instance.outlines_set hg hout, hrun.host⟩

theorem repeatPass {pass : Act Bool} (hpass : KeepsOutline pass) (component : String) (limit : UInt32) :
    ∀ k, KeepsOutline (Act.repeatPass component limit pass k)
  | 0 => bind hpass fun _ => ite (throw _) (pure _)
  | k + 1 => bind hpass fun _ => ite (repeatPass hpass component limit k) (pure _)

/-- A pass keeps the outline when applying and draining do: recomputing derived values changes
only values. -/
theorem passWith {apply : List String → Act Unit} {drain : Act Unit} (redrain : Bool)
    (happly : ∀ changed, KeepsOutline (apply changed)) (hdrain : KeepsOutline drain) :
    KeepsOutline (Act.passWith apply drain redrain) := by
  intro c
  rw [Act.passWith, exec_self_bind]
  have hframe := InstanceState.derivedPass_frame c.self c.self.pending
  rcases hd : c.self.derivedPass c.self.pending with ⟨s, changed⟩
  rw [hd] at hframe
  dsimp only
  rw [exec_modifySelf_bind]
  refine from_keeps (bind (happly changed) fun _ => bind hdrain fun _ => bind self fun _ => pure _)
    (.of_self ?_)
  simp only at hframe
  show Footprint.mk s.phase s.container s.roots s.subscriptions = c.self.footprint
  rw [hframe]
  rfl

/-- Forwarding props keeps the outline when each update and each handling of an outbox does. -/
theorem forwardProps (changed : List String) {update : Props → Act Unit}
    {collect : Nat → Act Unit} (hupdate : ∀ props, KeepsOutline (update props))
    (hcollect : ∀ i, KeepsOutline (collect i)) :
    ∀ is, KeepsOutline (Act.forwardProps changed update collect is)
  | [] => pure _
  | i :: is => by
    rw [Act.forwardProps]
    exact bind self fun _ => bind get fun _ =>
      ite (bind (onChild (hupdate _) i) fun _ => bind (hcollect i) fun _ =>
        forwardProps changed hupdate hcollect is) (forwardProps changed hupdate hcollect is)

end KeepsOutline

end Act

namespace Instance

open Act

/-- Every update operation at depth bound `d` keeps the outline of the tree and only writes. -/
structure KeepsAt (prog : Program) (d : Nat) : Prop where
  applyChanges : ∀ changed, KeepsOutline (applyChanges prog d changed)
  updateProps : ∀ props, KeepsOutline (updateProps prog d props)
  requestUpdate : ∀ names, KeepsOutline (requestUpdate prog d names)
  flush : KeepsOutline (flush prog d)
  dispatch : ∀ key, KeepsOutline (dispatch prog d key)
  route : ∀ key, KeepsOutline (route prog d key)
  drainFired : KeepsOutline (drainFired prog d)
  collectOutbox : ∀ index, KeepsOutline (collectOutbox prog d index)

theorem keepsAt_zero (prog : Program) : KeepsAt prog 0 where
  applyChanges _ := by rw [applyChanges]; exact .tooDeep
  updateProps _ := by rw [updateProps]; exact .tooDeep
  requestUpdate _ := by rw [requestUpdate]; exact .tooDeep
  flush := by rw [flush]; exact .tooDeep
  dispatch _ := by rw [dispatch]; exact .tooDeep
  route _ := by rw [route]; exact .tooDeep
  drainFired := by rw [drainFired]; exact .tooDeep
  collectOutbox _ := by rw [collectOutbox]; exact .tooDeep

/-- Taking value props changes only values; the names taken are asked for in a pass. -/
theorem keeps_updateProps_succ {prog : Program} {d : Nat} (ih : KeepsAt prog d) (props : Props) :
    KeepsOutline (updateProps prog (d + 1) props) := by
  rw [updateProps]
  refine .bind .ensureMounted fun _ => .bind (.modifySelf fun _ => rfl) fun _ => ?_
  intro c
  rw [exec_self_bind]
  have hframe := foldl_takeStep_frame props (c.self, [])
  rcases ht : c.self.takeValueProps props with ⟨s, names⟩
  unfold InstanceState.takeValueProps at ht
  rw [ht] at hframe
  dsimp only
  rw [exec_modifySelf_bind]
  refine KeepsOutline.from_keeps (.ite (ih.requestUpdate names) (.pure _)) (.of_self ?_)
  simp only at hframe
  show Footprint.mk s.phase s.container s.roots s.subscriptions = c.self.footprint
  rw [hframe]
  rfl

theorem keeps_flush_succ {prog : Program} {d : Nat} (ih : KeepsAt prog d) :
    KeepsOutline (flush prog (d + 1)) := by
  rw [flush]
  refine .bind (.modifySelf fun _ => rfl) fun _ => .bind .self fun _ => .bind ?_ fun r => ?_
  · exact .attempt (.repeatPass (.passWith _ ih.applyChanges ih.drainFired) _ _ _)
  · refine .bind (.modifySelf fun _ => rfl) fun _ => ?_
    cases r with
    | ok _ => exact .pure _
    | error e => exact .throw e

theorem keeps_dispatch_succ {prog : Program} {d : Nat} (ih : KeepsAt prog d) (key : HandlerKey) :
    KeepsOutline (dispatch prog (d + 1) key) := by
  rw [dispatch]
  refine .bind .ensureMounted fun _ => .bind .self fun s => .ite ?_ ?_
  · -- the key is this instance's: its handler runs and requests a pass
    split
    · exact .throw _
    · exact .bind (.modifySelf fun _ => rfl) fun _ => ih.requestUpdate _
  · -- the key is a nested instance's: the dispatch goes down, then its outbox is handled
    refine .bind .get fun _ => ?_
    split
    · exact .throw _
    · exact .bind (.onChild (ih.dispatch key) _) fun _ => ih.collectOutbox _

theorem keeps_collectOutbox_succ {prog : Program} {d : Nat} (ih : KeepsAt prog d) (index : Nat) :
    KeepsOutline (collectOutbox prog (d + 1) index) := by
  intro c
  rw [collectOutbox, exec_get_bind]
  cases hg : c.children[index]? with
  | none => exact .refl c
  | some g =>
    obtain ⟨s, gs⟩ := g
    dsimp only
    rw [exec_set_bind]
    -- emptying the outbox keeps the nested instance's footprint
    have hset : Cursor.Keeps c
        { c with children := c.children.set index (.node { s with outbox := [] } gs) } :=
      ⟨rfl, Instance.outlines_set hg rfl, .refl _⟩
    exact KeepsOutline.from_keeps (.bind (.forIn fun key _ => .bind (ih.route key) fun _ => .pure _)
      fun _ => .pure _) hset

/-- The update operations keep the outline of the tree and only write, at every depth bound. -/
theorem keepsAt (prog : Program) : ∀ d, KeepsAt prog d
  | 0 => keepsAt_zero prog
  | d + 1 => by
    have ih := keepsAt prog d
    exact {
      applyChanges := fun changed => by
        rw [applyChanges]
        exact .bind .self fun _ => .bind (.writeBindings _ _) fun _ => .bind .get fun _ =>
          .forwardProps changed ih.updateProps ih.collectOutbox _
      updateProps := keeps_updateProps_succ ih
      requestUpdate := fun names => by
        rw [requestUpdate]
        exact .bind .ensureMounted fun _ => .bind (.modifySelf fun _ => rfl) fun _ =>
          .bind .self fun _ => .ite ih.flush (.pure _)
      flush := keeps_flush_succ ih
      dispatch := keeps_dispatch_succ ih
      route := fun key => by
        rw [route]
        exact .bind .get fun _ => .ite (ih.dispatch key) (.modifySelf fun _ => rfl)
      drainFired := by
        rw [drainFired]
        exact .bind (.host fun h => Host.OnlyWrites.takeFired h) fun _ =>
          .bind (.forIn fun key _ => .bind (ih.route key) fun _ => .pure _) fun _ => .pure _
      collectOutbox := keeps_collectOutbox_succ ih }

theorem keeps_fire (prog : Program) (name : String) : KeepsOutline (fire prog name) := by
  rw [fire]
  refine .bind .self fun _ => ?_
  split
  · exact .throw _
  · exact (keepsAt prog prog.eventDepth).dispatch _

theorem keeps_apply (prog : Program) (names : List String) : KeepsOutline (apply prog names) :=
  .bind .ensureMounted fun _ => (keepsAt prog prog.eventDepth).applyChanges _

theorem keeps_assign (name : String) (v : Value) : KeepsOutline (assign name v) :=
  .modifySelf fun _ => rfl

theorem keeps_takeUnowned : KeepsOutline takeUnowned :=
  .bind .self fun _ => .bind (.modifySelf fun _ => rfl) fun _ => .pure _

end Instance

/-- An operation that keeps the outline, run on the instance at a path, keeps the outline of the
whole tree and only writes. -/
theorem runAtPath_keeps {α : Type} {a : Act α} (ha : Act.KeepsOutline a) {path : List Nat}
    {root root' : Instance} {scene scene' : Scene} {r : Except InstanceError α}
    (h : runAtPath a path root scene = some (r, root', scene')) :
    root'.outline = root.outline ∧ scene.host.OnlyWrites scene'.host := by
  rw [runAtPath_eq] at h
  obtain ⟨g, hg, hrun⟩ := Option.map_eq_some_iff.mp h
  simp only [Instance.runOn_eq, Prod.mk.injEq] at hrun
  obtain ⟨-, rfl, rfl⟩ := hrun
  have hkeeps := ha ⟨g.state, g.children, scene⟩
  refine ⟨Instance.outline_setAt path root g _ hg ?_, hkeeps.host⟩
  rw [hkeeps.outline]
  cases g
  rfl

end Reactive
