import Reactive.Proofs.Volatile.Plan
import Reactive.Proofs.Teardown.Frame

/-!
# Update code that is not reactive never runs

An instance is *volatile-sound* for names `V` (`InstanceState.Volatile`) when its plan is sound
for `V` and only names of `V` are pending. `Act.RunsAlike V a` says of an operation that every
run of it from such an instance leaves only names of `V` pending, and that the same run from the
instance holding only the reactive part of its plan (`Cursor.reactivePart`) has the same outcome
and ends in the reactive part of the same cursor: the derived steps, bindings and props the plan
does not mark reactive are never recomputed, rewritten or forwarded.

The rules below carry `RunsAlike` through the monad and the runtime's building blocks. A
continuation that reads the instance must read nothing the reactive part drops (`self_bind`);
the derived pass, the bindings and the forwarded props read only reactive parts once the changed
names are in `V` (the lemmas of `Proofs.Volatile.Plan`). `runsAlikeAt` proves `RunsAlike` of
every update operation at every depth bound, by induction on the bound with one case per
operation, and `volatile_analysis_sound` states it for the plans the compiler produces.
-/

namespace Reactive

open Component

/-- An instance whose plan is sound for the names `V` that can change after mount, with only such
names pending. -/
structure InstanceState.Volatile (V : List String) (s : InstanceState) : Prop where
  sound : s.plan.VolatileSound V
  pending : ∀ x ∈ s.pending, x ∈ V

/-- The cursor whose instance holds only the part of its plan that update code keeps. -/
def Cursor.reactivePart (c : Cursor) : Cursor := { c with self := c.self.reactivePart }

namespace Cursor

@[simp]
theorem reactivePart_self (c : Cursor) : c.reactivePart.self = c.self.reactivePart := rfl

@[simp]
theorem reactivePart_children (c : Cursor) : c.reactivePart.children = c.children := rfl

end Cursor

namespace Act

variable {V : List String} {α β γ : Type}

/-- From cursor `c`, the run of `a` leaves only names of `V` pending, and the run from the
reactive part of `c` has the same outcome and ends in the reactive part of the same cursor. -/
def AlikeAt (V : List String) (a : Act α) (c : Cursor) : Prop :=
  exec a c.reactivePart = ((exec a c).1, (exec a c).2.reactivePart) ∧ (exec a c).2.self.Volatile V

/-- Every run of `a` from a volatile-sound instance is alike its run on the reactive part. -/
def RunsAlike (V : List String) (a : Act α) : Prop := ∀ c, c.self.Volatile V → AlikeAt V a c

/-- A pass runs, from the cursor with the derived values recomputed, no name pending and one
more pass counted, the application of the changed names, the draining, and the test for another
pass. -/
theorem exec_passWith_eq (apply : List String → Act Unit) (drain : Act Unit) (redrain : Bool)
    (c : Cursor) :
    exec (Act.passWith apply drain redrain) c =
      exec (apply (c.self.derivedPass c.self.pending).2 >>= fun _ => drain >>= fun _ =>
          Act.self >>= fun s => Pure.pure (!s.pending.isEmpty && redrain))
        (Instance.afterRecompute c) := by
  rw [Act.passWith, exec_self_bind]
  rfl

/-- From volatile-sound pending names, recomputing the reactive part is recomputing. -/
theorem afterRecompute_reactivePart {c : Cursor} (hc : c.self.Volatile V) :
    Instance.afterRecompute c.reactivePart = (Instance.afterRecompute c).reactivePart := by
  unfold Instance.afterRecompute
  rw [Cursor.reactivePart_self, InstanceState.reactivePart_pending,
    (InstanceState.derivedPass_reactivePart hc.sound hc.pending).1]
  rfl

namespace RunsAlike

theorem pure (x : α) : RunsAlike V (Pure.pure x : Act α) := fun _ hc => ⟨rfl, hc⟩

theorem throw (e : InstanceError) : RunsAlike V (MonadExcept.throw e : Act α) :=
  fun _ hc => ⟨rfl, hc⟩

theorem bind {x : Act α} {f : α → Act β} (hx : RunsAlike V x) (hf : ∀ v, RunsAlike V (f v)) :
    RunsAlike V (x >>= f) := by
  intro c hc
  obtain ⟨hrun, hvol⟩ := hx c hc
  show exec (x >>= f) c.reactivePart = _ ∧ _
  rw [exec_bind, exec_bind, hrun]
  revert hvol
  rcases exec x c with ⟨r, c₁⟩
  cases r with
  | ok v => exact hf v c₁
  | error e => exact fun hvol => ⟨rfl, hvol⟩

/-- Reading the instance: the continuation given what the reactive part holds runs, from the
reactive part, as it does given what the instance holds. -/
theorem self_bind {k : InstanceState → Act β}
    (hk : ∀ c : Cursor, c.self.Volatile V →
      exec (k c.self.reactivePart) c.reactivePart = exec (k c.self) c.reactivePart)
    (hrun : ∀ c : Cursor, c.self.Volatile V → AlikeAt V (k c.self) c) :
    RunsAlike V (Act.self >>= k) :=
  fun c hc => ⟨(hk c hc).trans (hrun c hc).1, (hrun c hc).2⟩

/-- Reading the instance where the continuation reads nothing the reactive part drops. -/
theorem self_bind_of_eq {k : InstanceState → Act β} (hk : ∀ s, k s.reactivePart = k s)
    (hrun : ∀ s, RunsAlike V (k s)) : RunsAlike V (Act.self >>= k) :=
  self_bind (fun c _ => by rw [hk]) fun c hc => hrun c.self c hc

/-- Reading the cursor where the continuation reads nothing the reactive part drops. -/
theorem get_bind {k : Cursor → Act β} (hk : ∀ c, k c.reactivePart = k c)
    (hrun : ∀ c, RunsAlike V (k c)) : RunsAlike V ((get : Act Cursor) >>= k) := by
  intro c hc
  show exec (k c.reactivePart) c.reactivePart = _ ∧ _
  rw [hk]
  exact hrun c c hc

theorem ite {p : Prop} [Decidable p] {x y : Act α} (hx : RunsAlike V x) (hy : RunsAlike V y) :
    RunsAlike V (if p then x else y) := by
  split
  · exact hx
  · exact hy

/-- Changing what the instance holds in a way that commutes with taking the reactive part and
keeps it volatile-sound. -/
theorem modifySelf {f : InstanceState → InstanceState}
    (hf : ∀ s, f s.reactivePart = (f s).reactivePart) (hv : ∀ s, s.Volatile V → (f s).Volatile V) :
    RunsAlike V (Act.modifySelf f) := by
  intro c hc
  refine ⟨?_, hv c.self hc⟩
  rw [exec_modifySelf, exec_modifySelf, Cursor.reactivePart_self, hf]
  rfl

/-- Changing what the instance holds but its plan and pending names. -/
theorem modifySelf_of_frame {f : InstanceState → InstanceState}
    (hf : ∀ s, f s.reactivePart = (f s).reactivePart)
    (hplan : ∀ s, (f s).plan = s.plan) (hpending : ∀ s, (f s).pending = s.pending) :
    RunsAlike V (Act.modifySelf f) :=
  modifySelf hf fun s hs => ⟨hplan s ▸ hs.sound, hpending s ▸ hs.pending⟩

theorem onHost (f : Host → Host) : RunsAlike V (Act.onHost f) := fun _ hc => ⟨rfl, hc⟩

theorem host (f : Host → γ × Host) : RunsAlike V (Act.host f) := fun _ hc => ⟨rfl, hc⟩

theorem attempt {a : Act α} (ha : RunsAlike V a) : RunsAlike V (Act.attempt a) := by
  intro c hc
  obtain ⟨hrun, hvol⟩ := ha c hc
  refine ⟨?_, hvol⟩
  rw [exec_attempt, exec_attempt, hrun]

theorem tooDeep : RunsAlike V Act.tooDeep :=
  self_bind_of_eq (fun _ => rfl) fun _ => throw _

theorem ensureMounted : RunsAlike V Act.ensureMounted :=
  self_bind_of_eq (fun _ => rfl) fun _ => ite (throw _) (pure _)

theorem forIn {xs : List γ} {b : β} {body : γ → β → Act (ForInStep β)}
    (hbody : ∀ x b, RunsAlike V (body x b)) : RunsAlike V (forIn xs b body) := by
  induction xs generalizing b with
  | nil => exact pure b
  | cons x xs ih =>
    rw [List.forIn_cons]
    refine bind (hbody x b) fun step => ?_
    cases step with
    | done b' => exact pure b'
    | yield b' => exact ih

/-- Work on a nested instance never reads the plan of this one. -/
theorem onChild (a : Act Unit) (index : Nat) : RunsAlike V (Act.onChild index a) := by
  intro c hc
  unfold AlikeAt
  cases hg : c.children[index]? with
  | none =>
    have hexec : ∀ c' : Cursor, c'.children = c.children →
        exec (Act.onChild index a) c' = (.ok (), c') := by
      intro c' hc'
      rw [Act.onChild, exec_get_bind]
      simp only [hc', hg]
      rfl
    rw [hexec c rfl, hexec c.reactivePart rfl]
    exact ⟨rfl, hc⟩
  | some g =>
    rw [exec_onChild_some hg, exec_onChild_some (c := c.reactivePart) hg]
    exact ⟨rfl, hc⟩

theorem repeatPass {pass : Act Bool} (hpass : RunsAlike V pass) (component : String) (limit : UInt32) :
    ∀ k, RunsAlike V (Act.repeatPass component limit pass k)
  | 0 => bind hpass fun _ => ite (throw _) (pure _)
  | k + 1 => bind hpass fun _ => ite (repeatPass hpass component limit k) (pure _)

/-- Writing a list of bindings reads the instance's values and nodes, not its plan. -/
theorem writeBindings (changed : List String) (bs : List BindingPlan) :
    RunsAlike V (Act.writeBindings changed bs) := by
  intro c hc
  unfold AlikeAt
  rw [exec_writeBindings, exec_writeBindings]
  exact ⟨rfl, hc.sound, hc.pending⟩

/-- A pass from volatile-sound pending names recomputes only reactive steps and reports changed
names of `V`; it is alike when applying those names and draining are. -/
theorem passWith {apply : List String → Act Unit} {drain : Act Unit} (redrain : Bool)
    (happly : ∀ changed, (∀ x ∈ changed, x ∈ V) → RunsAlike V (apply changed))
    (hdrain : RunsAlike V drain) : RunsAlike V (Act.passWith apply drain redrain) := by
  intro c hc
  obtain ⟨hpass, hchanged⟩ := InstanceState.derivedPass_reactivePart hc.sound hc.pending
  -- after the pass nothing is pending and the plan is the same
  have hvol : (Instance.afterRecompute c).self.Volatile V := by
    have hplan : (c.self.derivedPass c.self.pending).1.plan = c.self.plan := by
      rw [InstanceState.derivedPass_frame]
    exact ⟨hplan ▸ hc.sound, fun _ h => absurd h List.not_mem_nil⟩
  unfold AlikeAt
  rw [exec_passWith_eq, exec_passWith_eq, afterRecompute_reactivePart hc, Cursor.reactivePart_self,
    InstanceState.reactivePart_pending, hpass]
  exact (bind (happly _ hchanged) fun _ => bind hdrain fun _ =>
    self_bind_of_eq (fun _ => rfl) fun _ => pure _) _ hvol

/-- Forwarding props for changed names of `V` reads only the forwarded props, and work on a
nested instance never reads this one's plan. -/
theorem forwardProps {changed : List String} (hch : ∀ x ∈ changed, x ∈ V)
    (update : Props → Act Unit) {collect : Nat → Act Unit}
    (hcollect : ∀ i, RunsAlike V (collect i)) :
    ∀ is, RunsAlike V (Act.forwardProps changed update collect is)
  | [] => pure _
  | i :: is => by
    rw [Act.forwardProps]
    refine self_bind (fun c hc => ?_) fun c hc => ?_
    · simp only [InstanceState.childProps_reactivePart hc.sound hch]
    · exact (get_bind (fun _ => rfl) fun _ => ite (bind (onChild _ i) fun _ =>
        bind (hcollect i) fun _ => forwardProps hch update hcollect is)
        (forwardProps hch update hcollect is)) c hc

end RunsAlike

end Act

namespace Instance

open Act

/-- Every update operation at depth bound `d` is alike on the reactive part, from volatile-sound
instances; a request or an application of changes is, for names of `V`. -/
structure RunsAlikeAt (prog : Program) (V : List String) (d : Nat) : Prop where
  applyChanges : ∀ changed, (∀ x ∈ changed, x ∈ V) → RunsAlike V (applyChanges prog d changed)
  updateProps : ∀ props, RunsAlike V (updateProps prog d props)
  requestUpdate : ∀ names, (∀ x ∈ names, x ∈ V) → RunsAlike V (requestUpdate prog d names)
  flush : RunsAlike V (flush prog d)
  dispatch : ∀ key, RunsAlike V (dispatch prog d key)
  route : ∀ key, RunsAlike V (route prog d key)
  drainFired : RunsAlike V (drainFired prog d)
  collectOutbox : ∀ index, RunsAlike V (collectOutbox prog d index)

variable {prog : Program} {V : List String}

theorem runsAlikeAt_zero (prog : Program) (V : List String) : RunsAlikeAt prog V 0 where
  applyChanges _ _ := by rw [applyChanges]; exact .tooDeep
  updateProps _ := by rw [updateProps]; exact .tooDeep
  requestUpdate _ _ := by rw [requestUpdate]; exact .tooDeep
  flush := by rw [flush]; exact .tooDeep
  dispatch _ := by rw [dispatch]; exact .tooDeep
  route _ := by rw [route]; exact .tooDeep
  drainFired := by rw [drainFired]; exact .tooDeep
  collectOutbox _ := by rw [collectOutbox]; exact .tooDeep

/-- Changes for names of `V` rewrite only reactive bindings and forward only reactive props. -/
theorem runsAlike_applyChanges_succ {d : Nat} (ih : RunsAlikeAt prog V d) {changed : List String}
    (hch : ∀ x ∈ changed, x ∈ V) : RunsAlike V (applyChanges prog (d + 1) changed) := by
  rw [applyChanges]
  refine .self_bind (fun c hc => ?_) fun c hc => ?_
  · -- the bindings the reactive part drops read no changed name
    have hbindings : c.self.reactivePart.plan.bindings = c.self.plan.bindings.filter (·.reactive) :=
      rfl
    have hwrites : Act.afterWrites changed c.self.reactivePart.plan.bindings c.reactivePart =
        Act.afterWrites changed c.self.plan.bindings c.reactivePart := by
      unfold Act.afterWrites
      rw [hbindings, InstanceState.readersOf_reactive hc.sound.bindings hch]
    rw [exec_bind, exec_bind]
    simp only [exec_writeBindings]
    rw [hwrites]
  · exact (RunsAlike.bind (.writeBindings _ _) fun _ => .get_bind (fun _ => rfl) fun _ =>
      .forwardProps hch _ ih.collectOutbox _) c hc

/-- Taking value props reads which props the plan accepts; the names taken are props, so in `V`. -/
theorem runsAlike_updateProps_succ {d : Nat} (ih : RunsAlikeAt prog V d) (props : Props) :
    RunsAlike V (updateProps prog (d + 1) props) := by
  rw [updateProps]
  refine .bind .ensureMounted fun _ => .bind (.modifySelf_of_frame (fun _ => rfl) (fun _ => rfl)
    (fun _ => rfl)) fun _ => ?_
  intro c hc
  show exec (Act.self >>= _) c.reactivePart = _ ∧ _
  rw [exec_self_bind, exec_self_bind, Cursor.reactivePart_self,
    InstanceState.takeValueProps_reactivePart]
  have hframe := foldl_takeStep_frame props (c.self, [])
  have hnames : ∀ x ∈ (c.self.takeValueProps props).2, x ∈ V := fun x hx =>
    ((InstanceState.mem_foldl_takeStep props c.self [] hx).resolve_left List.not_mem_nil) |>
      hc.sound.props x
  rcases ht : c.self.takeValueProps props with ⟨s, names⟩
  unfold InstanceState.takeValueProps at ht
  rw [ht] at hframe
  rw [InstanceState.takeValueProps, ht] at hnames
  dsimp only
  rw [exec_modifySelf_bind, exec_modifySelf_bind]
  -- the instance that took the props holds the same plan and pending names
  have hvol : s.Volatile V := by
    simp only at hframe
    rw [hframe]
    exact ⟨hc.sound, hc.pending⟩
  exact (RunsAlike.ite (ih.requestUpdate names hnames) (.pure _)) { c with self := s } hvol

theorem runsAlike_flush_succ {d : Nat} (ih : RunsAlikeAt prog V d) :
    RunsAlike V (flush prog (d + 1)) := by
  rw [flush]
  refine .bind (.modifySelf_of_frame (fun _ => rfl) (fun _ => rfl) (fun _ => rfl)) fun _ =>
    .self_bind_of_eq (fun _ => rfl) fun _ => .bind ?_ fun r => ?_
  · exact .attempt (.repeatPass (.passWith _ ih.applyChanges ih.drainFired) _ _ _)
  · refine .bind (.modifySelf_of_frame (fun _ => rfl) (fun _ => rfl) (fun _ => rfl)) fun _ => ?_
    cases r with
    | ok _ => exact .pure _
    | error e => exact .throw e

/-- A handler of this instance requests names of `V`; a key of a nested instance goes down. -/
theorem runsAlike_dispatch_succ {d : Nat} (ih : RunsAlikeAt prog V d) (key : HandlerKey) :
    RunsAlike V (dispatch prog (d + 1) key) := by
  rw [dispatch]
  refine .bind .ensureMounted fun _ => .self_bind (fun _ _ => rfl) fun c hc => ?_
  split
  · -- the key is this instance's: its handler runs and requests what it mutates
    split
    · exact RunsAlike.throw _ c hc
    · rename_i h hh
      have hreq := hc.sound.requests h (List.mem_of_getElem? hh) c.self.values
      rcases hexec : Eval.execAll c.self.values [] h.body with ⟨values, requested⟩
      rw [hexec] at hreq
      dsimp only
      refine (RunsAlike.bind ?_ fun _ => ih.requestUpdate requested hreq) c hc
      exact .modifySelf_of_frame (fun _ => rfl) (fun _ => rfl) (fun _ => rfl)
  · -- the key is a nested instance's: the dispatch goes down, then its outbox is handled
    refine (RunsAlike.get_bind (fun _ => rfl) fun _ => ?_) c hc
    split
    · exact .throw _
    · exact .bind (.onChild _ _) fun _ => ih.collectOutbox _

theorem runsAlike_collectOutbox_succ {d : Nat} (ih : RunsAlikeAt prog V d) (index : Nat) :
    RunsAlike V (collectOutbox prog (d + 1) index) := by
  intro c hc
  show exec (collectOutbox prog (d + 1) index) c.reactivePart = _ ∧ _
  rw [collectOutbox, exec_get_bind, exec_get_bind]
  cases hg : c.children[index]? with
  | none =>
    simp only [Cursor.reactivePart_children, hg]
    exact ⟨rfl, hc⟩
  | some g =>
    obtain ⟨s, gs⟩ := g
    simp only [Cursor.reactivePart_children, hg]
    rw [exec_set_bind, exec_set_bind]
    -- emptying the nested instance's outbox leaves this instance as it was
    exact (RunsAlike.bind (.forIn fun key _ => .bind (ih.route key) fun _ => .pure _)
      fun _ => .pure _)
      { c with children := c.children.set index (.node { s with outbox := [] } gs) }
      hc

/-- The update operations are alike on the reactive part, at every depth bound. -/
theorem runsAlikeAt (prog : Program) (V : List String) : ∀ d, RunsAlikeAt prog V d
  | 0 => runsAlikeAt_zero prog V
  | d + 1 => by
    have ih := runsAlikeAt prog V d
    exact {
      applyChanges := fun _ hch => runsAlike_applyChanges_succ ih hch
      updateProps := runsAlike_updateProps_succ ih
      requestUpdate := fun names hnames => by
        rw [requestUpdate]
        refine .bind .ensureMounted fun _ => .bind (.modifySelf (fun _ => rfl) fun s hs =>
          ⟨hs.sound, fun x hx => (mem_insertNames.mp hx).elim (hnames x) (hs.pending x)⟩)
            fun _ => .self_bind_of_eq (fun _ => rfl) fun _ => .ite ih.flush (.pure _)
      flush := runsAlike_flush_succ ih
      dispatch := runsAlike_dispatch_succ ih
      route := fun key => by
        rw [route]
        exact .get_bind (fun _ => rfl) fun _ => .ite (ih.dispatch key)
          (.modifySelf_of_frame (fun _ => rfl) (fun _ => rfl) (fun _ => rfl))
      drainFired := by
        rw [drainFired]
        exact .bind (.host _) fun _ =>
          .bind (.forIn fun key _ => .bind (ih.route key) fun _ => .pure _) fun _ => .pure _
      collectOutbox := runsAlike_collectOutbox_succ ih }

/-- A handler run by name is looked up among the handlers, which the reactive part keeps. -/
theorem runsAlike_fire (prog : Program) (V : List String) (handler : String) :
    RunsAlike V (fire prog handler) := by
  rw [fire]
  refine .self_bind_of_eq (fun _ => rfl) fun _ => ?_
  split
  · exact .throw _
  · exact (runsAlikeAt prog V _).dispatch _

end Instance

end Reactive
