import Reactive.Proofs.Teardown.Frame

/-!
# Runs that record fired keys

Whether a fired key is lost or handled twice is a property of a run, not of the state it leaves:
nothing in an instance counts the handlers it ran. This file gives the operations an events
record beside their state. `Traced` is an operation that also appends `Event`s: a key handed out
by the host's queue of fired keys (`handed`), and a key whose handler ran (`ran`). The recording
operations (`Traced.applyChanges` … `Traced.collectOutbox`) follow the plain ones line by line and
record exactly at the two places where a key is taken from the host and where a handler body
runs.

`erasesAt` proves that forgetting the record gives back the plain operations: the same outcome and
the same cursor, at every depth. So every statement about the record of a recording run is a
statement about the plain run it erases to.
-/

namespace Reactive

open Component

/-- What a run records about fired keys: a key taken from the host's queue of fired keys, and a
key whose handler ran. -/
inductive Event where
  | handed (key : HandlerKey)
  | ran (key : HandlerKey)

namespace Event

/-- The key of a hand-out. -/
def handed? : Event → Option HandlerKey
  | .handed key => some key
  | .ran _ => none

/-- The key of a handler run. -/
def ran? : Event → Option HandlerKey
  | .handed _ => none
  | .ran key => some key

end Event

/-- The keys a record hands out, in order. -/
def handedKeys (es : List Event) : List HandlerKey := es.filterMap Event.handed?

/-- The keys whose handlers a record ran, in order. -/
def ranKeys (es : List Event) : List HandlerKey := es.filterMap Event.ran?

@[simp] theorem handedKeys_nil : handedKeys [] = [] := rfl
@[simp] theorem ranKeys_nil : ranKeys [] = [] := rfl

@[simp] theorem handedKeys_append (es es' : List Event) :
    handedKeys (es ++ es') = handedKeys es ++ handedKeys es' := List.filterMap_append

@[simp] theorem ranKeys_append (es es' : List Event) :
    ranKeys (es ++ es') = ranKeys es ++ ranKeys es' := List.filterMap_append

@[simp] theorem handedKeys_map_handed (keys : List HandlerKey) :
    handedKeys (keys.map .handed) = keys := by
  simp [handedKeys, List.filterMap_map, Function.comp_def, Event.handed?]

@[simp] theorem ranKeys_map_handed (keys : List HandlerKey) : ranKeys (keys.map .handed) = [] := by
  simp [ranKeys, List.filterMap_map, Function.comp_def, Event.ran?]

@[simp] theorem handedKeys_ran (k : HandlerKey) : handedKeys [.ran k] = [] := rfl
@[simp] theorem ranKeys_ran (k : HandlerKey) : ranKeys [.ran k] = [k] := rfl

/-- An operation that also appends to a record of events. A failure drops the record; the cursor
stays as the operation leaves it. -/
abbrev Traced := StateT (List Event) Act

namespace Traced

/-- Runs an operation without recording. -/
def lift {α : Type} (a : Act α) : Traced α := StateT.lift a

/-- Appends events to the record. -/
def record (es : List Event) : Traced Unit := modify (· ++ es)

/-- Runs a recording operation on a nested instance; there is nothing to do for a missing
index. -/
def onChild (index : Nat) (t : Traced Unit) : Traced Unit := fun log => do
  let c ← get
  match c.children[index]? with
  | none => pure ((), log)
  | some child =>
    let (r, child, scene) := Act.runOn (t.run log) child c.scene
    set { c with children := c.children.set index child, scene }
    match r with
    | .ok ((), log) => pure ((), log)
    | .error e => throw e

/-- Runs a recording operation and returns its outcome instead of failing. -/
def attempt {α : Type} (t : Traced α) : Traced (Except InstanceError α) := fun log => do
  match ← Act.attempt (t.run log) with
  | .ok (a, log) => pure (.ok a, log)
  | .error e => pure (.error e, log)

/-- One propagation pass, recording. -/
def passWith (apply : List String → Traced Unit) (drain : Traced Unit) (redrain : Bool) :
    Traced Bool := do
  let s ← lift Act.self
  let (s, changed) := s.derivedPass s.pending
  lift (Act.modifySelf fun _ =>
    { s with pending := [], stats := { s.stats with passes := s.stats.passes + 1 } })
  apply changed
  drain
  return !(← lift Act.self).pending.isEmpty && redrain

/-- Forwards changed props to the mounted nested instances, recording. -/
def forwardProps (changed : List String) (update : Props → Traced Unit)
    (collect : Nat → Traced Unit) : List Nat → Traced Unit
  | [] => pure ()
  | index :: rest => do
    let props := (← lift Act.self).childProps index (some changed)
    let mounted := ((← lift get).children[index]?).any (·.isMounted)
    if !props.isEmpty && mounted then
      onChild index (update props)
      collect index
    forwardProps changed update collect rest

/-- Runs a pass, and again while it asks for one, recording. -/
def repeatPass (component : String) (limit : UInt32) (pass : Traced Bool) : Nat → Traced Unit
  | 0 => do if ← pass then lift (throw (Act.loopEnd component limit))
  | k + 1 => do if ← pass then repeatPass component limit pass k

end Traced

namespace Instance

open Traced

mutual
/-- `applyChanges`, recording. -/
def tracedApplyChanges (prog : Program) : Nat → List String → Traced Unit
  | 0, _ => lift Act.tooDeep
  | depth + 1, changed => do
    lift (Act.writeBindings changed (← lift Act.self).plan.bindings)
    let count := (← lift get).children.length
    Traced.forwardProps changed (tracedUpdateProps prog depth) (tracedCollectOutbox prog depth)
      (List.range count)

/-- `updateProps`, recording. -/
def tracedUpdateProps (prog : Program) : Nat → Props → Traced Unit
  | 0, _ => lift Act.tooDeep
  | depth + 1, props => do
    lift Act.ensureMounted
    lift (Act.modifySelf fun s =>
      { s with stats := { s.stats with propUpdates := s.stats.propUpdates + 1 } })
    let (s, names) := (← lift Act.self).takeValueProps props
    lift (Act.modifySelf fun _ => s)
    if !names.isEmpty then tracedRequestUpdate prog depth names

/-- `requestUpdate`, recording. -/
def tracedRequestUpdate (prog : Program) : Nat → List String → Traced Unit
  | 0, _ => lift Act.tooDeep
  | depth + 1, names => do
    lift Act.ensureMounted
    lift (Act.modifySelf fun s => { s with pending := insertNames names s.pending })
    if !(← lift Act.self).flushing then tracedFlush prog depth

/-- `flush`, recording. -/
def tracedFlush (prog : Program) : Nat → Traced Unit
  | 0 => lift Act.tooDeep
  | depth + 1 => do
    lift (Act.modifySelf fun s => { s with flushing := true })
    let pass := Traced.passWith (tracedApplyChanges prog depth) (tracedDrainFired prog depth)
      (prog.options.reentrancy == .redrain)
    let limit := prog.options.maxRedrainPasses
    let r ← Traced.attempt (Traced.repeatPass (← lift Act.self).plan.name limit pass limit.toNat)
    lift (Act.modifySelf fun s => { s with flushing := false })
    match r with
    | .ok () => pure ()
    | .error e => lift (throw e)

/-- `dispatch`, recording the handler it runs. -/
def tracedDispatch (prog : Program) : Nat → HandlerKey → Traced Unit
  | 0, _ => lift Act.tooDeep
  | depth + 1, key => do
    lift Act.ensureMounted
    let s ← lift Act.self
    if key.owner == s.id then
      match s.plan.handlers[key.handler]? with
      | none => lift (throw (.unknownHandler key.text))
      | some h =>
        record [.ran key]
        let (values, requested) := Eval.execAll s.values [] h.body
        lift (Act.modifySelf fun s => { s with values })
        tracedRequestUpdate prog depth requested
    else
      match (← lift get).children.findIdx? (·.owns key) with
      | none => lift (throw (.unknownHandler key.text))
      | some index =>
        Traced.onChild index (tracedDispatch prog depth key)
        tracedCollectOutbox prog depth index

/-- `route`, recording. -/
def tracedRoute (prog : Program) : Nat → HandlerKey → Traced Unit
  | 0, _ => lift Act.tooDeep
  | depth + 1, key => do
    let c ← lift get
    if (Instance.node c.self c.children).owns key then tracedDispatch prog depth key
    else lift (Act.modifySelf fun s => { s with outbox := s.outbox ++ [key] })

/-- `drainFired`, recording the keys it takes from the host. -/
def tracedDrainFired (prog : Program) : Nat → Traced Unit
  | 0 => lift Act.tooDeep
  | depth + 1 => do
    let keys ← lift (Act.host Host.takeFired)
    record (keys.map .handed)
    for key in keys do tracedRoute prog depth key

/-- `collectOutbox`, recording. -/
def tracedCollectOutbox (prog : Program) : Nat → Nat → Traced Unit
  | 0, _ => lift Act.tooDeep
  | depth + 1, index => do
    let c ← lift get
    match c.children[index]? with
    | none => pure ()
    | some (.node cs gs) =>
      lift (set { c with children := c.children.set index (.node { cs with outbox := [] } gs) })
      for key in cs.outbox do tracedRoute prog depth key
end

end Instance

/-! ## Erasure -/

namespace Traced

open Act

/-- A recording operation runs as a plain one: from every record and cursor it has the plain
outcome, with a record beside a success, and leaves the plain cursor. -/
def Erases {α : Type} (t : Traced α) (a : Act α) : Prop :=
  ∀ log c, match exec a c with
    | (.ok v, c') => ∃ log', exec (t.run log) c = (.ok (v, log'), c')
    | (.error e, c') => exec (t.run log) c = (.error e, c')

/-- A plain operation run without recording keeps the record. -/
theorem exec_lift_run {α : Type} (a : Act α) (log : List Event) (c : Cursor) :
    exec ((Traced.lift a).run log) c = exec (a >>= fun v => pure (v, log)) c := rfl

/-- Recording work on a missing nested instance does nothing. -/
theorem exec_tracedOnChild_none {index : Nat} {t : Traced Unit} {log : List Event} {c : Cursor}
    (hg : c.children[index]? = none) :
    exec ((Traced.onChild index t).run log) c = (.ok ((), log), c) := by
  unfold Traced.onChild
  rw [StateT.run, exec_get_bind]
  simp only [hg]
  rfl

/-- Recording work on nested instance `index`: as the plain work, the instance there is replaced
by what the work leaves and the scene is the one it leaves; the outcome is the work's own. -/
theorem exec_tracedOnChild_some {index : Nat} {t : Traced Unit} {log : List Event} {c : Cursor}
    {g : Instance} (hg : c.children[index]? = some g) :
    exec ((Traced.onChild index t).run log) c =
      ((exec (t.run log) ⟨g.state, g.children, c.scene⟩).1,
        { c with children := c.children.set index
                   (.node (exec (t.run log) ⟨g.state, g.children, c.scene⟩).2.self
                     (exec (t.run log) ⟨g.state, g.children, c.scene⟩).2.children),
                 scene := (exec (t.run log) ⟨g.state, g.children, c.scene⟩).2.scene }) := by
  unfold Traced.onChild
  rw [StateT.run, exec_get_bind]
  simp only [hg]
  rw [Instance.runOn_eq]
  dsimp only
  rw [exec_set_bind]
  generalize (exec (t.run log) ⟨g.state, g.children, c.scene⟩).1 = r
  rcases r with e | ⟨⟨⟩, l⟩ <;> rfl

namespace Erases

variable {α β : Type}

theorem lift (a : Act α) : Erases (Traced.lift a) a := by
  intro log c
  rw [exec_lift_run, exec_bind]
  rcases exec a c with ⟨r, c'⟩
  cases r with
  | ok v => exact ⟨log, rfl⟩
  | error e => rfl

theorem pure (v : α) : Erases (Pure.pure v : Traced α) (Pure.pure v) :=
  fun log _ => ⟨log, rfl⟩

theorem bind {t : Traced α} {a : Act α} {f : α → Traced β} {g : α → Act β} (ht : Erases t a)
    (hf : ∀ v, Erases (f v) (g v)) : Erases (t >>= f) (a >>= g) := by
  intro log c
  rw [StateT.run_bind, exec_bind, exec_bind]
  have h := ht log c
  revert h
  rcases exec a c with ⟨r, c'⟩
  cases r with
  | ok v =>
    rintro ⟨log', h⟩
    rw [h]
    exact hf v log' c'
  | error e =>
    intro h
    rw [h]

/-- Recording changes nothing the plain operation sees. -/
theorem record_bind {es : List Event} {t : Traced α} {a : Act α} (ht : Erases t a) :
    Erases (record es >>= fun _ => t) a := by
  intro log c
  have hrun : exec ((record es >>= fun _ => t).run log) c = exec (t.run (log ++ es)) c := rfl
  rw [hrun]
  exact ht (log ++ es) c

theorem ite {p : Prop} [Decidable p] {t t' : Traced α} {a a' : Act α} (ht : Erases t a)
    (ht' : Erases t' a') : Erases (if p then t else t') (if p then a else a') := by
  split
  · exact ht
  · exact ht'

theorem forIn {γ : Type} {f : γ → PUnit → Traced (ForInStep PUnit)}
    {g : γ → PUnit → Act (ForInStep PUnit)} (hfg : ∀ x b, Erases (f x b) (g x b))
    (xs : List γ) (b : PUnit) : Erases (ForIn.forIn xs b f) (ForIn.forIn xs b g) := by
  induction xs generalizing b with
  | nil => exact pure b
  | cons x xs ih =>
    rw [List.forIn_cons, List.forIn_cons]
    refine bind (hfg x b) fun r => ?_
    cases r with
    | done b => exact pure b
    | yield b => exact ih b

theorem onChild {index : Nat} {t : Traced Unit} {a : Act Unit} (ht : Erases t a) :
    Erases (Traced.onChild index t) (Act.onChild index a) := by
  intro log c
  cases hg : c.children[index]? with
  | none =>
    have hplain : exec (Act.onChild index a) c = (.ok (), c) := by
      rw [Act.onChild, exec_get_bind]
      simp only [hg]
      rfl
    rw [hplain]
    exact ⟨log, exec_tracedOnChild_none hg⟩
  | some g =>
    rw [exec_onChild_some hg, exec_tracedOnChild_some hg]
    have h := ht log ⟨g.state, g.children, c.scene⟩
    revert h
    rcases exec a ⟨g.state, g.children, c.scene⟩ with ⟨r, c'⟩
    cases r with
    | ok u =>
      rintro ⟨log', h⟩
      rw [h]
      exact ⟨log', rfl⟩
    | error e =>
      intro h
      rw [h]

theorem attempt {t : Traced α} {a : Act α} (ht : Erases t a) :
    Erases (Traced.attempt t) (Act.attempt a) := by
  intro log c
  have h := ht log c
  unfold Traced.attempt
  unfold StateT.run at h ⊢
  rw [exec_bind, exec_attempt, exec_attempt]
  revert h
  rcases exec a c with ⟨r, c'⟩
  cases r with
  | ok v =>
    rintro ⟨log', h⟩
    rw [h]
    exact ⟨log', rfl⟩
  | error e =>
    intro h
    rw [h]
    exact ⟨log, rfl⟩

theorem passWith {apply : List String → Traced Unit} {apply' : List String → Act Unit}
    {drain : Traced Unit} {drain' : Act Unit} {redrain : Bool}
    (happly : ∀ changed, Erases (apply changed) (apply' changed)) (hdrain : Erases drain drain') :
    Erases (Traced.passWith apply drain redrain) (Act.passWith apply' drain' redrain) := by
  unfold Traced.passWith Act.passWith
  refine bind (lift _) fun s => ?_
  refine bind (lift _) fun _ => bind (happly _) fun _ => bind hdrain fun _ => ?_
  exact bind (lift _) fun _ => pure _

theorem repeatPass {component : String} {limit : UInt32} {pass : Traced Bool} {pass' : Act Bool}
    (hpass : Erases pass pass') :
    ∀ k, Erases (Traced.repeatPass component limit pass k) (Act.repeatPass component limit pass' k) := by
  intro k
  induction k with
  | zero =>
    refine bind hpass fun b => ?_
    exact ite (lift _) (pure _)
  | succ k ih =>
    refine bind hpass fun b => ?_
    exact ite ih (pure _)

theorem forwardProps {changed : List String} {update : Props → Traced Unit}
    {update' : Props → Act Unit} {collect : Nat → Traced Unit} {collect' : Nat → Act Unit}
    (hupdate : ∀ props, Erases (update props) (update' props))
    (hcollect : ∀ index, Erases (collect index) (collect' index)) :
    ∀ indices, Erases (Traced.forwardProps changed update collect indices)
      (Act.forwardProps changed update' collect' indices) := by
  intro indices
  induction indices with
  | nil => exact pure _
  | cons index rest ih =>
    unfold Traced.forwardProps Act.forwardProps
    refine bind (lift _) fun s => bind (lift _) fun c => ?_
    dsimp only
    split
    · exact bind (onChild (hupdate _)) fun _ => bind (hcollect _) fun _ => ih
    · exact ih

end Erases

end Traced

namespace Instance

open Traced

/-- Every recording operation at depth bound `d` erases to its plain twin. -/
structure ErasesAt (prog : Program) (d : Nat) : Prop where
  applyChanges : ∀ changed, Erases (tracedApplyChanges prog d changed) (applyChanges prog d changed)
  updateProps : ∀ props, Erases (tracedUpdateProps prog d props) (updateProps prog d props)
  requestUpdate : ∀ names, Erases (tracedRequestUpdate prog d names) (requestUpdate prog d names)
  flush : Erases (tracedFlush prog d) (flush prog d)
  dispatch : ∀ key, Erases (tracedDispatch prog d key) (dispatch prog d key)
  route : ∀ key, Erases (tracedRoute prog d key) (route prog d key)
  drainFired : Erases (tracedDrainFired prog d) (drainFired prog d)
  collectOutbox : ∀ index, Erases (tracedCollectOutbox prog d index) (collectOutbox prog d index)

theorem erasesAt_zero (prog : Program) : ErasesAt prog 0 where
  applyChanges _ := by rw [tracedApplyChanges, applyChanges]; exact .lift _
  updateProps _ := by rw [tracedUpdateProps, updateProps]; exact .lift _
  requestUpdate _ := by rw [tracedRequestUpdate, requestUpdate]; exact .lift _
  flush := by rw [tracedFlush, flush]; exact .lift _
  dispatch _ := by rw [tracedDispatch, dispatch]; exact .lift _
  route _ := by rw [tracedRoute, route]; exact .lift _
  drainFired := by rw [tracedDrainFired, drainFired]; exact .lift _
  collectOutbox _ := by rw [tracedCollectOutbox, collectOutbox]; exact .lift _

section Succ

variable {prog : Program} {d : Nat} (ih : ErasesAt prog d)
include ih

theorem erases_applyChanges_succ (changed : List String) :
    Erases (tracedApplyChanges prog (d + 1) changed) (applyChanges prog (d + 1) changed) := by
  rw [tracedApplyChanges, applyChanges]
  exact .bind (.lift _) fun _ => .bind (.lift _) fun _ => .bind (.lift _) fun _ =>
    .forwardProps ih.updateProps ih.collectOutbox _

theorem erases_updateProps_succ (props : Props) :
    Erases (tracedUpdateProps prog (d + 1) props) (updateProps prog (d + 1) props) := by
  rw [tracedUpdateProps, updateProps]
  exact .bind (.lift _) fun _ => .bind (.lift _) fun _ => .bind (.lift _) fun _ =>
    .bind (.lift _) fun _ => .ite (ih.requestUpdate _) (.pure _)

theorem erases_requestUpdate_succ (names : List String) :
    Erases (tracedRequestUpdate prog (d + 1) names) (requestUpdate prog (d + 1) names) := by
  rw [tracedRequestUpdate, requestUpdate]
  exact .bind (.lift _) fun _ => .bind (.lift _) fun _ => .bind (.lift _) fun _ =>
    .ite ih.flush (.pure _)

theorem erases_flush_succ : Erases (tracedFlush prog (d + 1)) (flush prog (d + 1)) := by
  rw [tracedFlush, flush]
  refine .bind (.lift _) fun _ => .bind (.lift _) fun _ =>
    .bind (.attempt (.repeatPass (.passWith ih.applyChanges ih.drainFired) _)) fun r =>
    .bind (.lift _) fun _ => ?_
  cases r with
  | ok u => exact .pure _
  | error e => exact .lift _

theorem erases_collectOutbox_succ (index : Nat) :
    Erases (tracedCollectOutbox prog (d + 1) index) (collectOutbox prog (d + 1) index) := by
  rw [tracedCollectOutbox, collectOutbox]
  refine .bind (.lift _) fun c => ?_
  cases c.children[index]? with
  | none => exact .pure _
  | some g =>
    cases g with
    | node cs gs =>
      exact .bind (.lift _) fun _ =>
        .bind (.forIn (fun key _ => .bind (ih.route key) fun _ => .pure _) _ _) fun _ => .pure _

theorem erases_dispatch_succ (key : HandlerKey) :
    Erases (tracedDispatch prog (d + 1) key) (dispatch prog (d + 1) key) := by
  rw [tracedDispatch, dispatch]
  refine .bind (.lift _) fun _ => .bind (.lift _) fun s => .ite ?_ ?_
  · -- the key is this instance's: the handler run is recorded, then runs as in the plain dispatch
    cases s.plan.handlers[key.handler]? with
    | none => exact .lift _
    | some h => exact .record_bind (.bind (.lift _) fun _ => ih.requestUpdate _)
  · refine .bind (.lift _) fun c => ?_
    cases c.children.findIdx? (·.owns key) with
    | none => exact .lift _
    | some index => exact .bind (.onChild (ih.dispatch key)) fun _ => ih.collectOutbox index

theorem erases_route_succ (key : HandlerKey) :
    Erases (tracedRoute prog (d + 1) key) (route prog (d + 1) key) := by
  rw [tracedRoute, route]
  exact .bind (.lift _) fun _ => .ite (ih.dispatch key) (.lift _)

theorem erases_drainFired_succ : Erases (tracedDrainFired prog (d + 1)) (drainFired prog (d + 1)) := by
  rw [tracedDrainFired, drainFired]
  exact .bind (.lift _) fun keys => .record_bind
    (.bind (.forIn (fun key _ => .bind (ih.route key) fun _ => .pure _) keys _) fun _ => .pure _)

end Succ

/-- Every recording operation erases to its plain twin at every depth bound. -/
theorem erasesAt (prog : Program) (d : Nat) : ErasesAt prog d := by
  induction d with
  | zero => exact erasesAt_zero prog
  | succ d ih =>
    exact {
      applyChanges := erases_applyChanges_succ ih
      updateProps := erases_updateProps_succ ih
      requestUpdate := erases_requestUpdate_succ ih
      flush := erases_flush_succ ih
      dispatch := erases_dispatch_succ ih
      route := erases_route_succ ih
      drainFired := erases_drainFired_succ ih
      collectOutbox := erases_collectOutbox_succ ih }

end Instance

end Reactive
