import Reactive.Proofs.Events.Tally

/-!
# Fired keys are routed once

Every key the host's queue of fired keys hands out during an update is handled exactly once: the
instance of the tree with the key's number runs its handler, or, when the tree has no such
instance, the key is appended to the outbox of the instance the update started from. This holds
of an update started from an instance whose nested outboxes are empty, and it leaves them empty.

* `talliesAt`: every recording operation, at every depth bound, tallies its keys (`Tally`), by
  induction on the bound with one lemma per operation.
* `Update`: the updates a caller starts on an instance (a dispatch, a handler by name, a request,
  new props, an application of names), with their recording twins.
* `update_routes_fired_keys_once`: the main theorem, over the plain run of an update.
* `stale_outbox_survives_request`: a key left in a nested outbox by an earlier update of the
  nested instance itself outlives a request of its parent that succeeds.
-/

namespace Reactive

open Component Act Traced

/-- A check of the instance's phase leaves the cursor as it was, whether it passes or not. -/
theorem Act.exec_ensureMounted_snd (c : Cursor) : (exec Act.ensureMounted c).2 = c := by
  by_cases h : c.self.phase = .mounted
  · rw [exec_ensureMounted h]
  · rw [Instance.exec_ensureMounted_of_ne h]

theorem Cursor.keepsKeys_ensureMounted (c : Cursor) :
    Cursor.KeepsKeys c (exec Act.ensureMounted c).2 := by
  rw [Act.exec_ensureMounted_snd]
  exact ⟨rfl, rfl, rfl⟩

/-- Changing what the instance holds but its number and its outbox. -/
theorem Cursor.KeepsKeys.of_modifySelf {c : Cursor} {f : InstanceState → InstanceState}
    (hid : (f c.self).id = c.self.id) (hout : (f c.self).outbox = c.self.outbox) :
    Cursor.KeepsKeys c (exec (Act.modifySelf f) c).2 := by
  rw [exec_modifySelf]
  exact ⟨hid, hout, rfl⟩

/-- A derived pass keeps the instance's number and outbox. -/
theorem InstanceState.derivedPass_keepsKeys (s : InstanceState) (changed : List String) :
    (s.derivedPass changed).1.id = s.id ∧ (s.derivedPass changed).1.outbox = s.outbox := by
  rw [derivedPass_frame]
  exact ⟨rfl, rfl⟩

/-- Taking value props keeps the instance's number and outbox. -/
theorem InstanceState.takeValueProps_keepsKeys (s : InstanceState) (props : Props) :
    (s.takeValueProps props).1.id = s.id ∧ (s.takeValueProps props).1.outbox = s.outbox := by
  unfold takeValueProps
  rw [foldl_takeStep_frame]
  exact ⟨rfl, rfl⟩

/-! ## The runtime's compound steps -/

namespace Traced.Tallies

theorem repeatPass {component : String} {limit : UInt32} {pass : Traced Bool}
    (hpass : ∀ c, Tallies [] pass c) (k : Nat) (c : Cursor) :
    Tallies [] (Traced.repeatPass component limit pass k) c := by
  induction k generalizing c with
  | zero =>
    refine bind (hpass c) fun b c₁ => ?_
    exact ite (of_fails (Fails.lift_throw _)) (pure _)
  | succ k ih =>
    refine bind (hpass c) fun b c₁ => ?_
    exact ite (ih c₁) (pure _)

theorem passWith {apply : List String → Traced Unit} {drain : Traced Unit} {redrain : Bool}
    (happly : ∀ changed c, Tallies [] (apply changed) c) (hdrain : ∀ c, Tallies [] drain c)
    (c : Cursor) : Tallies [] (Traced.passWith apply drain redrain) c := by
  unfold Traced.passWith
  refine bind_self (bind (lift ?_) fun _ c₁ => bind (happly _ c₁) fun _ c₂ =>
    bind (hdrain c₂) fun _ c₃ => bind_self (pure _))
  -- the derived pass changes values only, then the pass clears the pending names
  have hkeeps := c.self.derivedPass_keepsKeys c.self.pending
  exact .of_modifySelf hkeeps.1 hkeeps.2

/-- Forwarding props: each nested instance that takes new props is updated and its outbox
routed. -/
theorem forwardProps {changed : List String} {update : Props → Traced Unit}
    {collect : Nat → Traced Unit} (hupdate : ∀ props c, Tallies [] (update props) c)
    (hcollect : ∀ index c s gs, c.children[index]? = some (.node s gs) →
      Cursor.Settled { c with children := c.children.set index (.node { s with outbox := [] } gs) } →
      TalliesFrom s.outbox (collect index) c)
    (indices : List Nat) (c : Cursor) :
    Tallies [] (Traced.forwardProps changed update collect indices) c := by
  induction indices generalizing c with
  | nil => exact pure _
  | cons index rest ih =>
    unfold Traced.forwardProps
    refine bind_self (bind_get ?_)
    dsimp only
    split
    · rename_i hcond
      -- a nested instance that is mounted is there
      cases hg : c.children[index]? with
      | none => simp [hg] at hcond
      | some g =>
        rw [← bind_assoc]
        exact bind (onChild_collect hg (hupdate _ _) (hcollect index)) fun _ c₁ => ih c₁
    · exact ih c

end Traced.Tallies

/-! ## Every operation tallies its keys -/

namespace Instance

open Traced.Tallies

/-- Every recording operation at depth bound `d` tallies the keys it is given: none for an
update, its key for a dispatch or a route, and the outbox of the nested instance for the
routing of that outbox. -/
structure TalliesAt (prog : Program) (d : Nat) : Prop where
  applyChanges : ∀ changed c, Tallies [] (tracedApplyChanges prog d changed) c
  updateProps : ∀ props c, Tallies [] (tracedUpdateProps prog d props) c
  requestUpdate : ∀ names c, Tallies [] (tracedRequestUpdate prog d names) c
  flush : ∀ c, Tallies [] (tracedFlush prog d) c
  dispatch : ∀ key c, Tallies [key] (tracedDispatch prog d key) c
  route : ∀ key c, Tallies [key] (tracedRoute prog d key) c
  drainFired : ∀ c, Tallies [] (tracedDrainFired prog d) c
  collectOutbox : ∀ index c s gs, c.children[index]? = some (.node s gs) →
    Cursor.Settled { c with children := c.children.set index (.node { s with outbox := [] } gs) } →
    TalliesFrom s.outbox (tracedCollectOutbox prog d index) c

theorem talliesAt_zero (prog : Program) : TalliesAt prog 0 where
  applyChanges _ _ := by rw [tracedApplyChanges]; exact of_fails Fails.lift_tooDeep
  updateProps _ _ := by rw [tracedUpdateProps]; exact of_fails Fails.lift_tooDeep
  requestUpdate _ _ := by rw [tracedRequestUpdate]; exact of_fails Fails.lift_tooDeep
  flush _ := by rw [tracedFlush]; exact of_fails Fails.lift_tooDeep
  dispatch _ _ := by rw [tracedDispatch]; exact of_fails Fails.lift_tooDeep
  route _ _ := by rw [tracedRoute]; exact of_fails Fails.lift_tooDeep
  drainFired _ := by rw [tracedDrainFired]; exact of_fails Fails.lift_tooDeep
  collectOutbox _ _ _ _ _ _ := by
    intro log v log' c' hrun
    rw [tracedCollectOutbox] at hrun
    exact absurd hrun (Fails.lift_tooDeep _ _ _ _ _)

section Succ

variable {prog : Program} {d : Nat} (ih : TalliesAt prog d)
include ih

theorem tallies_applyChanges_succ (changed : List String) (c : Cursor) :
    Tallies [] (tracedApplyChanges prog (d + 1) changed) c := by
  rw [tracedApplyChanges]
  refine bind_self (bind (lift ?_) fun _ c₁ =>
    bind_get (forwardProps ih.updateProps ih.collectOutbox _ c₁))
  rw [exec_writeBindings]
  exact ⟨rfl, rfl, rfl⟩

theorem tallies_updateProps_succ (props : Props) (c : Cursor) :
    Tallies [] (tracedUpdateProps prog (d + 1) props) c := by
  rw [tracedUpdateProps]
  refine bind (lift (Cursor.keepsKeys_ensureMounted c)) fun _ c₁ =>
    bind (lift (.of_modifySelf rfl rfl)) fun _ c₂ => bind_self (bind (lift ?_) fun _ c₃ =>
    ite (ih.requestUpdate _ c₃) (pure _))
  -- taking value props changes values only
  have hkeeps := c₂.self.takeValueProps_keepsKeys props
  exact .of_modifySelf hkeeps.1 hkeeps.2

theorem tallies_requestUpdate_succ (names : List String) (c : Cursor) :
    Tallies [] (tracedRequestUpdate prog (d + 1) names) c := by
  rw [tracedRequestUpdate]
  exact bind (lift (Cursor.keepsKeys_ensureMounted c)) fun _ c₁ =>
    bind (lift (.of_modifySelf rfl rfl)) fun _ c₂ => bind_self (ite (ih.flush c₂) (pure _))

theorem tallies_flush_succ (c : Cursor) : Tallies [] (tracedFlush prog (d + 1)) c := by
  rw [tracedFlush]
  refine bind (lift (.of_modifySelf rfl rfl)) fun _ c₁ => bind_self (attempt_bind
    (repeatPass (passWith ih.applyChanges ih.drainFired) _ c₁)
    (fun _ c₂ => bind (lift (.of_modifySelf rfl rfl)) fun _ c₃ => pure _) fun e => ?_)
  -- a failure of the passes is passed on once the mark is cleared
  exact Fails.bind fun _ => Fails.lift_throw e

theorem tallies_dispatch_succ (key : HandlerKey) (c : Cursor) :
    Tallies [key] (tracedDispatch prog (d + 1) key) c := by
  rw [tracedDispatch]
  refine bind (lift (Cursor.keepsKeys_ensureMounted c)) fun _ c₁ => bind_self ?_
  split
  · -- the key is this instance's: its handler runs here
    rename_i howner
    split
    · exact of_fails (Fails.lift_throw _)
    · exact ran_bind (Cursor.owns_of_owner howner)
        (bind (lift (.of_modifySelf rfl rfl)) fun _ c₂ => ih.requestUpdate _ c₂)
  · -- the key is a nested instance's: the dispatch goes down, then its outbox is routed
    refine bind_get ?_
    split
    · exact of_fails (Fails.lift_throw _)
    · rename_i index hidx
      obtain ⟨hlen, -, -⟩ := List.findIdx?_eq_some_iff_getElem.mp hidx
      exact onChild_collect (List.getElem?_eq_getElem hlen) (ih.dispatch key _)
        (ih.collectOutbox index)

theorem tallies_route_succ (key : HandlerKey) (c : Cursor) :
    Tallies [key] (tracedRoute prog (d + 1) key) c := by
  rw [tracedRoute]
  refine bind_get ?_
  split
  · exact ih.dispatch key c
  · rename_i hnot
    exact toOutbox (Bool.eq_false_iff.mpr hnot)

theorem tallies_drainFired_succ (c : Cursor) : Tallies [] (tracedDrainFired prog (d + 1)) c := by
  rw [tracedDrainFired]
  refine bind (lift (.of_scene _)) fun keys c₁ => handed_bind (perm ?_
    (bind (forIn_keys ih.route keys c₁) fun _ c₂ => pure _))
  simp

theorem tallies_collectOutbox_succ (index : Nat) (c : Cursor) (s : InstanceState)
    (gs : List Instance) (hg : c.children[index]? = some (.node s gs))
    (hset : Cursor.Settled
      { c with children := c.children.set index (.node { s with outbox := [] } gs) }) :
    TalliesFrom s.outbox (tracedCollectOutbox prog (d + 1) index) c := by
  rw [tracedCollectOutbox]
  refine TalliesFrom.bind_get ?_
  simp only [hg]
  -- the nested outbox is emptied, then routed from here
  refine TalliesFrom.set_bind ?_ hset (Cursor.owns_set hg (fun _ => by rfl) c.scene) rfl
  exact perm (.of_eq (List.append_nil _)) (bind (forIn_keys ih.route _ _) fun _ _ => pure _)

end Succ

/-- Every recording operation tallies its keys at every depth bound. -/
theorem talliesAt (prog : Program) (d : Nat) : TalliesAt prog d := by
  induction d with
  | zero => exact talliesAt_zero prog
  | succ d ih =>
    exact {
      applyChanges := tallies_applyChanges_succ ih
      updateProps := tallies_updateProps_succ ih
      requestUpdate := tallies_requestUpdate_succ ih
      flush := tallies_flush_succ ih
      dispatch := tallies_dispatch_succ ih
      route := tallies_route_succ ih
      drainFired := tallies_drainFired_succ ih
      collectOutbox := tallies_collectOutbox_succ ih }

/-- A dispatch that succeeds ran a key of the tree. -/
theorem owns_of_dispatch_ok {prog : Program} {d : Nat} {key : HandlerKey} {c c' : Cursor}
    (h : exec (dispatch prog d key) c = (.ok (), c')) : c.owns key = true := by
  cases d with
  | zero =>
    rw [dispatch] at h
    cases h
  | succ d =>
    rw [dispatch] at h
    obtain ⟨_, c₁, hm, hrest⟩ := Act.exec_bind_ok_inv h
    -- the check of the phase leaves the cursor as it was
    have hc₁ : c₁ = c := by
      have hsnd := Act.exec_ensureMounted_snd c
      rw [hm] at hsnd
      exact hsnd
    rw [hc₁, exec_self_bind] at hrest
    split at hrest
    · -- the key is this instance's
      exact Cursor.owns_of_owner ‹_›
    · -- the key is a nested instance's, found by ownership
      rw [exec_get_bind] at hrest
      split at hrest
      · cases hrest
      · rename_i index hidx
        obtain ⟨hlen, howns, -⟩ := List.findIdx?_eq_some_iff_getElem.mp hidx
        exact Cursor.owns_of_mem (List.getElem_mem hlen) howns

end Instance

/-! ## Updates started by a caller -/

/-- An update a caller starts on an instance: the operations a session runs on one. -/
inductive Update where
  | dispatch (key : HandlerKey)
  | fire (name : String)
  | request (names : List String)
  | updateProps (props : Props)
  | apply (names : List String)

namespace Update

open Instance

/-- The operation an update runs. -/
def run (prog : Program) : Update → Act Unit
  | .dispatch key => Instance.dispatch prog prog.eventDepth key
  | .fire name => Instance.fire prog name
  | .request names => Instance.requestUpdate prog prog.eventDepth names
  | .updateProps props => Instance.updateProps prog prog.eventDepth props
  | .apply names => Instance.apply prog names

/-- The operation an update runs, recording. -/
def traced (prog : Program) : Update → Traced Unit
  | .dispatch key => tracedDispatch prog prog.eventDepth key
  | .fire name => do
    let s ← Traced.lift Act.self
    match s.handlerKey? name with
    | none => Traced.lift (throw (.unknownHandler (name ++ " of <" ++ s.plan.name ++ ">")))
    | some key => tracedDispatch prog prog.eventDepth key
  | .request names => tracedRequestUpdate prog prog.eventDepth names
  | .updateProps props => tracedUpdateProps prog prog.eventDepth props
  | .apply names => do
    Traced.lift Act.ensureMounted
    tracedApplyChanges prog prog.eventDepth (insertNames names [])

/-- The key an update runs itself: the key of a dispatch, or of the handler a fire names. -/
def given (c : Cursor) : Update → List HandlerKey
  | .dispatch key => [key]
  | .fire name => (c.self.handlerKey? name).toList
  | .request _ => []
  | .updateProps _ => []
  | .apply _ => []

theorem erases (prog : Program) (u : Update) : Erases (u.traced prog) (u.run prog) := by
  have h := erasesAt prog prog.eventDepth
  cases u with
  | dispatch key => exact h.dispatch key
  | fire name =>
    refine Erases.bind (.lift _) fun s => ?_
    cases s.handlerKey? name with
    | none => exact .lift _
    | some key => exact h.dispatch key
  | request names => exact h.requestUpdate names
  | updateProps props => exact h.updateProps props
  | apply names => exact Erases.bind (.lift _) fun _ => h.applyChanges _

theorem tallies (prog : Program) (u : Update) (c : Cursor) :
    Traced.Tallies (u.given c) (u.traced prog) c := by
  have h := talliesAt prog prog.eventDepth
  cases u with
  | dispatch key => exact h.dispatch key c
  | fire name =>
    rw [given]
    refine Tallies.bind_self ?_
    cases c.self.handlerKey? name with
    | none => exact Tallies.of_fails (Fails.lift_throw _)
    | some key => exact h.dispatch key c
  | request names => exact h.requestUpdate names c
  | updateProps props => exact h.updateProps props c
  | apply names =>
    exact Tallies.bind (.lift (Cursor.keepsKeys_ensureMounted c)) fun _ c₁ => h.applyChanges _ c₁

/-- The key an update runs itself is a key of the tree when the update succeeds. -/
theorem given_owned (prog : Program) (u : Update) {c c' : Cursor}
    (h : exec (u.run prog) c = (.ok (), c')) : ∀ k ∈ u.given c, c.owns k = true := by
  intro k hk
  cases u with
  | dispatch key =>
    rw [given, List.mem_singleton] at hk
    subst hk
    exact owns_of_dispatch_ok h
  | fire name =>
    -- a fire runs a handler of the instance itself
    rw [given] at hk
    cases hkey : c.self.handlerKey? name with
    | none => simp [hkey] at hk
    | some key =>
      rw [hkey, Option.toList_some, List.mem_singleton] at hk
      subst hk
      obtain ⟨i, -, rfl⟩ := Option.map_eq_some_iff.mp hkey
      exact Cursor.owns_of_owner (by simp)
  | request names => cases hk
  | updateProps props => cases hk
  | apply names => cases hk

end Update

/-- Keys split one for one between those the tree owns and those it does not are the keys it
owns and the keys it does not. -/
theorem List.perm_filter_of_perm_append {α : Type} {p : α → Bool} {X R A : List α}
    (h : X.Perm (R ++ A)) (hR : ∀ x ∈ R, p x = true) (hA : ∀ x ∈ A, p x = false) :
    R.Perm (X.filter p) ∧ A.Perm (X.filter fun x => !p x) := by
  have hRp : R.filter p = R := List.filter_eq_self.mpr hR
  have hAp : A.filter p = [] := List.filter_eq_nil_iff.mpr fun x hx => by simp [hA x hx]
  have hRn : (R.filter fun x => !p x) = [] := List.filter_eq_nil_iff.mpr fun x hx => by simp [hR x hx]
  have hAn : (A.filter fun x => !p x) = A := List.filter_eq_self.mpr fun x hx => by simp [hA x hx]
  constructor
  · have hf := h.filter p
    rw [List.filter_append, hRp, hAp, List.append_nil] at hf
    exact hf.symm
  · have hf := h.filter fun x => !p x
    rw [List.filter_append, hRn, hAn, List.nil_append] at hf
    exact hf.symm

/-- Fired keys are routed once. An update that succeeds from an instance whose nested outboxes
are empty runs as its recording twin does, from the same cursor to the same cursor. Of the keys
the host's queue handed out during it, counted with repeats, those of the tree are the handlers
that ran besides the update's own key, and the others are the keys appended to the instance's
outbox. The nested outboxes are empty again at the end. -/
theorem update_routes_fired_keys_once (prog : Program) (u : Update) {c c' : Cursor}
    (hc : c.Settled) (hrun : exec (u.run prog) c = (.ok (), c')) :
    ∃ events, exec ((u.traced prog).run []) c = (.ok ((), events), c') ∧
      (ranKeys events).Perm (u.given c ++ (handedKeys events).filter c.owns) ∧
      (∃ app, c'.self.outbox = c.self.outbox ++ app ∧
        app.Perm ((handedKeys events).filter fun k => !c.owns k)) ∧
      c'.Settled := by
  have herase := u.erases prog [] c
  rw [hrun] at herase
  obtain ⟨events, htraced⟩ := herase
  obtain ⟨new, hnew, htally⟩ := u.tallies prog c hc [] () events c' htraced
  rw [List.nil_append] at hnew
  subst hnew
  obtain ⟨app, hout, hnot, hperm⟩ := htally.appended
  obtain ⟨hran, happ⟩ := List.perm_filter_of_perm_append hperm htally.ran hnot
  have hgiven := u.given_owned prog hrun
  refine ⟨events, htraced, ?_, ⟨app, hout, ?_⟩, htally.settled⟩
  · rw [List.filter_append, List.filter_eq_self.mpr hgiven] at hran
    exact hran
  · rw [List.filter_append, List.filter_eq_nil_iff.mpr fun k hk => by simp [hgiven k hk],
      List.nil_append] at happ
    exact happ

/-! ## Two instances and the host's queue -/

/-- A component with one handler, which does nothing. -/
def kidPlan : ComponentPlan :=
  { (default : ComponentPlan) with name := "Kid", handlers := [⟨"bump", [], []⟩] }

/-- A component with one handler and one nested `Kid`, which takes no props. -/
def appPlan : ComponentPlan :=
  { (default : ComponentPlan) with
    name := "App", handlers := [⟨"ping", [], []⟩]
    children := [{ var := "kid", component := "Kid", parent := none, props := [] }]
    placements := [.child 0] }

/-- A mounted `App` over a mounted `Kid`, with an outbox of its own, whose host queue holds a key
of each and a key of no instance. -/
def queuedCursor : Cursor :=
  ⟨{ id := 0, plan := appPlan, phase := .mounted },
    [.node { id := 1, plan := kidPlan, phase := .mounted } []],
    ⟨{ fired := [⟨0, 0⟩, ⟨1, 0⟩, ⟨7, 0⟩] }, 2⟩⟩

theorem queued_keys_routed_once :
    let run := exec ((Update.request []).run default) queuedCursor
    queuedCursor.Settled ∧ run = (.ok (), run.2) ∧
    ∃ events, exec (((Update.request []).traced default).run []) queuedCursor =
        (.ok ((), events), run.2) ∧
      (ranKeys events).Perm ((Update.request []).given queuedCursor ++
        (handedKeys events).filter queuedCursor.owns) ∧
      (∃ app, run.2.self.outbox = queuedCursor.self.outbox ++ app ∧
        app.Perm ((handedKeys events).filter fun k => !queuedCursor.owns k)) ∧
      run.2.Settled :=
  have hc : queuedCursor.Settled := fun g hg => by
    rw [List.mem_singleton.mp hg]
    exact .node rfl fun _ h => absurd h List.not_mem_nil
  have hrun := exec_eq_ok_of_toBool _ (by decide +kernel)
  ⟨hc, hrun, update_routes_fired_keys_once default (.request []) hc hrun⟩

/-- The key of no instance is the one the request leaves in the outbox. -/
example : (exec ((Update.request []).run default) queuedCursor).2.self.outbox = [⟨7, 0⟩] := by
  decide +kernel

/-- A mounted `App` over a mounted `Kid` whose outbox still holds a key of `App`: an update of
`Kid` alone, run on it directly, handed the key out and could not route it higher. -/
def staleCursor : Cursor :=
  ⟨{ id := 0, plan := appPlan, phase := .mounted },
    [.node { id := 1, plan := kidPlan, phase := .mounted, outbox := [⟨0, 0⟩] } []],
    ⟨{}, 2⟩⟩

/-- Without empty nested outboxes the routing is not complete: a request of `App` succeeds and
leaves the key in the outbox of `Kid`, since `App` forwards `Kid` no props and so never routes
its outbox; the handler of `App` the key names never runs. -/
theorem stale_outbox_survives_request :
    (exec ((Update.request []).run default) staleCursor).1 = .ok () ∧
    (exec ((Update.request []).run default) staleCursor).2.children.map (·.state.outbox) =
      [[⟨0, 0⟩]] :=
  ⟨congrArg Prod.fst (exec_eq_ok_of_toBool _ (by decide +kernel)), by decide +kernel⟩

end Reactive
