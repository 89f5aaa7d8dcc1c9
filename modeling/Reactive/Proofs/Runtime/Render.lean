import Reactive.Proofs.Runtime.SoundRuns
import Reactive.Proofs.Runtime.MountSound
import Reactive.Proofs.Compose.Coherence
import Reactive.Proofs.Teardown.Restore
import Reactive.Proofs.Volatile.Observe

/-!
# Incremental updates agree with a full render

Mount renders a component in full; after that the runtime never renders again, but recomputes
and rewrites only what changed names reach. This module proves that a session agrees with a full
render after every run of steps from outside, for every program the compiler accepts.

* Mount renders in full (`mount_sound`), and every plan of a compiled program is coherent
  (`compiled_coherent`), so the tree is sound once the root is mounted
  (`Session.start_mount_sound`).
* `Step.Fits`: what the outside does to the mounted root. It may run a handler by name or by key,
  let the host fire an event at a node, hand the root props, rewrite its bindings, request a
  pass, set a state without a pass, read, or install write triggers and foreign subscriptions on
  the host. It tracks the names set and not requested yet; a request must list them all.
* `Session.perform_sound`: each such step that answers keeps the tree sound except where the
  pending names and the names set and not requested reach. The handlers a step runs, the keys the
  host fires on the writes, the outboxes of nested instances and the passes the redrain policy
  adds are all inside `Instance.soundAt`.
* `session_agrees_with_render`: so does every run. After a request the root and every nested
  instance agree with a full render, every derived value with its body and every binding target
  with its expression, except where their own pending names reach.

Two things the compiler does not check are assumed: a written dependency list covers what its
body reads, and no two bindings of a component write one target. Without the second, two
bindings of one attribute take turns: the later write wins however the values change.
-/

namespace Reactive

open Component

/-- What the outside may do to a mounted root, with the names set and not requested before the
step and after it: a state set without a pass adds its name, a request must list every name set
since the last one, and every other step sets nothing from outside. -/
inductive Step.Fits (states : List String) : List String → Step → List String → Prop
  | assign {A : List String} {name : String} (value : Value) :
      name ∈ states → Fits states A (.assign [] name value) (A ++ [name])
  | requestUpdate {A names : List String} :
      (∀ x ∈ A, x ∈ names) → Fits states A (.requestUpdate [] names) []
  | fire (A : List String) (handler : String) : Fits states A (.fire [] handler) A
  | dispatch (A : List String) (key : Option HandlerKey) : Fits states A (.dispatch [] key) A
  | event (A : List String) (node : NodePick) (ev : String) (nth : Nat) :
      Fits states A (.event [] node ev nth) A
  | updateProps (A : List String) (props : List (String × PropInput)) :
      Fits states A (.updateProps [] props) A
  | apply (A names : List String) : Fits states A (.apply [] names) A
  | handlers (A : List String) (node : NodePick) (ev : String) :
      Fits states A (.handlers node ev) A
  | handlerKey (A : List String) (handler : String) : Fits states A (.handlerKey [] handler) A
  | exported (A : List String) : Fits states A (.exported []) A
  | takeUnowned (A : List String) : Fits states A (.takeUnowned []) A
  | fireOnWrite (A : List String) (node : NodePick) (attr ev : String) :
      Fits states A (.fireOnWrite node attr ev) A
  | subscribeForeign (A : List String) (node : NodePick) (ev : String) (key : Option HandlerKey) :
      Fits states A (.subscribeForeign node ev key) A

/-- A run of steps that each fit, the names set and not requested carried from one to the
next. -/
inductive Step.RunFits (states : List String) : List String → List Step → List String → Prop
  | nil (A : List String) : RunFits states A [] A
  | cons {A B C : List String} {st : Step} {sts : List Step} :
      Fits states A st B → RunFits states B sts C → RunFits states A (st :: sts) C

namespace Session

variable {s : Session} {A B : List String}

/-- The tree at the root cursor is the session's tree. -/
theorem rootCursor_soundExcept_iff : s.rootCursor.SoundExcept A ↔ s.root.SoundExcept s.host A := by
  obtain ⟨_, ⟨_, _⟩, _, _⟩ := s
  rfl

/-- An operation that answers at the root ran to a value, and left the session's root cursor. -/
theorem exec_of_runAt_ok {α : Type} {a : Act α} {reply : α → Reply}
    (hok : ∃ r, (s.runAt [] a reply).1.outcome = .ok r) :
    ∃ v, Act.exec a s.rootCursor = (.ok v, (s.runAt [] a reply).2.rootCursor) := by
  obtain ⟨r, hr⟩ := hok
  rw [runAt_root] at hr
  rcases hexec : Act.exec a s.rootCursor with ⟨_ | v, c'⟩
  · simp only [hexec] at hr
    cases hr
  · refine ⟨v, ?_⟩
    rw [runAt_root, hexec]
    rfl

/-- An operation that keeps the tree sound keeps the session's tree sound when it answers at the
root, and keeps the root's plan. -/
theorem runAt_sound {α : Type} {a : Act α} (ha : Act.KeepsSound A B a) (reply : α → Reply)
    (hs : s.rootCursor.SoundExcept A) (hok : ∃ r, (s.runAt [] a reply).1.outcome = .ok r) :
    (s.runAt [] a reply).2.rootCursor.SoundExcept B ∧
      (s.runAt [] a reply).2.root.state.plan = s.root.state.plan := by
  obtain ⟨v, hexec⟩ := exec_of_runAt_ok hok
  obtain ⟨hs', hconf⟩ := ha _ _ v hexec hs
  exact ⟨hs', hconf.plan⟩

/-- A change of the host that keeps its nodes keeps the session's tree sound. -/
theorem onHost_sound {f : Host → Host} (hf : (f s.scene.host).nodes = s.scene.host.nodes)
    (hs : s.rootCursor.SoundExcept A) : (s.onHost f).rootCursor.SoundExcept A :=
  hs.of_host hf

/-- An event step that answers dispatches, at the root, a key the picked node holds, and answers
as that dispatch does. -/
theorem perform_event {node : NodePick} {ev : String} {nth : Nat}
    (hok : ∃ r, (s.perform (.event [] node ev nth)).1.outcome = .ok r) :
    ∃ k, (∃ r, (s.runAt [] (Instance.dispatch s.program s.program.eventDepth k)
        fun _ => .done).1.outcome = .ok r) ∧
      (s.perform (.event [] node ev nth)).2 =
        (s.runAt [] (Instance.dispatch s.program s.program.eventDepth k) fun _ => .done).2 := by
  obtain ⟨r, hr⟩ := hok
  rcases hpick : s.pick? node with _ | n
  · simp only [perform, hpick, missing] at hr
    cases hr
  rcases hkey : (s.host.handlersFor n ev)[nth]? with _ | k
  · simp only [perform, hpick, hkey, missing] at hr
    cases hr
  simp only [perform, hpick, hkey] at hr ⊢
  refine ⟨k, ?_⟩
  generalize s.runAt [] (Instance.dispatch s.program s.program.eventDepth k) (fun _ => .done) = res
    at hr ⊢
  obtain ⟨⟨e | v, _⟩, _⟩ := res
  · cases e <;> simp at hr
  · exact ⟨⟨v, rfl⟩, rfl⟩

/-- One step that fits and answers keeps the tree sound except where the names set and not
requested after it reach, and keeps the root's plan. -/
theorem perform_sound {st : Step}
    (hfits : Step.Fits (s.root.state.plan.states.map (·.name)) A st B)
    (hs : s.rootCursor.SoundExcept A) (hok : ∃ r, (s.perform st).1.outcome = .ok r) :
    (s.perform st).2.rootCursor.SoundExcept B ∧
      (s.perform st).2.root.state.plan = s.root.state.plan := by
  have hd := Instance.soundAt s.program s.program.eventDepth
  cases hfits with
  | assign value hstate => exact ⟨hs.assign hstate value, rfl⟩
  | requestUpdate hcover =>
    -- the request lists every name set since the last one
    have hs' : s.rootCursor.SoundExcept (_ ++ []) :=
      hs.mono fun x hx => List.mem_append_left _ (hcover x hx)
    exact runAt_sound (hd.requestUpdate [] _) _ hs' hok
  | fire handler => exact runAt_sound (Instance.keepsSound_fire _ _ handler) _ hs hok
  | dispatch key =>
    cases key with
    | none =>
      obtain ⟨r, hr⟩ := hok
      cases hr
    | some key => exact runAt_sound (hd.dispatch _ key) _ hs hok
  | event node ev nth =>
    obtain ⟨k, hk, heq⟩ := perform_event hok
    rw [heq]
    exact runAt_sound (hd.dispatch _ k) _ hs hk
  | updateProps props =>
    cases hps : s.resolveProps props with
    | error m =>
      obtain ⟨r, hr⟩ := hok
      simp only [perform, hps, missing] at hr
      cases hr
    | ok ps =>
      simp only [perform, hps] at hok ⊢
      exact runAt_sound (hd.updateProps _ ps) _ hs hok
  | apply names => exact runAt_sound (Instance.keepsSound_apply _ _ names) _ hs hok
  | handlers node ev =>
    have hsame : (s.perform (.handlers node ev)).2 = s := by
      simp only [perform]
      split <;> rfl
    rw [hsame]
    exact ⟨hs, rfl⟩
  | handlerKey handler =>
    exact runAt_sound (.bind .self fun _ => .pure _) _ hs hok
  | exported => exact runAt_sound (.bind .self fun _ => .pure _) _ hs hok
  | takeUnowned => exact runAt_sound (Instance.keepsSound_takeUnowned _) _ hs hok
  | fireOnWrite node attr ev =>
    simp only [perform]
    split
    · exact ⟨hs, rfl⟩
    · -- a write trigger is new host state beside the nodes
      refine ⟨onHost_sound ?_ hs, rfl⟩
      unfold Host.fireOnWrite
      dsimp only
      split <;> rfl
  | subscribeForeign node ev key =>
    simp only [perform]
    split
    · exact ⟨hs, rfl⟩
    · exact ⟨hs, rfl⟩
    · exact ⟨onHost_sound rfl hs, rfl⟩

/-- Every run of steps that fit and answer keeps the tree sound except where the names set and
not requested at its end reach, and keeps the root's plan. -/
theorem performAll_sound {states : List String} {sts : List Step}
    (hfits : Step.RunFits states A sts B) :
    ∀ {s s' : Session}, s.root.state.plan.states.map (·.name) = states →
      s.rootCursor.SoundExcept A → s.performAll sts = some s' → s'.rootCursor.SoundExcept B := by
  -- the run lemma: one step at a time, each by `perform_sound`, the plan carried along
  induction hfits with
  | nil A =>
    intro s s' _ hs hrun
    cases hrun
    exact hs
  | cons hstep _ ih =>
    intro s s' hstates hs hrun
    subst hstates
    obtain ⟨hok, hrest⟩ := performAll_cons hrun
    obtain ⟨hs₁, hplan₁⟩ := perform_sound hstep hs hok
    exact ih (by rw [hplan₁]) hs₁ hrest

/-- A session starts from a fresh root instance of a plan its program finds. -/
theorem start_ok {prog : Program} {name : String} (h : Session.start prog name = .ok s) :
    ∃ plan, prog.find? name = some plan ∧ s.program = prog ∧ s.root = Instance.fresh 0 plan := by
  unfold Session.start at h
  split at h
  · cases h
  · rename_i plan hfind
    cases h
    exact ⟨plan, hfind, rfl, rfl⟩

/-- Mounting the fresh root of a session whose program's plans are coherent renders it in full:
the tree is sound with nothing set and not requested, and the root keeps its plan. -/
theorem start_mount_sound {prog : Program} {name : String}
    (hprog : ∀ p ∈ prog.plans, p.Coherent) (hstart : Session.start prog name = .ok s)
    {props : List (String × PropInput)}
    (hok : ∃ r, (s.perform (.mount [] props)).1.outcome = .ok r) :
    (s.perform (.mount [] props)).2.rootCursor.SoundExcept [] ∧
      (s.perform (.mount [] props)).2.root.state.plan = s.root.state.plan := by
  obtain ⟨plan, hfind, rfl, hroot⟩ := start_ok hstart
  have hp : plan.Coherent := hprog plan (Program.find?_some hfind).1
  obtain ⟨r, hr⟩ := hok
  cases hps : s.resolveProps props with
  | error m =>
    simp only [perform, hps, missing] at hr
    cases hr
  | ok ps =>
    simp only [perform, hps] at hr ⊢
    obtain ⟨v, hexec⟩ := exec_of_runAt_ok ⟨r, hr⟩
    have hcur : s.rootCursor = ⟨{ id := 0, plan }, [], s.scene⟩ := by
      simp only [rootCursor, hroot, Instance.fresh, Instance.state, Instance.children]
    rw [hcur] at hexec
    -- mount renders the fresh root in full, over whatever host the session holds
    obtain ⟨hplan', -, hn⟩ := Instance.mount_sound hprog _ 0 plan _ ps _ _ hp hexec
    refine ⟨Instance.soundExcept_nil_iff.mpr (hn.sound _ (List.mem_singleton_self _)), ?_⟩
    rw [hroot]
    exact hplan'

end Session

/-- For every program the compiler accepts, every session mounted at its root agrees with a full
render after every run of steps from outside that answer: the root and every nested instance
are sound, except where the root's pending names and the names set and not requested yet reach.
So after a request for every name set, each instance agrees with a full render up to its own
pending names. Assumed: written dependency lists cover what their bodies read, and no two
bindings of a component write one target. -/
theorem session_agrees_with_render {cs : List ComponentSource} {o : CompileOptions}
    {rs : List CompileResult} (hcompile : compileProgram cs o = .ok rs)
    (hann : ∀ c ∈ cs, c.AnnotationsCover)
    (htargets : ∀ p ∈ rs.map (·.plan), (p.bindings.map fun b => (b.node, b.target)).Nodup)
    {name : String} {s s' : Session}
    (hstart : Session.start ⟨rs.map (·.plan), o.runtime⟩ name = .ok s)
    {props : List (String × PropInput)} {steps : List Step} {A : List String}
    (hfits : Step.RunFits (s.root.state.plan.states.map (·.name)) [] steps A)
    (hrun : s.performAll (.mount [] props :: steps) = some s') :
    s'.root.SoundExcept s'.host A := by
  obtain ⟨hmount, hrest⟩ := Session.performAll_cons hrun
  obtain ⟨hs₁, hplan₁⟩ :=
    Session.start_mount_sound (compiled_coherent hcompile hann htargets) hstart hmount
  rw [← Session.rootCursor_soundExcept_iff]
  exact Session.performAll_sound hfits (by rw [hplan₁]) hs₁ hrest

/-- A counter whose button bumps a count that a nested badge shows, mounted, clicked through the
host, set from outside and then requested: its session agrees with a full render. -/
theorem counter_session_agrees_with_render :
    ∃ rs s s', compileProgram counterSources {} = .ok rs ∧
      Session.start ⟨rs.map (·.plan), ({} : CompileOptions).runtime⟩ "Counter" = .ok s ∧
      s.performAll [.mount [] [], .event [] ⟨"button", 0⟩ "click" 0,
        .assign [] "count" (.number 5), .requestUpdate [] ["count"]] = some s' ∧
      s'.root.SoundExcept s'.host [] := by
  have hrun : ((compileProgram counterSources {}).toOption.bind fun rs =>
      (Session.start ⟨rs.map (·.plan), ({} : CompileOptions).runtime⟩ "Counter").toOption.map
        fun s => (s.root.state.plan.states.map (·.name) == ["count"]) &&
          (s.performAll [.mount [] [], .event [] ⟨"button", 0⟩ "click" 0,
            .assign [] "count" (.number 5), .requestUpdate [] ["count"]]).isSome &&
          (rs.map (·.plan)).all fun p => decide (p.bindings.map (·.node)).Nodup) = some true := by
    decide +kernel
  cases hc : compileProgram counterSources {} with
  | error e => simp [hc, Except.toOption] at hrun
  | ok rs =>
    cases hs : Session.start ⟨rs.map (·.plan), ({} : CompileOptions).runtime⟩ "Counter" with
    | error e => simp [hc, hs, Except.toOption] at hrun
    | ok s =>
      simp only [hc, hs, Except.toOption, Option.bind_some, Option.map_some, Option.some.injEq,
        Bool.and_eq_true, beq_iff_eq, List.all_eq_true, decide_eq_true_eq] at hrun
      obtain ⟨⟨hstates, hsome⟩, hnodes⟩ := hrun
      obtain ⟨s', hs'⟩ := Option.isSome_iff_exists.mp hsome
      refine ⟨rs, s, s', rfl, hs, hs', session_agrees_with_render hc ?_ ?_ hs ?_ hs'⟩
      · -- neither component declares a derived value
        intro c hmem d hd
        simp only [counterSources, List.mem_cons, List.not_mem_nil, or_false] at hmem
        rcases hmem with rfl | rfl <;> cases hd
      · -- the bindings of each plan sit on distinct nodes
        intro p hp
        refine List.Nodup.of_map Prod.fst ?_
        rw [List.map_map]
        exact hnodes p hp
      · rw [hstates]
        exact .cons (.event _ _ _ _) (.cons (.assign _ (List.mem_singleton_self _))
          (.cons (.requestUpdate (by simp)) (.nil _)))

end Reactive
