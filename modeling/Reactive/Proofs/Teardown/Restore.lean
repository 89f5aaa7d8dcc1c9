import Reactive.Proofs.Teardown.MountEffect
import Reactive.Proofs.Teardown.Unmount

/-!
# Mount, then teardown, restores the host

A session mounts a fresh root instance into its container, then runs steps that add no host node
and no subscription of their own: dispatches, events, updates, props, reads and unmounts of
instances of the tree. Over the whole run the footprints of the tree stay placed over the host as
it was before the mount (`Session.Placed`): the mount places them (`Session.Placed.of_mount`),
every other step only writes (`Act.KeepsOutline`) or releases footprints
(`Instance.unmountReleases`), and under the recursive policy no mounted instance lies under an
unmounted one.

Once no instance is mounted, which the recursive policy guarantees after the root's unmount, the
container holds exactly the children it held before, the live subscriptions are those from
before, and the appends and removes logged for the container balance
(`teardown_restores_host`).
-/

namespace Reactive

open Component Footprint Act

/-- A step that adds no host node and no subscription of its own: any step but a mount and a
subscription made from outside the tree. -/
def Step.AddsNothing : Step → Prop
  | .mount .. => False
  | .subscribeForeign .. => False
  | _ => True

namespace Session

/-- Performs steps in order while each answers with a reply: the session after the last, or
nothing once one fails. -/
def performAll (s : Session) : List Step → Option Session
  | [] => some s
  | st :: sts =>
    match s.perform st with
    | (⟨.ok _, _⟩, s₁) => s₁.performAll sts
    | _ => none

theorem performAll_cons {s s' : Session} {st : Step} {sts : List Step}
    (h : s.performAll (st :: sts) = some s') :
    (∃ r, (s.perform st).1.outcome = .ok r) ∧ (s.perform st).2.performAll sts = some s' := by
  unfold performAll at h
  split at h
  · rename_i r _ s₁ hperform
    rw [hperform]
    exact ⟨⟨r, rfl⟩, h⟩
  · cases h

theorem performAll_append {s s' : Session} :
    ∀ {sts sts' : List Step}, s.performAll (sts ++ sts') = some s' →
      ∃ s₁, s.performAll sts = some s₁ ∧ s₁.performAll sts' = some s'
  | [], _, h => ⟨s, rfl, h⟩
  | st :: sts, sts', h => by
    obtain ⟨⟨r, hr⟩, hrest⟩ := performAll_cons h
    obtain ⟨s₁, h₁, h₂⟩ := performAll_append (s := (s.perform st).2) hrest
    refine ⟨s₁, ?_, h₂⟩
    unfold performAll
    rcases hp : s.perform st with ⟨⟨outcome, k⟩, s₀⟩
    rw [hp] at hr h₁
    dsimp only at hr h₁
    subst hr
    exact h₁

/-- The teardown invariant of a session: the footprints of its tree are placed over the host as
it was, and under the recursive policy no mounted instance lies under an unmounted one. -/
structure Placed (b : Baseline) (s : Session) : Prop where
  placed : Reactive.Placed b s.root.outline.footprints s.host
  closed : s.program.options.teardown = .recursive → s.root.outline.Closed

theorem runAt_program {α : Type} (s : Session) (path : List Nat) (a : Act α) (reply : α → Reply) :
    (s.runAt path a reply).2.program = s.program := by
  unfold runAt
  split <;> rfl

theorem perform_program (s : Session) (st : Step) : (s.perform st).2.program = s.program := by
  cases st <;> simp only [perform] <;> (repeat' split) <;>
    simp only [runAt_program, missing, onHost]

theorem performAll_program {s s' : Session} :
    ∀ {sts : List Step}, s.performAll sts = some s' → s'.program = s.program
  | [], h => by cases h; rfl
  | st :: _, h => by
    obtain ⟨-, hrest⟩ := performAll_cons h
    exact (performAll_program hrest).trans (perform_program s st)

variable {b : Baseline} {s : Session}

/-- An operation that keeps the outline and only writes, run at any path, keeps the invariant. -/
theorem Placed.runAt_keeps {α : Type} {a : Act α} (ha : KeepsOutline a) (hs : s.Placed b)
    (path : List Nat) (reply : α → Reply) : (s.runAt path a reply).2.Placed b := by
  unfold runAt
  cases hrun : runAtPath a path s.root s.scene with
  | none => exact hs
  | some res =>
    obtain ⟨r, root, scene⟩ := res
    obtain ⟨houtline, hw⟩ := runAtPath_keeps ha hrun
    exact ⟨by rw [houtline]; exact hs.placed.of_onlyWrites hw, fun hrec => houtline ▸ hs.closed hrec⟩

/-- An unmount that succeeds at any path keeps the invariant, and under the recursive policy
the root's unmount leaves no instance of the tree mounted. -/
theorem Placed.runAt_unmount (hs : s.Placed b) {path : List Nat} {reply : Unit → Reply}
    {r : Reply} (hok : (s.runAt path (Instance.unmount s.program s.program.mountDepth) reply).1.outcome = .ok r) :
    (s.runAt path (Instance.unmount s.program s.program.mountDepth) reply).2.Placed b ∧
      (path = [] → s.program.options.teardown = .recursive →
        Instance.AllUnmounted (s.runAt path (Instance.unmount s.program s.program.mountDepth) reply).2.root) := by
  unfold runAt at hok ⊢
  cases hrun : runAtPath (Instance.unmount s.program s.program.mountDepth) path s.root s.scene with
  | none => rw [hrun] at hok; cases hok
  | some res =>
    obtain ⟨r₀, root, scene⟩ := res
    rw [hrun] at hok
    rw [runAtPath_eq] at hrun
    obtain ⟨g, hat, hres⟩ := Option.map_eq_some_iff.mp hrun
    simp only [Instance.runOn_eq, Prod.mk.injEq] at hres
    obtain ⟨hr₀, rfl, rfl⟩ := hres
    -- the unmount of the instance at the path succeeded
    have hunmount : exec (Instance.unmount s.program s.program.mountDepth) ⟨g.state, g.children, s.scene⟩ =
        (.ok (), (exec (Instance.unmount s.program s.program.mountDepth)
          ⟨g.state, g.children, s.scene⟩).2) := by
      revert hok hr₀
      rcases exec (Instance.unmount s.program s.program.mountDepth) ⟨g.state, g.children, s.scene⟩
        with ⟨r₁, c₁⟩
      cases r₁ with
      | ok u => exact fun _ _ => rfl
      | error e => intro hr₀ hok; subst hr₀; cases hok
    obtain ⟨hmounted, -, hrel, hclosed⟩ := Instance.unmountReleases _ _ _ _ hunmount
    have hg : g = .node g.state g.children := by cases g; rfl
    obtain ⟨A, B, hfps, hset⟩ := Instance.footprints_setAt path s.root g hat
    -- under the recursive policy the unmounted subtree has nothing mounted
    have hgone : s.program.options.teardown = .recursive →
        Instance.AllUnmounted (.node (exec (Instance.unmount s.program s.program.mountDepth)
          ⟨g.state, g.children, s.scene⟩).2.self (exec (Instance.unmount s.program
          s.program.mountDepth) ⟨g.state, g.children, s.scene⟩).2.children) := fun hrec =>
      hclosed hrec (hg ▸ Instance.closed_of_at path s.root g hat (hs.closed hrec))
    refine ⟨⟨?_, fun hrec => ?_⟩, fun hpath hrec => ?_⟩
    · show Reactive.Placed b (s.root.setAt path _).outline.footprints _
      have hplaced := hs.placed
      rw [hfps, hg] at hplaced
      rw [hset]
      exact hrel b A B hplaced
    · exact Instance.closed_setAt path s.root g _ hat hmounted (hs.closed hrec)
        (Outline.closed_of_unmounted _ (hgone hrec))
    · subst hpath
      exact hgone hrec

/-- Mounting a fresh root instance, from the host as it was, places the tree's footprints. -/
theorem Placed.of_mount {id : Nat} {plan : ComponentPlan} {props : List (String × PropInput)}
    (hroot : s.root = Instance.fresh id plan)
    (hchildren : s.host.childrenOf b.container = some b.children) (hlive : s.host.live = b.live)
    (hcalls : s.host.calls = b.calls) (hlast : s.host.lastId = b.lastId)
    (hok : ∃ r, (s.perform (.mount [] props)).1.outcome = .ok r) :
    (s.perform (.mount [] props)).2.Placed b := by
  obtain ⟨r, hr⟩ := hok
  cases hps : s.resolveProps props with
  | error m => simp only [perform, hps, missing] at hr; cases hr
  | ok ps =>
    simp only [perform, hps, runAt, runAtPath, hroot, Instance.fresh, Instance.runOn_eq,
      Instance.state, Instance.children] at hr ⊢
    generalize he : exec (Instance.mount s.program s.program.mountDepth s.container ps)
      ⟨{ id, plan }, [], s.scene⟩ = res at hr ⊢
    obtain ⟨_ | u, c'⟩ := res
    · cases hr
    · obtain ⟨hfps, hgrow⟩ := Instance.mountGrows _ _ id plan s.container ps s.scene c' he
      rw [show s.scene.host.lastId = b.lastId from hlast] at hfps
      exact ⟨.of_grows hgrow hchildren hlive hcalls hlast hfps,
        fun _ => Outline.closed_of_mounted _ fun fp hfp => (hfps fp hfp).1⟩

/-- Every step that adds nothing of its own keeps the invariant, when it answers with a reply. -/
theorem Placed.perform (hs : s.Placed b) {st : Step} (hst : st.AddsNothing)
    (hok : ∃ r, (s.perform st).1.outcome = .ok r) : (s.perform st).2.Placed b := by
  cases st with
  | mount => exact hst.elim
  | subscribeForeign => exact hst.elim
  | fire path h => exact hs.runAt_keeps (Instance.keeps_fire _ _) _ _
  | dispatch path k =>
    cases k with
    | none => exact hs
    | some k => exact hs.runAt_keeps ((Instance.keepsAt _ _).dispatch k) _ _
  | event path p ev nth =>
    simp only [Session.perform]
    split
    · exact hs
    · split
      · exact hs
      · -- the dispatch of the subscribed key
        split <;> exact hs.runAt_keeps ((Instance.keepsAt _ _).dispatch _) _ _
  | handlers p ev =>
    simp only [Session.perform]
    split <;> exact hs
  | handlerKey path h => exact hs.runAt_keeps (.bind .self fun _ => .pure _) _ _
  | assign path n v => exact hs.runAt_keeps (Instance.keeps_assign _ _) _ _
  | requestUpdate path ns => exact hs.runAt_keeps ((Instance.keepsAt _ _).requestUpdate _) _ _
  | apply path ns => exact hs.runAt_keeps (Instance.keeps_apply _ _) _ _
  | updateProps path props =>
    simp only [Session.perform]
    split
    · exact hs
    · exact hs.runAt_keeps ((Instance.keepsAt _ _).updateProps _) _ _
  | unmount path =>
    obtain ⟨r, hr⟩ := hok
    exact (hs.runAt_unmount hr).1
  | exported path => exact hs.runAt_keeps (.bind .self fun _ => .pure _) _ _
  | takeUnowned path => exact hs.runAt_keeps Instance.keeps_takeUnowned _ _
  | fireOnWrite p attr ev =>
    simp only [Session.perform]
    split
    · exact hs
    · exact ⟨hs.placed.of_onlyWrites (Host.OnlyWrites.fireOnWrite _ _ _ _), hs.closed⟩
  | unknown op => exact hs

/-- A run of steps that add nothing of their own, each answering with a reply, keeps the
invariant. -/
theorem Placed.performAll {sts : List Step} (hsts : ∀ st ∈ sts, st.AddsNothing) :
    ∀ {s s' : Session}, s.Placed b → s.performAll sts = some s' → s'.Placed b := by
  induction sts with
  | nil => intro s s' hs h; cases h; exact hs
  | cons st sts ih =>
    intro s s' hs h
    obtain ⟨hok, hrest⟩ := performAll_cons h
    exact ih (fun st' h' => hsts st' (List.mem_cons_of_mem _ h'))
      (hs.perform (hsts st List.mem_cons_self) hok) hrest

end Session

/-- Mount, then teardown, restores the host. A fresh root instance is mounted into a container
whose children `L`, like every live subscription, were handed out before the host's last number;
then steps that add no host node and no subscription of their own run, each answering with a
reply. Once the last step is the root's unmount under the recursive policy, or once no instance
of the tree is mounted under either policy, the container holds exactly `L` again, the live
subscriptions are exactly those from before, no instance of the tree is mounted, and the appends
to the container and the removes from it logged since balance. -/
theorem teardown_restores_host {s s' : Session} {id : Nat} {plan : ComponentPlan}
    {props : List (String × PropInput)} {steps : List Step} {L : List Nat}
    (hroot : s.root = Instance.fresh id plan)
    (hcont : 0 < s.container ∧ s.container ≤ s.host.lastId)
    (hchildren : s.host.childrenOf s.container = some L)
    (hL : ∀ y ∈ L, 0 < y ∧ y ≤ s.host.lastId) (hlive : ∀ x ∈ s.host.live, x.id ≤ s.host.lastId)
    (hsteps : ∀ st ∈ steps, st.AddsNothing)
    (hrun : s.performAll (.mount [] props :: steps) = some s')
    (hend : (s.program.options.teardown = .recursive ∧ steps.getLast? = some (.unmount [])) ∨
      Instance.AllUnmounted s'.root) :
    s'.host.childrenOf s.container = some L ∧ s'.host.live = s.host.live ∧
      Instance.AllUnmounted s'.root ∧
      ∃ log, s'.host.calls = s.host.calls ++ log ∧
        log.countP (HostCall.appendsTo s.container) = log.countP (HostCall.removesFrom s.container) := by
  let b : Baseline := ⟨s.container, s.host.lastId, L, s.host.live, s.host.calls, hcont.1, hcont.2,
    hL, hlive⟩
  obtain ⟨hmount, hrest⟩ := Session.performAll_cons hrun
  have hmounted : (s.perform (.mount [] props)).2.Placed b :=
    Session.Placed.of_mount hroot hchildren rfl rfl rfl hmount
  have hplaced : s'.Placed b := hmounted.performAll hsteps hrest
  -- under the recursive policy the root's unmount, the last step, leaves nothing mounted
  have hall : Instance.AllUnmounted s'.root := by
    rcases hend with ⟨hrec, hlast⟩ | hall
    · obtain ⟨init, rfl⟩ := List.getLast?_eq_some_iff.mp hlast
      obtain ⟨s₁, h₁, h₂⟩ := Session.performAll_append hrest
      have hs₁ : s₁.Placed b :=
        hmounted.performAll (fun st hst => hsteps st (List.mem_append_left _ hst)) h₁
      have hprog : s₁.program = s.program :=
        (Session.performAll_program h₁).trans (Session.perform_program s _)
      obtain ⟨⟨r, hr⟩, hlast⟩ := Session.performAll_cons h₂
      cases hlast
      exact (hs₁.runAt_unmount hr).2 rfl (hprog ▸ hrec)
    · exact hall
  obtain ⟨hch, hlv, hlog⟩ := hplaced.placed.restored hall
  exact ⟨hch, hlv, hall, hlog⟩

/-- A button that subscribes its one element to clicks, run by a handler that does nothing. -/
def buttonPlan : ComponentPlan where
  name := "Button"
  states := []
  derived := []
  nodes := [⟨"button_1", .element "button" [], none⟩]
  bindings := []
  events := [⟨0, "click", .handler 0⟩]
  handlers := [⟨"press", [], []⟩]
  children := []
  placements := [.node 0]
  props := []
  callbacks := []

/-- A session of a fresh button over a fresh host and its container. -/
def buttonSession : Session where
  program := ⟨[buttonPlan], {}⟩
  root := Instance.fresh 0 buttonPlan
  scene := ⟨Host.withContainer.2, 1⟩
  container := Host.withContainer.1

/-- Mounting the button, pressing it and unmounting it leaves the container empty, no
subscription live and the button unmounted, with one append and one remove. -/
theorem button_teardown_restores :
    ∃ s', buttonSession.performAll [.mount [] [], .fire [] "press", .unmount []] = some s' ∧
      s'.host.childrenOf 1 = some [] ∧ s'.host.live = [] ∧ Instance.AllUnmounted s'.root ∧
      ∃ log, s'.host.calls = [] ++ log ∧
        log.countP (HostCall.appendsTo 1) = log.countP (HostCall.removesFrom 1) := by
  obtain ⟨s', hrun⟩ := Option.isSome_iff_exists.mp
    (show (buttonSession.performAll [.mount [] [], .fire [] "press", .unmount []]).isSome = true
      by decide +kernel)
  exact ⟨s', hrun, teardown_restores_host (s := buttonSession) (L := []) rfl (by decide) rfl (fun _ h => nomatch h)
    (fun x h => absurd (show x ∈ [] from h) List.not_mem_nil) (by simp [Step.AddsNothing]) hrun
    (.inl ⟨rfl, rfl⟩)⟩

end Reactive
