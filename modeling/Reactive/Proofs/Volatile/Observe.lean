import Reactive.Proofs.Volatile.Run
import Reactive.Session.Basic

/-!
# Update code that is not reactive cannot be observed

A session drives its root instance through steps. After mount, the steps that drive it are the
handlers run by name or by key, the events the host fires at subscribed keys or on attribute
writes, and the props a parent gives (`Step.Trigger`). `Session.reactiveRoot` is the session whose
root instance holds only the reactive part of its plan: no update code for the derived steps,
bindings and props the plan does not mark reactive.

`performEach_reactiveRoot` says that, from a volatile-sound root, performing any such steps on
the reactive root gives the same answers and the same host, and ends in the reactive root of the
same session. `volatile_analysis_sound` states it for every plan the compiler produces, with the
names that can change after mount being the least set closed under the analysis's rules.
-/

namespace Reactive

open Component

/-- The instance holding only the part of its plan that update code keeps; the nested instances
are their own. -/
def Instance.reactivePart (i : Instance) : Instance := .node i.state.reactivePart i.children

/-- The steps that drive a root instance after mount. -/
inductive Step.Trigger : Step → Prop
  | fire (handler : String) : Step.Trigger (.fire [] handler)
  | dispatch (key : Option HandlerKey) : Step.Trigger (.dispatch [] key)
  | event (node : NodePick) (event : String) (nth : Nat) : Step.Trigger (.event [] node event nth)
  | fireOnWrite (node : NodePick) (attr event : String) :
      Step.Trigger (.fireOnWrite node attr event)
  | updateProps (props : List (String × PropInput)) : Step.Trigger (.updateProps [] props)

namespace Session

/-- The session whose root instance holds only the reactive part of its plan. -/
def reactiveRoot (s : Session) : Session := { s with root := s.root.reactivePart }

/-- The cursor an operation on the root instance starts from. -/
def rootCursor (s : Session) : Cursor := ⟨s.root.state, s.root.children, s.scene⟩

/-- Performs steps in order, each with a fresh call log: the answers and the last session. -/
def performEach (s : Session) : List Step → List StepAnswer × Session
  | [] => ([], s)
  | st :: sts =>
    let (a, s₁) := s.step st
    let (as, s₂) := s₁.performEach sts
    (a :: as, s₂)

variable {V : List String} {s : Session}

@[simp]
theorem reactiveRoot_program (s : Session) : s.reactiveRoot.program = s.program := rfl

@[simp]
theorem reactiveRoot_host (s : Session) : s.reactiveRoot.host = s.host := rfl

theorem rootCursor_reactiveRoot (s : Session) :
    s.reactiveRoot.rootCursor = s.rootCursor.reactivePart := rfl

theorem pick?_reactiveRoot (s : Session) (p : NodePick) : s.reactiveRoot.pick? p = s.pick? p := rfl

/-- Props are resolved through the root's handlers, which the reactive part keeps. -/
theorem resolveProps_reactiveRoot (s : Session) (props : List (String × PropInput)) :
    s.reactiveRoot.resolveProps props = s.resolveProps props := rfl

theorem onHost_reactiveRoot (s : Session) (f : Host → Host) :
    s.reactiveRoot.onHost f = (s.onHost f).reactiveRoot := rfl

theorem missing_reactiveRoot (s : Session) (message : String) :
    s.reactiveRoot.missing message = ((s.missing message).1, (s.missing message).2.reactiveRoot) :=
  rfl

/-- An operation on the root is the operation on the root cursor. -/
theorem runAt_root {α : Type} (a : Act α) (reply : α → Reply) :
    s.runAt [] a reply =
      (⟨match (Act.exec a s.rootCursor).1 with
          | .ok v => .ok (reply v)
          | .error e => .error (.instance e), none⟩,
        { s with root := .node (Act.exec a s.rootCursor).2.self (Act.exec a s.rootCursor).2.children
                 scene := (Act.exec a s.rootCursor).2.scene }) := rfl

/-- An operation alike on the reactive part of the root cursor answers the same on the reactive
root, and ends in the reactive root of the same session. -/
theorem runAt_reactiveRoot {α : Type} {a : Act α} (ha : Act.AlikeAt V a s.rootCursor)
    (reply : α → Reply) :
    s.reactiveRoot.runAt [] a reply =
        ((s.runAt [] a reply).1, (s.runAt [] a reply).2.reactiveRoot) ∧
      (s.runAt [] a reply).2.root.state.Volatile V := by
  refine ⟨?_, ha.2⟩
  rw [runAt_root, runAt_root, rootCursor_reactiveRoot, ha.1]
  rfl

/-- One step that drives the root, from a volatile-sound root: the same answer, the reactive root
of the same session, and a root that is still volatile-sound. -/
theorem perform_reactiveRoot {st : Step} (hst : st.Trigger) (hs : s.root.state.Volatile V) :
    s.reactiveRoot.perform st = ((s.perform st).1, (s.perform st).2.reactiveRoot) ∧
      (s.perform st).2.root.state.Volatile V := by
  have hV := Instance.runsAlikeAt s.program V s.program.eventDepth
  cases hst with
  | fire handler => exact runAt_reactiveRoot (Instance.runsAlike_fire s.program V handler _ hs) _
  | dispatch key =>
    cases key with
    | none => exact ⟨missing_reactiveRoot s _, hs⟩
    | some key => exact runAt_reactiveRoot (hV.dispatch key _ hs) _
  | event node event nth =>
    -- the node and the key are read off the host, which the reactive root shares
    simp only [perform, pick?_reactiveRoot, reactiveRoot_host, reactiveRoot_program]
    rcases s.pick? node with _ | n
    · exact ⟨missing_reactiveRoot s _, hs⟩
    dsimp only
    rcases (s.host.handlersFor n event)[nth]? with _ | key
    · exact ⟨missing_reactiveRoot s _, hs⟩
    obtain ⟨hrun, hvol⟩ := runAt_reactiveRoot (s := s) (hV.dispatch key _ hs) fun _ => Reply.done
    dsimp only
    rw [hrun]
    generalize s.runAt [] (Instance.dispatch s.program s.program.eventDepth key) _ = r at hvol ⊢
    -- the answer, whichever it is, is the same on both sides
    rcases r with ⟨⟨(_ | _) | _, _⟩, _⟩ <;> exact ⟨rfl, hvol⟩
  | fireOnWrite node attr event =>
    simp only [perform, pick?_reactiveRoot]
    cases s.pick? node with
    | none => exact ⟨missing_reactiveRoot s _, hs⟩
    | some n => exact ⟨rfl, hs⟩
  | updateProps props =>
    simp only [perform, resolveProps_reactiveRoot, reactiveRoot_program]
    cases s.resolveProps props with
    | error m => exact ⟨missing_reactiveRoot s _, hs⟩
    | ok props => exact runAt_reactiveRoot (hV.updateProps props _ hs) _

/-- Steps that drive the root, from a volatile-sound root: the same answers, and the reactive root
of the same last session, whose root is still volatile-sound. The induction is on the steps, with
the root volatile-sound before each. -/
theorem performEach_reactiveRoot {sts : List Step} (hsts : ∀ st ∈ sts, st.Trigger)
    (hs : s.root.state.Volatile V) :
    s.reactiveRoot.performEach sts =
        ((s.performEach sts).1, (s.performEach sts).2.reactiveRoot) ∧
      (s.performEach sts).2.root.state.Volatile V := by
  induction sts generalizing s with
  | nil => exact ⟨rfl, hs⟩
  | cons st sts ih =>
    -- clearing the call log leaves the root as it is
    have hclear : (s.onHost Host.clearCalls).root.state.Volatile V := hs
    obtain ⟨hstep, hvol⟩ := perform_reactiveRoot (hsts st List.mem_cons_self) hclear
    obtain ⟨hrest, hend⟩ :=
      ih (s := (s.step st).2) (fun st' h => hsts st' (List.mem_cons_of_mem st h)) hvol
    refine ⟨?_, hend⟩
    rw [performEach, performEach, step, step, onHost_reactiveRoot, hstep]
    dsimp only
    rw [← step, hrest]

end Session

/-- The analysis of which names can change after mount is sound for every plan the compiler
produces. The names are the least set holding what handlers write and the props, and holding a
derived step once it holds one of its dependencies; the plan's reactive flags agree with them. For
every session whose root instance runs the plan with only such names pending, performing any steps
that drive the root on the session whose root drops the update code of whatever is not marked
reactive gives the same answers, the same host and the same instances, and leaves only such names
pending: that update code never runs. -/
theorem volatile_analysis_sound {src : ComponentSource} {plan : ComponentPlan}
    (h : planComponent src = .ok plan) :
    ∃ m, Model.build src (Scope.ofSource src) = .ok m ∧
      (∀ x, x ∈ volatileNames m ↔ m.Volatile x) ∧ plan.VolatileSound (volatileNames m) ∧
      ∀ (s : Session) (steps : List Step), s.root.state.plan = plan →
        (∀ x ∈ s.root.state.pending, x ∈ volatileNames m) → (∀ st ∈ steps, st.Trigger) →
        s.reactiveRoot.performEach steps =
            ((s.performEach steps).1, (s.performEach steps).2.reactiveRoot) ∧
          ∀ x ∈ (s.performEach steps).2.root.state.pending, x ∈ volatileNames m := by
  obtain ⟨m, hbuild, hsound⟩ := planComponent_volatileSound h
  refine ⟨m, hbuild, mem_volatileNames m, hsound, fun s steps hplan hpending hsteps => ?_⟩
  have hs : s.root.state.Volatile (volatileNames m) := ⟨hplan ▸ hsound, hpending⟩
  obtain ⟨hrun, hend⟩ := Session.performEach_reactiveRoot hsteps hs
  exact ⟨hrun, hend.pending⟩

/-- A counter whose title reads only a state no handler writes. -/
def tallySource : ComponentSource where
  name := "Tally"
  filePath := "src/Tally.comp"
  states := [⟨"count", "0"⟩, ⟨"label", "'tally'"⟩]
  derived := [⟨"double", "count * 2", none⟩, ⟨"title", "label + '!'", none⟩]
  handlers := [⟨"increment", "count++"⟩]
  props := []
  callbacks := []
  nodes := [.element "button" [⟨"title", .dynamic "title"⟩] [⟨"click", "increment"⟩]
    [.expression "double"]]

theorem tally_volatile_analysis_sound :
    ∃ plan, planComponent tallySource = .ok plan ∧
      ∃ m, Model.build tallySource (Scope.ofSource tallySource) = .ok m ∧
        (∀ x, x ∈ volatileNames m ↔ m.Volatile x) ∧ plan.VolatileSound (volatileNames m) ∧
        ∀ (s : Session) (steps : List Step), s.root.state.plan = plan →
          (∀ x ∈ s.root.state.pending, x ∈ volatileNames m) → (∀ st ∈ steps, st.Trigger) →
          s.reactiveRoot.performEach steps =
              ((s.performEach steps).1, (s.performEach steps).2.reactiveRoot) ∧
            ∀ x ∈ (s.performEach steps).2.root.state.pending, x ∈ volatileNames m := by
  have hok : (planComponent tallySource).isOk = true := by decide +kernel
  obtain ⟨plan, hplan⟩ : ∃ plan, planComponent tallySource = .ok plan := by
    cases hc : planComponent tallySource with
    | error e => rw [hc] at hok; exact absurd hok Bool.false_ne_true
    | ok plan => exact ⟨plan, rfl⟩
  exact ⟨plan, hplan, volatile_analysis_sound hplan⟩

/- The title reads only a state no handler writes, so its derived step is not reactive. -/
example : (planComponent tallySource).toOption.map (fun p => p.derived.map (·.reactive)) =
    some [true, false] := by decide +kernel

end Reactive
