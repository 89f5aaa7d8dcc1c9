import Reactive.Proofs.Volatile.Closure
import Reactive.Proofs.Runtime.Exec
import Reactive.Proofs.Runtime.Pass
import Reactive.Proofs.Compose.Program

/-!
# What the reactive flags of a plan promise

A plan marks as *reactive* the derived steps, bindings and value props of nested instances that
the update code after mount keeps (`ComponentPlan.reactivePart`, the part the emitted module's
derived pass and `apply` are made of). `ComponentPlan.VolatileSound V` says what makes that safe
for a set `V` of names that can change after mount: a handler requests only names of `V`, the
props are in `V`, a derived step with a dependency in `V` is in `V`, and whatever is not reactive
reads no name of `V`.

Given changed names in `V`, a derived pass recomputes only reactive steps and reports only names
of `V` (`derivedPass_reactivePart`), only reactive bindings read a changed name
(`readersOf_reactive`), and only reactive value props are forwarded (`childProps_reactivePart`).
`planComponent_volatileSound` shows that every compiled plan is sound for the names the
analysis finds.
-/

namespace Reactive

open Component Script

namespace Component

/-- A prop of a nested instance that update code forwards after mount: a value prop whose
expression is reactive. -/
def ChildProp.forwarded (p : ChildProp) : Bool :=
  match p.value with
  | .expression _ _ reactive => reactive
  | .callback _ => false

/-- The part of a plan that update code after mount keeps: the reactive derived steps and
bindings, and the forwarded props of nested instances. -/
def ComponentPlan.reactivePart (p : ComponentPlan) : ComponentPlan :=
  { p with
    derived := p.derived.filter (·.reactive)
    bindings := p.bindings.filter (·.reactive)
    children := p.children.map fun ch => { ch with props := ch.props.filter (·.forwarded) } }

/-- `V` holds every name of the plan that can change after mount, and what is not reactive reads
none of them: handlers request only names of `V`, the props are in `V`, a derived step with a
dependency in `V` is in `V`, and a derived step, binding or value prop that is not reactive reads
no name of `V`. -/
structure ComponentPlan.VolatileSound (V : List String) (p : ComponentPlan) : Prop where
  requests : ∀ h ∈ p.handlers, ∀ store, ∀ x ∈ (Eval.execAll store [] h.body).2, x ∈ V
  props : ∀ x ∈ p.props, x ∈ V
  closed : ∀ d ∈ p.derived, ∀ y ∈ d.dependencies, y ∈ V → d.name ∈ V
  derived : ∀ d ∈ p.derived, d.reactive = false → d.name ∉ V
  bindings : ∀ b ∈ p.bindings, b.reactive = false → ∀ y ∈ b.dependencies, y ∉ V
  childProps : ∀ ch ∈ p.children, ∀ pr ∈ ch.props, ∀ e deps,
    pr.value = .expression e deps false → ∀ y ∈ deps, y ∉ V

end Component

/-! ## Requests of a handler body -/

namespace Eval

mutual
/-- A body without update requests requests nothing. -/
theorem execAll_withoutRequests : ∀ (b : List Stmt) (store : Store) (req : List String),
    (execAll store req (withoutRequests b)).2 = req
  | [], _, _ => rfl
  | .requestUpdate _ :: rest, store, req => execAll_withoutRequests rest store req
  | .cond t a b :: rest, store, req => by
    show (execAll (execOne store req (withoutRequestsOne (.cond t a b))).1
      (execOne store req (withoutRequestsOne (.cond t a b))).2 (withoutRequests rest)).2 = req
    rw [execOne_withoutRequestsOne (.cond t a b) store req (fun _ h => Stmt.noConfusion h)]
    exact execAll_withoutRequests rest _ req
  | .assign _ _ _ :: rest, _, req => execAll_withoutRequests rest _ req
  | .update _ _ :: rest, _, req => execAll_withoutRequests rest _ req
  | .eval _ :: rest, _, req => execAll_withoutRequests rest _ req

theorem execOne_withoutRequestsOne : ∀ (s : Stmt) (store : Store) (req : List String),
    (∀ ns, s ≠ .requestUpdate ns) → (execOne store req (withoutRequestsOne s)).2 = req
  | .cond t a b, store, req, _ => by
    simp only [withoutRequestsOne, execOne]
    split
    · exact execAll_withoutRequests a store req
    · exact execAll_withoutRequests b store req
  | .requestUpdate ns, _, _, h => absurd rfl (h ns)
  | .assign _ _ _, _, _, _ => rfl
  | .update _ _, _, _, _ => rfl
  | .eval _, _, _, _ => rfl
end

theorem execAll_append : ∀ (b b' : List Stmt) (store : Store) (req : List String),
    execAll store req (b ++ b') =
      execAll (execAll store req b).1 (execAll store req b).2 b'
  | [], _, _, _ => rfl
  | _ :: rest, b', _, _ => execAll_append rest b' _ _

/-- A body without update requests followed by one request asks for exactly those names. -/
theorem execAll_withoutRequests_request (b : List Stmt) (ns : List String) (store : Store) :
    (execAll store [] (withoutRequests b ++ [.requestUpdate ns])).2 = addNames [] ns := by
  rw [execAll_append, execAll_withoutRequests]
  rfl

end Eval

/-! ## The update code under changed names that can change -/

namespace InstanceState

/-- An instance running the part of its plan that update code keeps. -/
def reactivePart (s : InstanceState) : InstanceState := { s with plan := s.plan.reactivePart }

@[simp]
theorem reactivePart_pending (s : InstanceState) : s.reactivePart.pending = s.pending := rfl

variable {V : List String}

/-- A walk over derived steps from changed names of `V`, where a step with a dependency in `V`
is in `V` and a step that is not reactive is not: walking only the reactive steps does the same,
whatever plan the instance holds, and the changed names stay in `V`. -/
theorem foldl_passStep_reactive (q : ComponentPlan) : ∀ (ds : List DerivedStep),
    (∀ d ∈ ds, (∀ y ∈ d.dependencies, y ∈ V → d.name ∈ V) ∧
      (d.reactive = false → d.name ∉ V)) →
    ∀ (s : InstanceState) (ch : List String), (∀ x ∈ ch, x ∈ V) →
      (ds.filter (·.reactive)).foldl passStep ({ s with plan := q }, ch) =
        ({ (ds.foldl passStep (s, ch)).1 with plan := q }, (ds.foldl passStep (s, ch)).2) ∧
      ∀ x ∈ (ds.foldl passStep (s, ch)).2, x ∈ V
  | [], _, _, _, hch => ⟨rfl, hch⟩
  | d :: ds, hds, s, ch, hch => by
    have hrest := fun d' h => hds d' (List.mem_cons_of_mem _ h)
    obtain ⟨hclosed, hflag⟩ := hds d List.mem_cons_self
    rw [List.foldl_cons]
    by_cases hit : ∃ y ∈ d.dependencies, y ∈ (s, ch).2
    · -- the step is recomputed: its name is in `V`, so it is reactive and kept
      obtain ⟨y, hy, hych⟩ := hit
      have hname : d.name ∈ V := hclosed y hy (hch y hych)
      have hreactive : d.reactive = true := by
        cases hr : d.reactive
        · exact absurd hname (hflag hr)
        · rfl
      have hstep : passStep ({ s with plan := q }, ch) d =
          ({ { s with values := s.values.set d.name (Eval.eval s.values d.body) } with plan := q },
            insertName d.name ch) := passStep_of_reads ⟨y, hy, hych⟩
      rw [List.filter_cons_of_pos hreactive, List.foldl_cons, hstep,
        passStep_of_reads ⟨y, hy, hych⟩]
      exact foldl_passStep_reactive q ds hrest _ _ fun x hx =>
        (mem_insertName.mp hx).elim (fun h => h ▸ hname) (hch x)
    · -- the step is left alone, whether it is kept or not
      rw [passStep_of_not_reads hit]
      have hskip : passStep ({ s with plan := q }, ch) d = ({ s with plan := q }, ch) :=
        passStep_of_not_reads hit
      by_cases hr : d.reactive = true
      · rw [List.filter_cons_of_pos hr, List.foldl_cons, hskip]
        exact foldl_passStep_reactive q ds hrest s ch hch
      · rw [List.filter_cons_of_neg hr]
        exact foldl_passStep_reactive q ds hrest s ch hch

/-- From changed names of `V`, the derived pass of the reactive part is the derived pass, and it
reports only names of `V`. -/
theorem derivedPass_reactivePart {s : InstanceState} (hp : s.plan.VolatileSound V)
    {ch : List String} (hch : ∀ x ∈ ch, x ∈ V) :
    s.reactivePart.derivedPass ch = ((s.derivedPass ch).1.reactivePart, (s.derivedPass ch).2) ∧
      ∀ x ∈ (s.derivedPass ch).2, x ∈ V := by
  obtain ⟨heq, hvol⟩ := foldl_passStep_reactive s.plan.reactivePart s.plan.derived
    (fun d hd => ⟨hp.closed d hd, hp.derived d hd⟩) s ch hch
  refine ⟨?_, hvol⟩
  have hplan : (s.derivedPass ch).1.plan = s.plan := by rw [derivedPass_frame]
  unfold reactivePart
  rw [hplan]
  exact heq

/-- From changed names of `V`, only reactive bindings read a changed name. -/
theorem readersOf_reactive {bs : List BindingPlan}
    (hbs : ∀ b ∈ bs, b.reactive = false → ∀ y ∈ b.dependencies, y ∉ V)
    {ch : List String} (hch : ∀ x ∈ ch, x ∈ V) :
    Act.readersOf ch (bs.filter (·.reactive)) = Act.readersOf ch bs := by
  unfold Act.readersOf
  rw [List.filter_filter]
  apply List.filter_congr
  intro b hb
  cases hreads : b.dependencies.any ch.contains
  · exact Bool.false_and _
  · obtain ⟨y, hy, hych⟩ := any_contains_iff.mp hreads
    cases hr : b.reactive
    · exact absurd (hch y hych) (hbs b hb hr y hy)
    · rfl

/-- Props that are not forwarded add nothing to the props of a nested instance for changed names
of `V`. -/
theorem foldl_propStep_forwarded (s : InstanceState) {ch : List String}
    (hch : ∀ x ∈ ch, x ∈ V) : ∀ (props : List ChildProp),
    (∀ pr ∈ props, ∀ e deps, pr.value = .expression e deps false →
      ∀ y ∈ deps, y ∉ V) →
    ∀ acc : Props, (props.filter (·.forwarded)).foldl (propStep s (some ch)) acc =
      props.foldl (propStep s (some ch)) acc
  | [], _, _ => rfl
  | pr :: props, hprops, acc => by
    have hrest := fun pr' h => hprops pr' (List.mem_cons_of_mem _ h)
    rw [List.foldl_cons]
    by_cases hf : pr.forwarded = true
    · rw [List.filter_cons_of_pos hf, List.foldl_cons]
      exact foldl_propStep_forwarded s hch props hrest _
    · rw [List.filter_cons_of_neg hf]
      -- a prop that is not forwarded leaves the props as they are
      have hkeep : propStep s (some ch) acc pr = acc := by
        obtain ⟨name, value⟩ := pr
        cases value with
        | callback h => rfl
        | expression e deps r =>
          have hr : r = false := by simpa [ChildProp.forwarded] using hf
          subst hr
          have hfree := hprops _ List.mem_cons_self e deps rfl
          simp only [propStep]
          rw [if_neg]
          intro hreads
          obtain ⟨y, hy, hych⟩ := any_contains_iff.mp hreads
          exact hfree y hy (hch y hych)
      rw [hkeep]
      exact foldl_propStep_forwarded s hch props hrest acc

/-- For changed names of `V`, the reactive part forwards the same props to each nested instance. -/
theorem childProps_reactivePart {s : InstanceState} (hp : s.plan.VolatileSound V)
    {ch : List String} (hch : ∀ x ∈ ch, x ∈ V) (i : Nat) :
    s.reactivePart.childProps i (some ch) = s.childProps i (some ch) := by
  have hget : s.reactivePart.plan.children[i]? = s.plan.children[i]?.map
      fun ch => { ch with props := ch.props.filter (·.forwarded) } := List.getElem?_map ..
  unfold childProps
  rw [hget]
  cases hi : s.plan.children[i]? with
  | none => rfl
  | some child =>
    exact foldl_propStep_forwarded s hch child.props
      (hp.childProps child (List.mem_of_getElem? hi)) []

/-- Taking props reads only which props the plan accepts, whatever else the plan holds. -/
theorem foldl_takeStep_withPlan (q : ComponentPlan) : ∀ (props : Props) (s : InstanceState)
    (ns : List String), q.props = s.plan.props →
    props.foldl takeStep ({ s with plan := q }, ns) =
      ({ (props.foldl takeStep (s, ns)).1 with plan := q }, (props.foldl takeStep (s, ns)).2)
  | [], _, _, _ => rfl
  | (name, p) :: props, s, ns, hq => by
    have hplan : (takeStep (s, ns) (name, p)).1.plan = s.plan := by
      have h := congrArg InstanceState.plan (foldl_takeStep_frame [(name, p)] (s, ns))
      exact h
    have hstep : takeStep ({ s with plan := q }, ns) (name, p) =
        ({ (takeStep (s, ns) (name, p)).1 with plan := q }, (takeStep (s, ns) (name, p)).2) := by
      cases p with
      | value v =>
        simp only [takeStep, hq]
        split <;> rfl
      | callback k => rfl
    rw [List.foldl_cons, List.foldl_cons, hstep]
    exact foldl_takeStep_withPlan q props _ _ (by rw [hplan]; exact hq)

/-- The names taken are props the plan accepts. -/
theorem mem_foldl_takeStep {x : String} : ∀ (props : Props) (s : InstanceState) (ns : List String),
    x ∈ (props.foldl takeStep (s, ns)).2 → x ∈ ns ∨ x ∈ s.plan.props
  | [], _, _, h => .inl h
  | (name, p) :: props, s, ns, h => by
    have hplan : (takeStep (s, ns) (name, p)).1.plan = s.plan := by
      have h := congrArg InstanceState.plan (foldl_takeStep_frame [(name, p)] (s, ns))
      exact h
    rw [List.foldl_cons] at h
    rcases mem_foldl_takeStep props _ _ h with h | h
    · cases p with
      | value v =>
        dsimp only at h
        split at h
        · rename_i hacc
          rcases List.mem_append.mp h with h | h
          · exact .inl h
          · rw [List.mem_singleton.mp h]
            exact .inr (List.contains_iff_mem.mp hacc)
        · exact .inl h
      | callback k => exact .inl h
    · exact .inr (hplan ▸ h)

theorem takeValueProps_reactivePart (s : InstanceState) (props : Props) :
    s.reactivePart.takeValueProps props =
      ((s.takeValueProps props).1.reactivePart, (s.takeValueProps props).2) := by
  have hplan : (s.takeValueProps props).1.plan = s.plan := by
    unfold takeValueProps
    rw [foldl_takeStep_frame]
  unfold reactivePart
  rw [hplan]
  exact foldl_takeStep_withPlan _ props s [] rfl

end InstanceState

/-! ## Compiled plans -/

namespace Component

/-- A built handler is a lowered body without its update requests, mutating what that body
assigns and then what it requests. -/
theorem buildHandler_lowered {scope : Scope} {h : HandlerSource} {hd : HandlerDecl}
    (hb : buildHandler scope h = .ok hd) : ∃ lowered, hd.body = withoutRequests lowered ∧
      hd.mutates = addNames (assignedNames lowered) (requestedNames lowered) := by
  unfold buildHandler at hb
  simp only [bind, Except.bind] at hb
  split at hb
  · cases hb
  split at hb
  · cases hb
  cases hb
  exact ⟨_, rfl, rfl⟩

/-- A built model keeps the component's props, and each of its handlers is a lowered body
without its update requests, mutating what that body assigns and then what it requests. -/
theorem build_handlers {c : ComponentSource} {scope : Scope} {m : Model}
    (hm : Model.build c scope = .ok m) :
    m.props = c.props ∧
      ∀ hd ∈ m.handlers, ∃ lowered, hd.body = withoutRequests lowered ∧
        hd.mutates = addNames (assignedNames lowered) (requestedNames lowered) := by
  obtain ⟨-, -, hhandlers, hprops⟩ := Model.build_ok hm
  refine ⟨hprops, fun hd hmem => ?_⟩
  obtain ⟨h, -, hb⟩ := exists_rel_of_mem_right hhandlers hmem
  exact buildHandler_lowered hb

/-- A handler of a compiled plan requests only what it mutates. -/
theorem requests_subset_mutates (hd : HandlerDecl) (lowered : List Stmt)
    (hbody : hd.body = withoutRequests lowered) (store : Store) :
    ∀ x ∈ (Eval.execAll store []
      (if hd.mutates.isEmpty then hd.body else hd.body ++ [.requestUpdate hd.mutates])).2,
      x ∈ hd.mutates := by
  intro x hx
  split at hx
  · rw [hbody, Eval.execAll_withoutRequests] at hx
    exact absurd hx List.not_mem_nil
  · rw [hbody, Eval.execAll_withoutRequests_request] at hx
    exact (mem_addNames.mp hx).resolve_left List.not_mem_nil

/-- Every compiled plan is sound for the names the analysis finds: its handlers request, and its
props are, names that can change; a derived step reading one is one; and whatever the plan does
not mark reactive reads none of them. -/
theorem planComponent_volatileSound {c : ComponentSource} {plan : ComponentPlan}
    (h : planComponent c = .ok plan) :
    ∃ m, Model.build c (Scope.ofSource c) = .ok m ∧ plan.VolatileSound (volatileNames m) := by
  obtain ⟨m, order, b, hm, -, -, rfl⟩ := planComponent_ok h
  obtain ⟨hprops, hbodies⟩ := build_handlers hm
  refine ⟨m, hm, ⟨?_, ?_, ?_, ?_, ?_, ?_⟩⟩
  · -- a handler requests what it mutates
    intro h hh store x hx
    obtain ⟨hd, hhd, rfl⟩ := List.mem_map.mp hh
    obtain ⟨lowered, hbody, -⟩ := hbodies hd hhd
    exact m.volatileSeeds_subset_volatileNames (m.mem_volatileSeeds.mpr
      (.inl ⟨hd, hhd, requests_subset_mutates hd lowered hbody store x hx⟩))
  · intro x hx
    rw [← hprops] at hx
    exact m.volatileSeeds_subset_volatileNames (m.mem_volatileSeeds.mpr (.inr hx))
  · -- a scheduled step is a derived declaration of the model
    intro d hd y hy hvol
    obtain ⟨i, -, hi⟩ := List.mem_filterMap.mp hd
    obtain ⟨decl, hdecl, rfl⟩ := Option.map_eq_some_iff.mp hi
    exact m.name_mem_volatileNames (List.mem_of_getElem? hdecl) hy hvol
  · intro d hd hr
    obtain ⟨i, -, hi⟩ := List.mem_filterMap.mp hd
    obtain ⟨decl, -, rfl⟩ := Option.map_eq_some_iff.mp hi
    simpa using hr
  · intro b hb hr y hy hvol
    obtain ⟨bp, -, rfl⟩ := List.mem_map.mp hb
    have hreads : bp.dependencies.any (volatileNames m).contains = true :=
      any_contains_iff.mpr ⟨y, hy, hvol⟩
    simp [hreads] at hr
  · intro ch hch pr hpr e deps hval y hy hvol
    obtain ⟨ch₀, -, rfl⟩ := List.mem_map.mp hch
    obtain ⟨pr₀, -, rfl⟩ := List.mem_map.mp hpr
    have hreads : deps.any (volatileNames m).contains = true :=
      any_contains_iff.mpr ⟨y, hy, hvol⟩
    revert hval
    split
    · intro hval
      simp only [ChildPropValue.expression.injEq] at hval
      obtain ⟨-, rfl, hr⟩ := hval
      rw [hreads] at hr
      exact Bool.noConfusion hr
    · rename_i hcb
      intro hval
      rw [hcb] at hval
      exact ChildPropValue.noConfusion hval

end Component

end Reactive
