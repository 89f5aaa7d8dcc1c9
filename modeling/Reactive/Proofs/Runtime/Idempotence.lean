import Reactive.Proofs.Runtime.Agree
import Reactive.Proofs.Eval.Frame
import Reactive.Proofs.Compose.Program
import Reactive.Proofs.Schedule.Ordering

/-!
# Running the derived pass twice

A derived pass walks the plan's derived steps in order and recomputes each one with a dependency
among the changed names, whose own name then counts as changed. Which steps it recomputes
depends only on the changed names and the dependency lists (`passSteps`), never on the values.

When no step's body reads its own name or the name of a later step (`BodiesReadEarlier`), a
second pass from the same changed names leaves every value as the first left it
(`derivedPass_derivedPass`): recomputing those steps gives the same values from any two stores
that agree outside their names (`recompute_congr`), and a pass changes nothing outside them.

Whether a body reads only earlier steps depends on what it reads, not on its dependency list, and
the scheduler orders steps by their dependency lists.
-/

namespace Reactive

open Component Script

/-- No derived step's body reads its own name or the name of a step after it. -/
def BodiesReadEarlier (steps : List DerivedStep) : Prop :=
  (∀ d ∈ steps, d.name ∉ d.body.freeNames) ∧ steps.Pairwise fun a b => b.name ∉ a.body.freeNames

namespace BodiesReadEarlier

theorem tail {d : DerivedStep} {rest : List DerivedStep} (h : BodiesReadEarlier (d :: rest)) :
    BodiesReadEarlier rest :=
  ⟨fun e he => h.1 e (List.mem_cons_of_mem _ he), (List.pairwise_cons.mp h.2).2⟩

theorem sublist {steps steps' : List DerivedStep} (hsub : List.Sublist steps' steps)
    (h : BodiesReadEarlier steps) : BodiesReadEarlier steps' :=
  ⟨fun d hd => h.1 d (hsub.subset hd), h.2.sublist hsub⟩

/-- The first body reads none of the steps' names. -/
theorem head_reads {d : DerivedStep} {rest : List DerivedStep} (h : BodiesReadEarlier (d :: rest))
    {n : String} (hn : n ∈ d.body.freeNames) : n ∉ (d :: rest).map (·.name) := by
  intro hmem
  obtain ⟨e, he, rfl⟩ := List.mem_map.mp hmem
  rcases List.mem_cons.mp he with rfl | he
  · exact h.1 e List.mem_cons_self hn
  · exact (List.pairwise_cons.mp h.2).1 e he hn

end BodiesReadEarlier

/-! ## Recomputing steps -/

/-- Recomputing steps whose bodies read only earlier ones gives the same values from two stores
that agree outside the steps' names: each body reads only names outside them, or names of steps
already recomputed. -/
theorem recompute_congr : ∀ (steps : List DerivedStep) (vs ws : Store), BodiesReadEarlier steps →
    (∀ n ∉ steps.map (·.name), vs.get? n = ws.get? n) →
    ∀ n, (recompute vs steps).get? n = (recompute ws steps).get? n
  | [], _, _, _, h, n => h n List.not_mem_nil
  | d :: rest, vs, ws, hread, h, n => by
    have hbody : Eval.eval vs d.body = Eval.eval ws d.body :=
      Eval.evalExpr_congr vs ws d.body [] [] [] (fun _ hm => absurd hm List.not_mem_nil)
        fun m hm => h m (hread.head_reads hm)
    show (recompute (vs.set d.name (Eval.eval vs d.body)) rest).get? n =
      (recompute (ws.set d.name (Eval.eval ws d.body)) rest).get? n
    rw [hbody]
    refine recompute_congr rest _ _ hread.tail (fun m hm => ?_) n
    rw [Store.get?_set, Store.get?_set]
    split
    · rfl
    · rename_i hne
      refine h m fun hmem => ?_
      rcases List.mem_cons.mp (List.map_cons ▸ hmem) with heq | hmem
      · exact hne heq
      · exact hm hmem

/-- Recomputing steps whose bodies read only earlier ones a second time changes no value. -/
theorem recompute_recompute {steps : List DerivedStep} (h : BodiesReadEarlier steps) (vs : Store)
    (n : String) : (recompute (recompute vs steps) steps).get? n = (recompute vs steps).get? n :=
  recompute_congr steps _ _ h (fun m hm => recompute_get?_of_not_mem m vs steps hm) n

/-! ## The steps a pass recomputes -/

namespace InstanceState

/-- The steps a pass from the changed names recomputes, in order: each one with a dependency among
the changed names or the names of the steps recomputed before it. -/
def passSteps : List DerivedStep → List String → List DerivedStep
  | [], _ => []
  | d :: rest, changed =>
    if d.dependencies.any changed.contains then d :: passSteps rest (insertName d.name changed)
    else passSteps rest changed

theorem passSteps_sublist : ∀ (steps : List DerivedStep) (changed : List String),
    List.Sublist (passSteps steps changed) steps
  | [], _ => List.Sublist.slnil
  | d :: rest, changed => by
    rw [passSteps]
    split
    · exact (passSteps_sublist rest _).cons_cons d
    · exact (passSteps_sublist rest _).cons d

/-- A walk over steps recomputes, in order, the steps its changed names select, whatever the
values it starts from. -/
theorem foldl_passStep_recompute : ∀ (steps : List DerivedStep) (s : InstanceState)
    (changed : List String),
    (steps.foldl passStep (s, changed)).1 =
      { s with values := recompute s.values (passSteps steps changed) }
  | [], _, _ => rfl
  | d :: rest, s, changed => by
    rw [List.foldl_cons, passSteps]
    by_cases hit : d.dependencies.any changed.contains = true
    · rw [passStep, if_pos hit, if_pos hit, foldl_passStep_recompute rest]
      rfl
    · rw [passStep, if_neg hit, if_neg hit, foldl_passStep_recompute rest]

/-- A pass from the changed names recomputes the steps they select. -/
theorem derivedPass_recompute (s : InstanceState) (changed : List String) :
    (s.derivedPass changed).1 =
      { s with values := recompute s.values (passSteps s.plan.derived changed) } :=
  foldl_passStep_recompute _ _ _

/-- When no body reads its own step or a later one, a second derived pass from the same changed
names changes nothing: not the instance's other fields, and no value. -/
theorem derivedPass_derivedPass (s : InstanceState) (changed : List String)
    (h : BodiesReadEarlier s.plan.derived) :
    ((s.derivedPass changed).1.derivedPass changed).1 =
        { (s.derivedPass changed).1 with
          values := ((s.derivedPass changed).1.derivedPass changed).1.values } ∧
      ∀ n, ((s.derivedPass changed).1.derivedPass changed).1.values.get? n =
        (s.derivedPass changed).1.values.get? n := by
  refine ⟨derivedPass_frame _ changed, fun n => ?_⟩
  -- both passes recompute the same steps: the plan and the changed names are the same
  have hplan : (s.derivedPass changed).1.plan = s.plan := by rw [derivedPass_recompute]
  rw [derivedPass_recompute (s.derivedPass changed).1, hplan, derivedPass_recompute]
  exact recompute_recompute (h.sublist (passSteps_sublist _ changed)) _ n

end InstanceState

/-! ## Scheduled steps -/

namespace Component

/-- Each step's dependencies name a name of `available` or a step before it. -/
def DepsBefore : List String → List DerivedStep → Prop
  | _, [] => True
  | available, d :: rest =>
    (∀ dep ∈ d.dependencies, dep ∈ available) ∧ DepsBefore (available ++ [d.name]) rest

section
variable {m : Model} {f : DerivedDecl → DerivedStep}

/-- An order the check accepts gives each of its steps its dependencies before it. -/
theorem depsBefore_of_verifyOrder
    (hf : ∀ d, (f d).name = d.name ∧ (f d).dependencies = d.dependencies) :
    ∀ (order : List Nat) (available : List String), verifyOrder m order available = .ok () →
      DepsBefore available (order.filterMap fun i => (m.derived[i]?).map f)
  | [], _, _ => trivial
  | i :: rest, available, h => by
    rw [verifyOrder] at h
    rw [List.filterMap_cons]
    cases hi : m.derived[i]? with
    | none =>
      simp only [hi] at h
      exact depsBefore_of_verifyOrder hf rest available h
    | some d =>
      simp only [hi] at h
      cases hfind : d.dependencies.find? (fun dep => !available.contains dep) with
      | some missing =>
        simp only [hfind] at h
        cases h
      | none =>
        simp only [hfind] at h
        refine ⟨fun dep hdep => ?_, ?_⟩
        · rw [(hf d).2] at hdep
          simpa using List.find?_eq_none.mp hfind dep hdep
        · rw [(hf d).1]
          exact depsBefore_of_verifyOrder hf rest _ h

/-- Scheduling places each declaration at most once, and the check accepts what it returns. -/
theorem schedule_ok {order : List Nat} (h : schedule m = .ok order) :
    order.Nodup ∧ (∀ i ∈ order, i < m.derived.length) ∧
      verifyOrder m order (m.states.map (·.name)) = .ok () := by
  unfold schedule at h
  simp only [orderFrom_start] at h
  split at h
  · cases h
  cases hv : verifyOrder m (greedyOrder m.derived (m.derived.length + 1) []) (m.states.map (·.name))
    with
  | error e =>
    simp only [hv] at h
    cases h
  | ok u =>
    simp only [hv] at h
    cases h
    obtain ⟨out, hout, hro⟩ := @greedyOrder_extends m.derived (m.derived.length + 1) []
    rw [List.nil_append] at hout
    obtain ⟨hnd, hlt⟩ := hro.nodup List.nodup_nil
    rw [hout] at hv ⊢
    exact ⟨by simpa using hnd, hlt, hv⟩

/-- Steps of declarations with distinct names, scheduled at most once each, have distinct
names. -/
theorem nodup_names_scheduled (hf : ∀ d, (f d).name = d.name) (hd : DistinctNames m.derived) :
    ∀ (order : List Nat), order.Nodup → (∀ i ∈ order, i < m.derived.length) →
      ((order.filterMap fun i => (m.derived[i]?).map f).map (·.name)).Nodup
  | [], _, _ => List.nodup_nil
  | i :: rest, hnd, hlt => by
    have hlti := hlt i List.mem_cons_self
    have hi : m.derived[i]? = some m.derived[i] := List.getElem?_eq_getElem hlti
    rw [List.filterMap_cons, hi, Option.map_some, List.map_cons]
    rw [List.nodup_cons] at hnd ⊢
    refine ⟨fun hmem => ?_, nodup_names_scheduled hf hd rest hnd.2
      fun j hj => hlt j (List.mem_cons_of_mem _ hj)⟩
    -- a later step with the same name is the same declaration, placed twice
    obtain ⟨e, he, hname⟩ := List.mem_map.mp hmem
    obtain ⟨j, hj, hje⟩ := List.mem_filterMap.mp he
    obtain ⟨d, hdj, rfl⟩ := Option.map_eq_some_iff.mp hje
    rw [hf, hf] at hname
    exact hnd.1 (DistinctNames.index_eq hd hi hdj hname.symm ▸ hj)

end

/-- Steps whose dependencies come before them, under distinct names none of which is available at
the start, and whose bodies read a step's name only when it is a dependency: no body reads its own
step or a later one. -/
theorem bodiesReadEarlier_of_depsBefore : ∀ (steps : List DerivedStep) (available : List String),
    DepsBefore available steps → (∀ e ∈ steps, e.name ∉ available) →
    (steps.map (·.name)).Nodup →
    (∀ d ∈ steps, ∀ e ∈ steps, e.name ∈ d.body.freeNames → e.name ∈ d.dependencies) →
    BodiesReadEarlier steps
  | [], _, _, _, _, _ => ⟨fun _ h => absurd h List.not_mem_nil, List.Pairwise.nil⟩
  | d :: rest, available, hdeps, hfresh, hnd, hreads => by
    rw [List.map_cons, List.nodup_cons] at hnd
    -- a step's name that the first body reads is a dependency, so it was available
    have hfirst : ∀ e ∈ d :: rest, e.name ∉ d.body.freeNames := fun e he hread =>
      hfresh e he (hdeps.1 _ (hreads d List.mem_cons_self e he hread))
    have hrest := bodiesReadEarlier_of_depsBefore rest (available ++ [d.name]) hdeps.2
      (fun e he hmem => (List.mem_append.mp hmem).elim (hfresh e (List.mem_cons_of_mem _ he))
        fun h => hnd.1 (List.mem_singleton.mp h ▸ List.mem_map_of_mem he))
      hnd.2 (fun d' hd' e he => hreads d' (List.mem_cons_of_mem _ hd') e (List.mem_cons_of_mem _ he))
    refine ⟨fun e he => ?_, List.pairwise_cons.mpr ⟨fun e he => hfirst e (List.mem_cons_of_mem _ he),
      hrest.2⟩⟩
    rcases List.mem_cons.mp he with rfl | he
    · exact hfirst e List.mem_cons_self
    · exact hrest.1 e he

/-! ## Names of a compiled component -/

/-- Declared names pass the check only when they are distinct and none was seen before. -/
theorem checkDeclared_nodup {comp : String} {nested : List String} :
    ∀ (names seen : List String), checkDeclared comp nested names seen = .ok () →
      names.Nodup ∧ ∀ n ∈ names, n ∉ seen
  | [], _, _ => ⟨List.nodup_nil, fun _ h => absurd h List.not_mem_nil⟩
  | name :: rest, seen, h => by
    simp only [checkDeclared, bind, Except.bind] at h
    split at h
    · cases h
    split at h
    · cases h
    split at h
    · cases h
    split at h
    · cases h
    rename_i hseen
    obtain ⟨hnd, hfresh⟩ := checkDeclared_nodup rest (name :: seen) h
    refine ⟨List.nodup_cons.mpr ⟨fun hmem => hfresh name hmem List.mem_cons_self, hnd⟩, ?_⟩
    intro n hn
    rcases List.mem_cons.mp hn with rfl | hn
    · exact fun hs => hseen (List.contains_iff_mem.mpr hs)
    · exact fun hs => hfresh n hn (List.mem_cons_of_mem _ hs)

/-- A validated component declares each name once. -/
theorem validate_declared_nodup {c : ComponentSource} (h : validate c = .ok ()) :
    c.declared.Nodup := by
  unfold validate at h
  simp only [bind, Except.bind] at h
  split at h
  · cases h
  split at h
  · cases h
  rename_i hdecl
  exact (checkDeclared_nodup _ _ hdecl).1

/-- Building the states keeps their names, in order. -/
theorem buildStates_names {scope : Scope} {comp : String} :
    ∀ (sts : List StateSource) (earlier : List String) (decls : List StateDecl),
      buildStates scope comp sts earlier = .ok decls → decls.map (·.name) = sts.map (·.name)
  | [], _, _, h => by
    cases h
    rfl
  | st :: rest, earlier, decls, h => by
    simp only [buildStates, bind, Except.bind] at h
    split at h
    · cases h
    split at h
    · cases h
    split at h
    · cases h
    split at h
    · cases h
    rename_i hrest
    cases h
    rw [List.map_cons, List.map_cons, buildStates_names rest _ _ hrest]

/-- A built derived declaration keeps its name; without an annotation its dependencies are the
ones its body resolves to. -/
theorem buildDerived_ok {scope : Scope} {d : DerivedSource} {e : DerivedDecl}
    (h : buildDerived scope d = .ok e) :
    e.name = d.name ∧
      (d.dependencies = none → ∃ origin, scope.dependencies e.body origin = .ok e.dependencies) := by
  unfold buildDerived at h
  simp only [bind, Except.bind] at h
  split at h
  · cases h
  split at h
  · cases h
  rename_i hinferred
  cases hdeps : d.dependencies with
  | some written =>
    simp only [hdeps] at h
    split at h
    · cases h
    cases h
    exact ⟨rfl, fun hnone => by cases hnone⟩
  | none =>
    simp only [hdeps] at h
    cases h
    exact ⟨rfl, fun _ => ⟨_, hinferred⟩⟩

/-- A built model keeps the names of the states and of the derived declarations, and each of its
derived declarations is one of the component's, built. -/
theorem build_derived {c : ComponentSource} {scope : Scope} {m : Model}
    (hm : Model.build c scope = .ok m) :
    m.states.map (·.name) = c.states.map (·.name) ∧
      m.derived.map (·.name) = c.derived.map (·.name) ∧
      ∀ e ∈ m.derived, ∃ d ∈ c.derived, buildDerived scope d = .ok e := by
  obtain ⟨hstates, hderived, -⟩ := Model.build_ok hm
  have hnames : List.Forall₂ (· = ·) (m.derived.map (·.name)) (c.derived.map (·.name)) := by
    simp only [List.forall₂_map_left_iff, List.forall₂_map_right_iff]
    exact (hderived.imp fun _ _ hb => (buildDerived_ok hb).1).flip
  rw [List.forall₂_eq_eq_eq] at hnames
  exact ⟨buildStates_names _ _ _ hstates, hnames, fun e he => exists_rel_of_mem_right hderived he⟩

/-- Every name read that is reactive in the scope is among the names resolved. -/
theorem Scope.mem_readNames {s : Scope} {decl : String} :
    ∀ (names out : List String), s.readNames decl names = .ok out →
      ∀ n ∈ names, s.isReactive n = true → n ∈ out
  | [], _, _, n, hn, _ => absurd hn List.not_mem_nil
  | m :: rest, out, h, n, hn, hr => by
    unfold Scope.readNames at h
    cases hk : s.classify m with
    | none =>
      simp only [hk] at h
      cases h
    | some k =>
      simp only [hk] at h
      split at h
      · simp only [bind, Except.bind] at h
        split at h
        · cases h
        rename_i found hrest
        cases h
        rcases List.mem_cons.mp hn with rfl | hn
        · exact List.mem_cons_self
        · exact List.mem_cons_of_mem _ (mem_readNames rest found hrest n hn hr)
      · rename_i hnot
        split at h
        · rcases List.mem_cons.mp hn with rfl | hn
          · simp [Scope.isReactive, hk, hnot] at hr
          · exact mem_readNames rest out h n hn hr
        · cases h

/-- In a component that declares each name once, a derived name is reactive. -/
theorem Scope.isReactive_ofSource_derived {c : ComponentSource} (hnd : c.declared.Nodup)
    {n : String} (hn : n ∈ c.derived.map (·.name)) : (Scope.ofSource c).isReactive n = true := by
  unfold ComponentSource.declared at hnd
  rw [List.nodup_append] at hnd
  obtain ⟨hnd, -, hcb⟩ := hnd
  rw [List.nodup_append] at hnd
  obtain ⟨hnd, -, hhd⟩ := hnd
  have hnC : n ∉ c.callbacks := fun hc =>
    hcb n (List.mem_append_left _ (List.mem_append_right _ hn)) n hc rfl
  have hnH : n ∉ c.handlers.map (·.name) := fun hh => hhd n (List.mem_append_right _ hn) n hh rfl
  have hcbs : (c.callbacks.map (·, NameKind.callback)).find? (·.1 == n) = none := by
    rw [List.find?_eq_none]
    intro x hx hxn
    obtain ⟨a, ha, rfl⟩ := List.mem_map.mp hx
    exact hnC (beq_iff_eq.mp hxn ▸ ha)
  have hhds : (c.handlers.map (·.name, NameKind.handler)).find? (·.1 == n) = none := by
    rw [List.find?_eq_none]
    intro x hx hxn
    obtain ⟨a, ha, rfl⟩ := List.mem_map.mp hx
    exact hnH (beq_iff_eq.mp hxn ▸ List.mem_map_of_mem ha)
  have hdvs : (c.derived.map (·.name, NameKind.derived)).find? (·.1 == n) = some (n, .derived) := by
    obtain ⟨d, hd, rfl⟩ := List.mem_map.mp hn
    have hsome : ((c.derived.map (·.name, NameKind.derived)).find? (·.1 == d.name)).isSome :=
      List.find?_isSome.mpr ⟨(d.name, NameKind.derived), List.mem_map.mpr ⟨d, hd, rfl⟩, by simp⟩
    obtain ⟨x, hx⟩ := Option.isSome_iff_exists.mp hsome
    obtain ⟨a, -, rfl⟩ := List.mem_map.mp (List.mem_of_find?_eq_some hx)
    have ha : a.name = d.name := by simpa using List.find?_some hx
    rw [hx, ha]
  simp [Scope.isReactive, Scope.classify, Scope.ofSource, List.find?_append, hcbs, hhds, hdvs,
    NameKind.isReactive]

/-! ## Compiled plans -/

/-- A plan's derived steps list, among their dependencies, every step whose name their bodies
read. -/
def ComponentPlan.DerivedReadsDeclared (p : ComponentPlan) : Prop :=
  ∀ d ∈ p.derived, ∀ e ∈ p.derived, e.name ∈ d.body.freeNames → e.name ∈ d.dependencies

/-- A component that declares each name once names its derived values apart from each other and
from its states. -/
theorem declared_nodup_derived {c : ComponentSource} (hnd : c.declared.Nodup) :
    (c.derived.map (·.name)).Nodup ∧
      ∀ n ∈ c.derived.map (·.name), n ∉ c.states.map (·.name) := by
  unfold ComponentSource.declared at hnd
  have hsd := List.Nodup.of_append_left (List.Nodup.of_append_left hnd)
  rw [List.nodup_append] at hsd
  exact ⟨hsd.2.1, fun n hn hs => hsd.2.2 n hs n hn rfl⟩

section
variable {c : ComponentSource} {plan : ComponentPlan}

/-- The derived steps of a compiled plan: every dependency of one is a state or a step before it,
their names are distinct, and each is a declaration of the component, built. -/
theorem planComponent_derived (h : planComponent c = .ok plan) :
    DepsBefore (c.states.map (·.name)) plan.derived ∧ (plan.derived.map (·.name)).Nodup ∧
      ∀ d ∈ plan.derived, ∃ e ∈ c.derived,
        buildDerived (Scope.ofSource c) e = .ok ⟨d.name, d.body, d.dependencies⟩ := by
  obtain ⟨m, order, b, hm, horder, -, hplan⟩ := planComponent_ok h
  obtain ⟨hstates, hnames, hbuilt⟩ := build_derived hm
  obtain ⟨hnd, hlt, hverify⟩ := schedule_ok horder
  have hdistinct : DistinctNames m.derived := by
    unfold DistinctNames
    rw [hnames]
    exact (declared_nodup_derived (validate_declared_nodup (planComponent_validate h))).1
  subst hplan
  refine ⟨hstates ▸ depsBefore_of_verifyOrder (fun _ => ⟨rfl, rfl⟩) order _ hverify,
    nodup_names_scheduled (fun _ => rfl) hdistinct order hnd hlt, fun d hd => ?_⟩
  obtain ⟨i, -, hi⟩ := List.mem_filterMap.mp hd
  obtain ⟨e, he, rfl⟩ := Option.map_eq_some_iff.mp hi
  exact hbuilt e (List.mem_of_getElem? he)

/-- A compiled plan whose steps list every step their bodies read has no body reading its own
step or a later one: the scheduler put every dependency first. -/
theorem planComponent_bodiesReadEarlier (h : planComponent c = .ok plan)
    (hr : plan.DerivedReadsDeclared) : BodiesReadEarlier plan.derived := by
  obtain ⟨hdeps, hnd, hbuilt⟩ := planComponent_derived h
  have hdecl := declared_nodup_derived (validate_declared_nodup (planComponent_validate h))
  refine bodiesReadEarlier_of_depsBefore _ _ hdeps (fun e he hs => ?_) hnd hr
  obtain ⟨d, hd, hb⟩ := hbuilt e he
  have hname : e.name = d.name := (buildDerived_ok hb).1
  exact hdecl.2 e.name (hname ▸ List.mem_map_of_mem hd) hs

/-- Without dependency annotations, a compiled plan's steps list every step their bodies read:
each dependency list is every reactive name the body reads. -/
theorem planComponent_derivedReadsDeclared (h : planComponent c = .ok plan)
    (hnone : ∀ d ∈ c.derived, d.dependencies = none) : plan.DerivedReadsDeclared := by
  intro d hd e he hread
  obtain ⟨-, -, hbuilt⟩ := planComponent_derived h
  have hnd := validate_declared_nodup (planComponent_validate h)
  obtain ⟨ds, hds, hb⟩ := hbuilt d hd
  obtain ⟨origin, hdeps⟩ := (buildDerived_ok hb).2 (hnone ds hds)
  unfold Scope.dependencies at hdeps
  simp only [bind, Except.bind] at hdeps
  split at hdeps
  · cases hdeps
  obtain ⟨es, hes, hbe⟩ := hbuilt e he
  have hname : e.name = es.name := (buildDerived_ok hbe).1
  exact Scope.mem_readNames _ _ hdeps _ hread
    (Scope.isReactive_ofSource_derived hnd (hname ▸ List.mem_map_of_mem hes))

/-- A second derived pass from the same changed names changes nothing, not the instance and no
value, on every plan whose derived steps list every step their bodies read; every component
written without dependency annotations compiles to such a plan. -/
theorem derivedPass_idempotent (h : planComponent c = .ok plan) :
    ((∀ d ∈ c.derived, d.dependencies = none) → plan.DerivedReadsDeclared) ∧
      (plan.DerivedReadsDeclared → ∀ (s : InstanceState) (changed : List String), s.plan = plan →
        ((s.derivedPass changed).1.derivedPass changed).1 =
            { (s.derivedPass changed).1 with
              values := ((s.derivedPass changed).1.derivedPass changed).1.values } ∧
          ∀ n, ((s.derivedPass changed).1.derivedPass changed).1.values.get? n =
            (s.derivedPass changed).1.values.get? n) :=
  ⟨planComponent_derivedReadsDeclared h, fun hr s changed hs =>
    InstanceState.derivedPass_derivedPass s changed (hs ▸ planComponent_bodiesReadEarlier h hr)⟩

end

/-- A cart whose label reads a total declared after it, neither annotated. -/
def cartSource : ComponentSource where
  name := "Cart"
  filePath := "src/Cart.comp"
  states := [⟨"price", "3"⟩, ⟨"qty", "2"⟩]
  derived := [⟨"label", "'Total: ' + total", none⟩, ⟨"total", "price * qty", none⟩]
  handlers := []
  props := []
  callbacks := []
  nodes := [.element "p" [] [] [.expression "label"]]

theorem cart_derivedPass_idempotent :
    ∃ plan, planComponent cartSource = .ok plan ∧ plan.DerivedReadsDeclared ∧
      ∀ (s : InstanceState) (changed : List String), s.plan = plan → ∀ n,
        ((s.derivedPass changed).1.derivedPass changed).1.values.get? n =
          (s.derivedPass changed).1.values.get? n := by
  obtain ⟨plan, hplan⟩ := exists_planComponent_eq_ok cartSource (by decide +kernel)
  have hr := (derivedPass_idempotent hplan).1 (by decide)
  exact ⟨plan, hplan, hr, fun s changed hs => ((derivedPass_idempotent hplan).2 hr s changed hs).2⟩

/- The scheduler puts the total before the label that reads it. -/
example : (planComponent cartSource).toOption.map (·.derived.map (·.name)) =
    some ["total", "label"] := by decide +kernel

/-- A component whose first derived value reads the second but is annotated as reading only the
state: the scheduler keeps the declared order. -/
def staleSource : ComponentSource where
  name := "Stale"
  filePath := "src/Stale.comp"
  states := [⟨"s", "'x'"⟩]
  derived := [⟨"a", "b + '!'", some ["s"]⟩, ⟨"b", "s + '?'", none⟩]
  handlers := []
  props := []
  callbacks := []
  nodes := [.element "p" [] [] [.expression "a"]]

/-- After the state of a seeded instance changes, a first pass computes `a` from the old `b` and a
second one from the new `b`. -/
theorem stale_second_pass_changes_value :
    ∃ plan, planComponent staleSource = .ok plan ∧
      let seeded := ({ id := 0, plan } : InstanceState).seedValues
      let s := { seeded with values := seeded.values.set "s" (.str "y") }
      ((s.derivedPass ["s"]).1.derivedPass ["s"]).1.values.get? "a" ≠
        (s.derivedPass ["s"]).1.values.get? "a" := by
  have hrun : (planComponent staleSource).toOption.map (fun plan =>
      let seeded := ({ id := 0, plan } : InstanceState).seedValues
      let s := { seeded with values := seeded.values.set "s" (.str "y") }
      ((((s.derivedPass ["s"]).1.derivedPass ["s"]).1.values.get? "a").map Value.toText,
        ((s.derivedPass ["s"]).1.values.get? "a").map Value.toText)) =
      some (some "y?!", some "x?!") := by decide +kernel
  cases hc : planComponent staleSource with
  | error e => rw [hc] at hrun; cases hrun
  | ok plan =>
    rw [hc] at hrun
    obtain ⟨htwice, honce⟩ := Prod.mk.inj (Option.some.inj hrun)
    refine ⟨plan, rfl, fun heq => ?_⟩
    have htext := congrArg (Option.map Value.toText) heq
    rw [htwice, honce] at htext
    exact absurd (Option.some.inj htext) (by decide)

end Component

end Reactive
