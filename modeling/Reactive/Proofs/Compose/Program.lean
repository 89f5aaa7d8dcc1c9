import Reactive.Proofs.Compose.Nesting
import Reactive.Proofs.Runtime.Mount
import Reactive.Component.Compile

/-!
# Programs that passed the composition checks mount

A program compiled from a list of components (`compileProgram`) passed the composition checks:
every nested component exists and accepts the props it is passed, and no component contains
itself. This file carries those checks over to the runtime.

* The program finds, for each name, the plan of the component that the checks found
  (`lookup_rel_find?`): of two components with one name, the later, on both sides.
* Every component of such a program mounts, into any container with any props, and the mount
  succeeds within the program's mount bound, leaving a tree no deeper than the number of distinct
  component names (`mountsWithin_of_cleared`). The proof goes by the position of a component
  in the list of components the nesting search cleared: every component it nests comes earlier.
* Every prop the runtime passes to a nested instance, at mount or with an update, is one the
  nested plan accepts (`childProps_accepted`).
-/

namespace Reactive

open Component

/-! ## Compiled programs -/

/-- A map in `Except` that succeeds relates each element to its image. -/
theorem forall₂_of_mapM_ok {α β ε : Type} {f : α → Except ε β} :
    ∀ {xs : List α} {ys : List β}, xs.mapM f = .ok ys → List.Forall₂ (fun x y => f x = .ok y) xs ys
  | [], ys, h => by
    cases h
    exact .nil
  | x :: xs, ys, h => by
    rw [List.mapM_cons] at h
    revert h
    cases hx : f x with
    | error e => intro h; cases h
    | ok y =>
      cases hxs : xs.mapM f with
      | error e =>
        intro h
        change (do let ys ← Except.error e; pure (y :: ys) : Except ε (List β)) = _ at h
        cases h
      | ok ys' =>
        intro h
        change (pure (y :: ys') : Except ε (List β)) = _ at h
        cases h
        exact .cons hx (forall₂_of_mapM_ok hxs)

/-- What a built model is made of: the component's states built in order, each of its derived
declarations and handlers built, and its props. -/
theorem Model.build_ok {c : ComponentSource} {scope : Scope} {m : Model}
    (hm : Model.build c scope = .ok m) :
    buildStates scope c.name c.states [] = .ok m.states ∧
      List.Forall₂ (fun d e => buildDerived scope d = .ok e) c.derived m.derived ∧
      List.Forall₂ (fun h e => buildHandler scope h = .ok e) c.handlers m.handlers ∧
      m.props = c.props := by
  unfold Model.build at hm
  simp only [bind, Except.bind] at hm
  split at hm
  · cases hm
  rename_i hstates
  split at hm
  · cases hm
  rename_i hderived
  split at hm
  · cases hm
  rename_i hhandlers
  cases hm
  exact ⟨hstates, forall₂_of_mapM_ok hderived, forall₂_of_mapM_ok hhandlers, rfl⟩

/-- A compiled program passed the composition checks, and each of its results holds the plan of
the component at its place. -/
theorem compileProgram_ok {cs : List ComponentSource} {o : CompileOptions}
    {rs : List CompileResult} (h : compileProgram cs o = .ok rs) :
    validateComposition cs = .ok () ∧
      List.Forall₂ (fun c r => planComponent c = .ok r.plan) cs rs := by
  unfold compileProgram at h
  revert h
  cases hv : validateComposition cs with
  | error e => intro h; cases h
  | ok u =>
    intro h
    refine ⟨rfl, (forall₂_of_mapM_ok h).imp fun c r hc => ?_⟩
    unfold compileComponent at hc
    revert hc
    cases hp : planComponent c with
    | error e => intro hc; cases hc
    | ok plan =>
      intro hc
      have hr : (⟨generateModule plan o, plan⟩ : CompileResult) = r := Except.ok.inj hc
      rw [← hr]

/-- Searching two lists related pointwise, by a relation under which the tests agree, finds
related elements or nothing on both sides. -/
theorem find?_rel_of_forall₂ {α β : Type} {R : α → β → Prop} {p : α → Bool} {q : β → Bool}
    (hpq : ∀ a b, R a b → p a = q b) :
    ∀ {l₁ : List α} {l₂ : List β}, List.Forall₂ R l₁ l₂ → Option.Rel R (l₁.find? p) (l₂.find? q)
  | _, _, .nil => .none
  | a :: _, b :: _, .cons hab hrest => by
    rw [List.find?_cons, List.find?_cons, hpq a b hab]
    cases q b with
    | true => exact .some hab
    | false => exact find?_rel_of_forall₂ hpq hrest

/-- The plan a program finds is one of its plans, with the name asked for. -/
theorem Program.find?_some {prog : Program} {name : String} {plan : ComponentPlan}
    (h : prog.find? name = some plan) : plan ∈ prog.plans ∧ plan.name = name := by
  unfold Program.find? at h
  exact ⟨List.mem_reverse.mp (List.mem_of_find?_eq_some h), by simpa using List.find?_some h⟩

/-! ## Props a nested instance accepts -/

/-- Whether a prop passes a callback. -/
def PropValue.isCallback : PropValue → Bool
  | .callback _ => true
  | .value _ => false

/-- Whether an instance of a plan takes a prop: a value among its props, a callback among its
callbacks. These are the tests of `acceptProps` and `takeValueProps`, which ignore a prop that
fails them. -/
def Component.ComponentPlan.accepts (plan : ComponentPlan) : String × PropValue → Bool
  | (name, .value _) => plan.props.contains name
  | (name, .callback _) => plan.callbacks.contains name

theorem Component.ComponentPlan.accepts_eq (plan : ComponentPlan) (name : String) (v : PropValue) :
    plan.accepts (name, v) =
      if v.isCallback then plan.callbacks.contains name else plan.props.contains name := by
  cases v <;> rfl

theorem accepts_eq (child : ComponentSource) (pb : PropBinding) :
    accepts child pb =
      if pb.value.isCallback then child.callbacks.contains pb.name else child.props.contains pb.name := by
  unfold accepts
  cases pb.value <;> rfl

/-- Setting a prop adds that prop and keeps the others or drops them. -/
theorem mem_put {name : String} {v : PropValue} {prop : String × PropValue} :
    ∀ {acc : Props}, prop ∈ acc.put name v → prop = (name, v) ∨ prop ∈ acc
  | [], h => .inl (List.mem_singleton.mp h)
  | (n, w) :: rest, h => by
    unfold Props.put at h
    split_ifs at h with hlt heq
    · exact (List.mem_cons.mp h).imp id id
    · rcases List.mem_cons.mp h with h | h
      · exact .inl h
      · exact .inr (List.mem_cons_of_mem _ h)
    · rcases List.mem_cons.mp h with h | h
      · exact .inr (h ▸ List.mem_cons_self)
      · exact (mem_put h).imp id (List.mem_cons_of_mem _)

/-- A step over the props of a nested instance adds at most that prop, with its name and kind. -/
theorem mem_propStep {s : InstanceState} {changed : Option (List String)} {acc : Props}
    {cp : ChildProp} {prop : String × PropValue} (h : prop ∈ s.propStep changed acc cp) :
    prop ∈ acc ∨ (prop.1 = cp.name ∧ prop.2.isCallback = cp.value.isCallback) := by
  unfold InstanceState.propStep at h
  -- the prop a step adds, if any, has the name and kind of the planned one
  have hadd : ∀ v : PropValue, v.isCallback = cp.value.isCallback → prop ∈ acc.put cp.name v →
      prop ∈ acc ∨ (prop.1 = cp.name ∧ prop.2.isCallback = cp.value.isCallback) := by
    intro v hv hmem
    rcases mem_put hmem with rfl | hmem
    · exact .inr ⟨rfl, hv⟩
    · exact .inl hmem
  cases hv : cp.value with
  | expression e deps r =>
    rw [hv] at h
    cases changed with
    | none =>
      rw [← hv]
      exact hadd _ (by rw [hv]; rfl) h
    | some ch =>
      simp only at h
      split_ifs at h
      · rw [← hv]
        exact hadd _ (by rw [hv]; rfl) h
      · exact .inl h
  | callback href =>
    rw [hv] at h
    cases changed with
    | none =>
      simp only at h
      split at h
      · rw [← hv]
        exact hadd _ (by rw [hv]; rfl) h
      · exact .inl h
    | some ch => exact .inl h

/-- Each prop made for a nested instance comes from one of its planned props, with its name and
kind. -/
theorem mem_foldl_propStep {s : InstanceState} {changed : Option (List String)}
    {prop : String × PropValue} : ∀ {cps : List ChildProp} {acc : Props},
    prop ∈ cps.foldl (s.propStep changed) acc →
      prop ∈ acc ∨ ∃ cp ∈ cps, prop.1 = cp.name ∧ prop.2.isCallback = cp.value.isCallback
  | [], _, h => .inl h
  | cp :: cps, acc, h => by
    rw [List.foldl_cons] at h
    rcases mem_foldl_propStep h with h | ⟨cp', hcp', hprop⟩
    · rcases mem_propStep h with h | hprop
      · exact .inl h
      · exact .inr ⟨cp, List.mem_cons_self, hprop⟩
    · exact .inr ⟨cp', List.mem_cons_of_mem _ hcp', hprop⟩

/-! ## The reachability check -/

section Check

variable {p : Program}
  (hclosed : ∀ plan ∈ p.plans, ∀ ch ∈ plan.children, (p.find? ch.component).isSome)
include hclosed

/-- In a program that finds the component of every nested instance of its plans, the check
from a plan whose nested components are found never fails. -/
theorem checkFrom_ok : ∀ (fuel : Nat) (plan : ComponentPlan),
    (∀ ch ∈ plan.children, (p.find? ch.component).isSome) →
      Spec (fun _ => True) (p.checkFrom fuel plan) (fun _ _ => True) (fun _ => False)
  | 0, _, _ => by
    rw [Program.checkFrom]
    exact Spec.pure _ fun _ _ => trivial
  | fuel + 1, plan, hplan => by
    rw [Program.checkFrom]
    refine Spec.bind (Spec.forIn_yield (fun _ _ _ => True) fun _ ch _ hch _ => ?_) fun _ =>
      Spec.pure _ fun _ _ => trivial
    have hfound := hplan ch (by rw [hch]; simp)
    split
    · rename_i hnone
      rw [hnone] at hfound
      cases hfound
    · rename_i cp hcp
      -- the plan found is one of the program's, so its nested components are found too
      have hcp_children := hclosed cp (Program.find?_some hcp).1
      refine Spec.bind Spec.get fun visited => ?_
      split
      · exact Spec.bind (Spec.change _) fun _ => Spec.bind
          (Spec.mono (checkFrom_ok fuel cp hcp_children) (fun _ _ => trivial) (fun _ _ h => h)
            (fun _ h => h)) fun _ => Spec.pure _ fun _ _ => ⟨_, rfl, trivial⟩
      · exact Spec.pure _ fun _ _ => ⟨_, rfl, trivial⟩

/-- The reachability check passes for a plan whose nested components are found. -/
theorem checkTree_ok {plan : ComponentPlan}
    (hplan : ∀ ch ∈ plan.children, (p.find? ch.component).isSome) : p.checkTree plan = .ok () := by
  have h := checkFrom_ok hclosed (p.plans.length + 1) plan hplan [] trivial
  unfold Program.checkTree
  revert h
  cases hrun : (p.checkFrom (p.plans.length + 1) plan).run [] with
  | error e => exact False.elim
  | ok r =>
    intro _
    show (fun x => x.1) <$> (p.checkFrom (p.plans.length + 1) plan).run [] = _
    rw [hrun]
    rfl

end Check

section Compiled

variable {cs : List ComponentSource} {o : CompileOptions} {rs : List CompileResult}

/-- A compiled program finds a plan for a name exactly when the composition checks find a
component, and then it is the plan of that component. -/
theorem lookup_rel_find? (h : compileProgram cs o = .ok rs) (name : String) :
    Option.Rel (fun c plan => planComponent c = .ok plan) (lookupComponent cs name)
      (Program.find? ⟨rs.map (·.plan), o.runtime⟩ name) := by
  have hrel : List.Forall₂ (fun c plan => planComponent c = .ok plan) cs (rs.map (·.plan)) :=
    List.forall₂_map_right_iff.mpr (compileProgram_ok h).2
  rw [lookupComponent_eq_find]
  refine find?_rel_of_forall₂ (fun c plan hc => ?_) (List.forall₂_reverse_iff.mpr hrel)
  rw [(planComponent_children hc).1]

/-- Each plan of a compiled program is the plan of one of its components. -/
theorem plan_of_compiled (h : compileProgram cs o = .ok rs) {plan : ComponentPlan}
    (hplan : plan ∈ rs.map (·.plan)) : ∃ c ∈ cs, planComponent c = .ok plan := by
  have hrel : List.Forall₂ (fun c plan => planComponent c = .ok plan) cs (rs.map (·.plan)) :=
    List.forall₂_map_right_iff.mpr (compileProgram_ok h).2
  exact exists_rel_of_mem_right hrel hplan

/-- Each nested instance of a plan of a compiled program names a component that the composition
checks found, and the program finds the plan of that component. -/
theorem child_found (h : compileProgram cs o = .ok rs) {c : ComponentSource}
    {plan : ComponentPlan} (hc : c ∈ cs) (hplan : planComponent c = .ok plan) {ch : ChildPlan}
    (hch : ch ∈ plan.children) :
    ∃ child, lookupComponent cs ch.component = some child ∧ ch.component ∈ c.nested ∧
      (∀ cp ∈ ch.props, ∃ pb, PropFrom cp pb ∧ accepts child pb = true) ∧
      ∃ childPlan, Program.find? ⟨rs.map (·.plan), o.runtime⟩ ch.component = some childPlan ∧
        planComponent child = .ok childPlan := by
  obtain ⟨props, hinst, hprops⟩ := (planComponent_children hplan).2.2.2.1 ch hch
  obtain ⟨child, hchild, haccepts⟩ :=
    (validateComposition_ok (compileProgram_ok h).1).1 c hc _ hinst
  have hrel := lookup_rel_find? h ch.component
  rw [hchild] at hrel
  obtain ⟨childPlan, hfind, hchildPlan⟩ : ∃ childPlan,
      Program.find? ⟨rs.map (·.plan), o.runtime⟩ ch.component = some childPlan ∧
        planComponent child = .ok childPlan := by
    revert hrel
    cases Program.find? ⟨rs.map (·.plan), o.runtime⟩ ch.component with
    | none => intro hrel; cases hrel
    | some childPlan => intro hrel; cases hrel; exact ⟨childPlan, rfl, by assumption⟩
  refine ⟨child, hchild, ?_, fun cp hcp => ?_, childPlan, hfind, hchildPlan⟩
  · rw [ComponentSource.nested, ← instancesInNodes_map_fst]
    exact List.mem_map.mpr ⟨_, hinst, rfl⟩
  · obtain ⟨pb, hpb, hfrom⟩ := exists_rel_of_mem_left hprops hcp
    exact ⟨pb, hfrom, haccepts pb hpb⟩

/-- A compiled program finds the component of every nested instance of its plans. -/
theorem compiled_closed (h : compileProgram cs o = .ok rs) :
    ∀ plan ∈ rs.map (·.plan), ∀ ch ∈ plan.children,
      (Program.find? ⟨rs.map (·.plan), o.runtime⟩ ch.component).isSome := by
  intro plan hplan ch hch
  obtain ⟨c, hc, hpc⟩ := plan_of_compiled h hplan
  obtain ⟨_, _, _, _, childPlan, hfind, _⟩ := child_found h hc hpc hch
  simp [hfind]

/-- The component a compiled program finds for a name, with its plan. -/
theorem lookup_of_find? (h : compileProgram cs o = .ok rs) {name : String} {plan : ComponentPlan}
    (hfind : Program.find? ⟨rs.map (·.plan), o.runtime⟩ name = some plan) :
    ∃ c, lookupComponent cs name = some c ∧ planComponent c = .ok plan := by
  have hrel := lookup_rel_find? h name
  rw [hfind] at hrel
  revert hrel
  cases lookupComponent cs name with
  | none => intro hrel; cases hrel
  | some c => intro hrel; cases hrel; exact ⟨c, rfl, by assumption⟩

/-- Mounting a component of a compiled program: by the position `i` of its name in a list of
cleared components, a mount at depth at least `2 * (i + 1)` succeeds within `i + 1` levels. The
induction is on that position: every component a cleared one nests was cleared before it. -/
theorem mountsWithin_of_cleared (h : compileProgram cs o = .ok rs) {done : List String}
    (hdone : Cleared cs done) (i : Nat) :
    ∀ x, done[i]? = some x → ∀ plan, Program.find? ⟨rs.map (·.plan), o.runtime⟩ x = some plan →
      ∀ d, 2 * (i + 1) ≤ d →
        Instance.MountsWithin ⟨rs.map (·.plan), o.runtime⟩ d plan (i + 1) := by
  induction i using Nat.strong_induction_on with
  | _ i ih =>
  intro x hx plan hfind d hd
  obtain ⟨d, rfl⟩ : ∃ d', d = d' + 2 := ⟨d - 2, by omega⟩
  obtain ⟨c, hlook, hpc⟩ := lookup_of_find? h hfind
  have hc : c ∈ cs := (lookupComponent_eq_some hlook).1
  refine Instance.mount_ok_of_children ?_ (planComponent_children hpc).2.2.2.2 fun ch hch => ?_
  · exact checkTree_ok (compiled_closed h)
      (compiled_closed h plan (Program.find?_some hfind).1)
  · -- a nested component was cleared earlier, so its mount succeeds one level down
    obtain ⟨child, hchild, hnested, -, childPlan, hfind', -⟩ := child_found h hc hpc hch
    have hname : ch.component ∈ componentNames cs :=
      lookupComponent_isSome_iff.mp (by simp [hchild])
    obtain ⟨j, hj, hdj⟩ := hdone.before i x hx ch.component ⟨c, hlook, hnested⟩ hname
    exact ⟨childPlan, hfind',
      (ih j hj ch.component hdj childPlan hfind' d (by omega)).mono (by omega)⟩

/-- Every prop the runtime passes to a nested instance of a plan of a compiled program, at mount
(no set of changed names) or with an update, is one the nested plan accepts. -/
theorem childProps_accepted (h : compileProgram cs o = .ok rs) {plan : ComponentPlan}
    (hplan : plan ∈ rs.map (·.plan)) {i : Nat} {ch : ChildPlan} (hch : plan.children[i]? = some ch) :
    ∃ childPlan, Program.find? ⟨rs.map (·.plan), o.runtime⟩ ch.component = some childPlan ∧
      ∀ s : InstanceState, s.plan = plan → ∀ changed, ∀ prop ∈ s.childProps i changed,
        childPlan.accepts prop = true := by
  obtain ⟨c, hc, hpc⟩ := plan_of_compiled h hplan
  obtain ⟨child, -, -, haccepts, childPlan, hfind, hchildPlan⟩ :=
    child_found h hc hpc (List.mem_of_getElem? hch)
  obtain ⟨-, hprops, hcallbacks, -⟩ := planComponent_children hchildPlan
  refine ⟨childPlan, hfind, fun s hs changed prop hprop => ?_⟩
  unfold InstanceState.childProps at hprop
  rw [hs, hch] at hprop
  rcases mem_foldl_propStep hprop with hnil | ⟨cp, hcp, hname, hkind⟩
  · exact absurd hnil List.not_mem_nil
  -- the prop has the name and kind of a template prop the nested component accepts
  obtain ⟨pb, ⟨hpbname, hpbkind⟩, hacc⟩ := haccepts cp hcp
  obtain ⟨name, v⟩ := prop
  rw [accepts_eq] at hacc
  rw [ComponentPlan.accepts_eq, hprops, hcallbacks,
    show name = pb.name from hname.trans hpbname,
    show v.isCallback = pb.value.isCallback from hkind.trans hpbkind]
  exact hacc

end Compiled

/-! ## Composition checks and mount -/

/-- The composition checks fail with a recursion only for a real cycle of nested components, and
a program that passed them mounts: every component is found, every mount of a fresh instance of
it within the program's mount bound succeeds, into any container with any props and over any
scene, and leaves a tree no deeper than the number of distinct component names; and every prop
the runtime passes to a nested instance, at mount or with an update, is one its plan accepts. -/
theorem validated_program_mounts :
    (∀ (cs : List ComponentSource) (chain : List String),
      validateComposition cs = .error (.recursive chain) → NestingCycle cs chain) ∧
    ∀ (cs : List ComponentSource) (o : CompileOptions) (rs : List CompileResult),
      compileProgram cs o = .ok rs →
      let prog : Program := ⟨rs.map (·.plan), o.runtime⟩
      (∀ c ∈ cs, ∃ plan, prog.find? c.name = some plan ∧
        ∀ (id container : Nat) (props : Props) (scene : Scene), ∃ c',
          Act.exec (Instance.mount prog prog.mountDepth container props)
              ⟨{ id, plan }, [], scene⟩ = (.ok (), c') ∧
            (Instance.node c'.self c'.children).Within (componentNames cs).dedup.length) ∧
      ∀ plan ∈ prog.plans, ∀ (i : Nat) (ch : ChildPlan), plan.children[i]? = some ch →
        ∃ childPlan, prog.find? ch.component = some childPlan ∧
          ∀ s : InstanceState, s.plan = plan → ∀ changed, ∀ prop ∈ s.childProps i changed,
            childPlan.accepts prop = true := by
  refine ⟨fun cs chain h => validateComposition_recursive h, fun cs o rs h => ?_⟩
  intro prog
  refine ⟨fun c hc => ?_, fun plan hplan i ch hch => childProps_accepted h hplan hch⟩
  obtain ⟨-, done, hdone, hall⟩ := validateComposition_ok (compileProgram_ok h).1
  -- the component's name was cleared at some position, below the number of distinct names
  obtain ⟨i, hi⟩ := List.mem_iff_getElem?.mp (hall c hc)
  have hilt : i < done.length := (List.getElem?_eq_some_iff.mp hi).1
  have hdone_len : done.length ≤ (componentNames cs).dedup.length :=
    length_le_of_names hdone.nodup hdone.named
  have hnames_len : (componentNames cs).dedup.length ≤ prog.plans.length := by
    have hlen : cs.length = rs.length := (compileProgram_ok h).2.length_eq
    calc (componentNames cs).dedup.length
        ≤ (componentNames cs).length := (List.dedup_sublist _).length_le
      _ = prog.plans.length := by simp [prog, componentNames, hlen]
  -- the program finds the plan of the component the checks found under that name
  obtain ⟨c', hc'⟩ := exists_lookupComponent (List.mem_map.mpr ⟨c, hc, rfl⟩)
  have hrel := lookup_rel_find? h c.name
  rw [hc'] at hrel
  obtain ⟨plan, hfind⟩ : ∃ plan, prog.find? c.name = some plan := by
    revert hrel
    cases prog.find? c.name with
    | none => intro hrel; cases hrel
    | some plan => intro _; exact ⟨plan, rfl⟩
  refine ⟨plan, hfind, fun id container props scene => ?_⟩
  have hdepth : 2 * (i + 1) ≤ prog.mountDepth := by
    unfold Program.mountDepth
    omega
  exact (mountsWithin_of_cleared h hdone i c.name hi plan hfind _ hdepth).mono (by omega)
    id container props scene

/-- A counter that shows its count through a nested `Badge`. -/
def counterSources : List ComponentSource :=
  [{ name := "Counter", filePath := "src/Counter.comp", states := [⟨"count", "0"⟩], derived := [],
      handlers := [⟨"bump", "count = count + 1"⟩], props := [], callbacks := [],
      nodes := [.element "button" [] [⟨"click", "bump"⟩]
        [.component "Badge" [⟨"n", .expression "count"⟩]]] },
    { name := "Badge", filePath := "src/Badge.comp", states := [⟨"n", "0"⟩], derived := [], handlers := [],
      props := ["n"], callbacks := [], nodes := [.element "b" [] [] [.expression "n"]] }]

/-- The counter program compiles, and a fresh `Counter` mounts from any cursor into a tree of at
most two levels. -/
theorem counter_program_mounts :
    ∃ rs, compileProgram counterSources {} = .ok rs ∧
      let prog : Program := ⟨rs.map (·.plan), ({} : CompileOptions).runtime⟩
      ∃ plan, prog.find? "Counter" = some plan ∧
        ∀ (id container : Nat) (props : Props) (scene : Scene), ∃ c',
          Act.exec (Instance.mount prog prog.mountDepth container props)
              ⟨{ id, plan }, [], scene⟩ = (.ok (), c') ∧
            (Instance.node c'.self c'.children).Within 2 := by
  have hok : (compileProgram counterSources {}).isOk = true := by decide +kernel
  obtain ⟨rs, hrs⟩ : ∃ rs, compileProgram counterSources {} = .ok rs := by
    revert hok
    cases compileProgram counterSources {} with
    | error e => intro h; cases h
    | ok rs => intro _; exact ⟨rs, rfl⟩
  have hnames : (componentNames counterSources).dedup.length = 2 := by decide +kernel
  obtain ⟨hmounts, -⟩ := validated_program_mounts.2 counterSources {} rs hrs
  refine ⟨rs, hrs, ?_⟩
  rw [← hnames]
  exact hmounts _ List.mem_cons_self

end Reactive
