import Reactive.Proofs.Compose.Program

/-!
# The reachability check of a program

Before a mount touches the host it checks that every component reachable from the plan through
nested instances is found (`Program.checkTree`). The check walks the plans depth first, in
template order, and expands each component once, keeping the names it has expanded; a bound on
the depth stands for the recursion of the walk. This file says what the check decides.

* It passes exactly when every reachable component is found (`checkTree_eq_ok_iff`), and it fails
  only by naming a reachable component that is not found (`checkTree_eq_error`). The bound never
  cuts the walk short: each level of it expands a new name, and there are no more names than
  plans (`checkFrom_walks`).
* Recursion or not, the component it names is the one the pruned walk names: the first that is
  not found in depth-first template order, skipping every component already expanded
  (`checkTree_error_iff_prunedWalk`). The walk is a relation with no bound (`PrunedWalk`), and has
  one outcome.
* When no reachable component contains itself, the skipped components are found with everything
  below them (`checkFrom_first`), so the component named is the first missing one in depth-first
  template order (`checkTree_error_iff_firstMissing`).
-/

namespace Reactive

open Component

namespace Program

/-- Component `y` is the component of a nested instance of `plan`, at any depth: of one of the
plan's own nested instances, or reachable from the plan found for one of them. -/
inductive Reaches (p : Program) : ComponentPlan → String → Prop
  | child {plan : ComponentPlan} {ch : ChildPlan} : ch ∈ plan.children →
      Reaches p plan ch.component
  | nested {plan q : ComponentPlan} {ch : ChildPlan} {y : String} : ch ∈ plan.children →
      p.find? ch.component = some q → Reaches p q y → Reaches p plan y

/-- Every component reachable from the plan is found. -/
def FindsAll (p : Program) (plan : ComponentPlan) : Prop :=
  ∀ y, p.Reaches plan y → (p.find? y).isSome

/-- The component is found, with everything reachable from it. -/
def Complete (p : Program) (y : String) : Prop :=
  ∀ q, p.find? y = some q → p.FindsAll q

/-- Some component reachable from the plan contains itself. -/
def Recursive (p : Program) (plan : ComponentPlan) : Prop :=
  ∃ y q, p.Reaches plan y ∧ p.find? y = some q ∧ p.Reaches q y

/-- `x` is the first component that is not found, in depth-first template order, among the
nested instances `cs` and those nested in them: the first instance's component when it is not
found; otherwise the first missing one below it, or, when everything below it is found, the first
missing one among the rest. -/
inductive FirstMissing (p : Program) : List ChildPlan → String → Prop
  | here {ch : ChildPlan} {cs : List ChildPlan} :
      p.find? ch.component = none → FirstMissing p (ch :: cs) ch.component
  | nested {ch : ChildPlan} {cs : List ChildPlan} {q : ComponentPlan} {x : String} :
      p.find? ch.component = some q → FirstMissing p q.children x → FirstMissing p (ch :: cs) x
  | after {ch : ChildPlan} {cs : List ChildPlan} {q : ComponentPlan} {x : String} :
      p.find? ch.component = some q → p.FindsAll q → FirstMissing p cs x →
      FirstMissing p (ch :: cs) x

variable {p : Program}

/-! ## Reachability -/

/-- Reachability goes on through the plan found for a reachable component. -/
theorem Reaches.trans {plan q : ComponentPlan} {y z : String} (h : p.Reaches plan y)
    (hq : p.find? y = some q) (hz : p.Reaches q z) : p.Reaches plan z := by
  induction h with
  | child hch => exact .nested hch hq hz
  | nested hch hfind _ ih => exact .nested hch hfind (ih hq)

/-- Below no recursion, the plan found for a nested instance's component is not recursive. -/
theorem not_recursive_of_child {plan q : ComponentPlan} {ch : ChildPlan}
    (hrec : ¬ p.Recursive plan) (hch : ch ∈ plan.children) (hq : p.find? ch.component = some q) :
    ¬ p.Recursive q := by
  intro hrec'
  obtain ⟨y, q', hy, hq', hback⟩ := hrec'
  exact hrec ⟨y, q', .nested hch hq hy, hq', hback⟩

/-- Below no recursion, the plan found for a nested instance's component reaches neither that
component nor any name the plan does not reach. -/
theorem not_reaches_of_child {plan q : ComponentPlan} {ch : ChildPlan} {anc : List String}
    (hrec : ¬ p.Recursive plan) (hch : ch ∈ plan.children) (hq : p.find? ch.component = some q)
    (hanc : ∀ a ∈ anc, ¬ p.Reaches plan a) : ∀ a ∈ anc ++ [ch.component], ¬ p.Reaches q a := by
  intro a ha hreach
  rcases List.mem_append.mp ha with ha | ha
  · exact hanc a ha (.nested hch hq hreach)
  · rw [List.mem_singleton.mp ha] at hreach
    exact hrec ⟨_, q, .child hch, hq, hreach⟩

/-- A plan finds everything reachable from it when each of its nested instances' components is
complete. -/
theorem findsAll_of_children {plan : ComponentPlan}
    (h : ∀ ch ∈ plan.children, (p.find? ch.component).isSome ∧ p.Complete ch.component) :
    p.FindsAll plan := by
  intro y hy
  cases hy with
  | child hch => exact (h _ hch).1
  | nested hch hq hy => exact (h _ hch).2 _ hq _ hy

/-- A plan with no nested instances reaches nothing. -/
theorem findsAll_of_children_nil {plan : ComponentPlan} (h : plan.children = []) :
    p.FindsAll plan := by
  intro y hy
  cases hy with
  | child hch => rw [h] at hch; cases hch
  | nested hch => rw [h] at hch; cases hch

/-- Everything reachable from a component reachable from the plan is reachable from the plan. -/
theorem FindsAll.of_reaches {plan : ComponentPlan} (h : p.FindsAll plan) {y : String}
    (hy : p.Reaches plan y) : p.Complete y :=
  fun _ hq z hz => h z (hy.trans hq hz)

/-! ## The names a walk has expanded -/

/-- Names the walk has expanded: each once, each found. -/
structure Seen (p : Program) (S : List String) : Prop where
  nodup : S.Nodup
  found : ∀ y ∈ S, (p.find? y).isSome

theorem Seen.nil : Seen p [] := ⟨List.nodup_nil, fun _ h => absurd h List.not_mem_nil⟩

theorem Seen.push {S : List String} {y : String} (h : Seen p S) (hy : y ∉ S)
    (hfound : (p.find? y).isSome) : Seen p (S ++ [y]) := by
  refine ⟨List.nodup_append.mpr ⟨h.nodup, List.nodup_singleton y, ?_⟩, fun z hz => ?_⟩
  · intro a ha b hb
    rw [List.mem_singleton.mp hb]
    rintro rfl
    exact hy ha
  · rcases List.mem_append.mp hz with hz | hz
    · exact h.found z hz
    · rw [List.mem_singleton.mp hz]
      exact hfound

/-- There are no more expanded names than plans: each is the name of a plan. -/
theorem Seen.length_le {S : List String} (h : Seen p S) : S.length ≤ p.plans.length := by
  have hnames : S ⊆ p.plans.map (·.name) := by
    intro y hy
    obtain ⟨q, hq⟩ := Option.isSome_iff_exists.mp (h.found y hy)
    obtain ⟨hmem, hname⟩ := Program.find?_some hq
    exact List.mem_map.mpr ⟨q, hmem, hname⟩
  simpa using (h.nodup.subperm hnames).length_le

/-- One more name still leaves the walk enough depth. -/
theorem Seen.fuel_push {S₀ S : List String} {k : Nat} {y : String} (hS₀ : Seen p S₀)
    (hsub : S₀ ⊆ S) (hfuel : p.plans.length + 1 ≤ k + 1 + S₀.length) :
    p.plans.length + 1 ≤ k + (S ++ [y]).length := by
  have hlen : S₀.length ≤ S.length := (hS₀.nodup.subperm hsub).length_le
  simp only [List.length_append, List.length_singleton]
  omega

/-- The plan found for the component has its nested instances' components found and expanded. -/
def Expanded (p : Program) (S : List String) (y : String) : Prop :=
  ∀ q, p.find? y = some q → ∀ ch ∈ q.children, (p.find? ch.component).isSome ∧ ch.component ∈ S

theorem Expanded.mono {S S' : List String} {y : String} (h : p.Expanded S y) (hS : S ⊆ S') :
    p.Expanded S' y :=
  fun q hq ch hch => ⟨(h q hq ch hch).1, hS (h q hq ch hch).2⟩

/-- What a call of the walk leaves, from the names `S₀` expanded before it: those names and
more, the components of the nested instances `cs` found and expanded or skipped, and every new
name expanded. -/
structure Walked (p : Program) (cs : List ChildPlan) (S₀ S : List String) : Prop where
  grows : S₀ ⊆ S
  seen : Seen p S
  children : ∀ ch ∈ cs, (p.find? ch.component).isSome ∧ ch.component ∈ S
  expanded : ∀ y ∈ S, y ∈ S₀ ∨ p.Expanded S y

theorem Walked.start {S₀ : List String} (h : Seen p S₀) : p.Walked [] S₀ S₀ :=
  ⟨fun _ h => h, h, fun _ h => absurd h List.not_mem_nil, fun _ hy => .inl hy⟩

/-- The walk skips a nested instance whose component is found and already expanded. -/
theorem Walked.skip {pre : List ChildPlan} {ch : ChildPlan} {S₀ S : List String}
    (h : p.Walked pre S₀ S) (hfound : (p.find? ch.component).isSome) (hmem : ch.component ∈ S) :
    p.Walked (pre ++ [ch]) S₀ S := by
  refine ⟨h.grows, h.seen, fun c hc => ?_, h.expanded⟩
  rcases List.mem_append.mp hc with hc | hc
  · exact h.children c hc
  · rw [List.mem_singleton.mp hc]
    exact ⟨hfound, hmem⟩

/-- The walk expands a nested instance's component it had not expanded: it pushes the name, and
the call on the plan found for it walks that plan's nested instances. -/
theorem Walked.descend {pre : List ChildPlan} {ch : ChildPlan} {cp : ComponentPlan}
    {S₀ S S' : List String} (h : p.Walked pre S₀ S) (hcp : p.find? ch.component = some cp)
    (hnested : p.Walked cp.children (S ++ [ch.component]) S') : p.Walked (pre ++ [ch]) S₀ S' := by
  have hsub : S ⊆ S' := fun y hy => hnested.grows (List.mem_append_left _ hy)
  have hself : ch.component ∈ S' := hnested.grows (List.mem_append_right _ List.mem_cons_self)
  refine ⟨fun y hy => hsub (h.grows hy), hnested.seen, fun c hc => ?_, fun y hy => ?_⟩
  · rcases List.mem_append.mp hc with hc | hc
    · exact ⟨(h.children c hc).1, hsub (h.children c hc).2⟩
    · rw [List.mem_singleton.mp hc, hcp]
      exact ⟨rfl, hself⟩
  · rcases hnested.expanded y hy with hy | hy
    · rcases List.mem_append.mp hy with hy | hy
      · exact (h.expanded y hy).imp id fun he => he.mono hsub
      · -- the pushed name is expanded by the call on its plan
        rw [List.mem_singleton.mp hy]
        refine .inr fun q hq => ?_
        rw [hcp] at hq
        cases hq
        exact hnested.children
    · exact .inr hy

/-! ## The pruned walk -/

/-- The walk of the check over nested instances `cs`, from the expanded names `S`, with no bound:
it ends with the names then expanded (`.ok`), or naming a component that is not found
(`.error`). It names a nested instance's component that is not found, skips one already
expanded, and expands any other: pushes its name and walks the nested instances of its plan
before the rest. -/
inductive PrunedWalk (p : Program) :
    List String → List ChildPlan → Except String (List String) → Prop
  | nil {S : List String} : PrunedWalk p S [] (.ok S)
  | missing {S : List String} {ch : ChildPlan} {cs : List ChildPlan} :
      p.find? ch.component = none → PrunedWalk p S (ch :: cs) (.error ch.component)
  | skip {S : List String} {ch : ChildPlan} {cs : List ChildPlan} {q : ComponentPlan}
      {r : Except String (List String)} :
      p.find? ch.component = some q → ch.component ∈ S → PrunedWalk p S cs r →
      PrunedWalk p S (ch :: cs) r
  | missingBelow {S : List String} {ch : ChildPlan} {cs : List ChildPlan} {q : ComponentPlan}
      {x : String} :
      p.find? ch.component = some q → ch.component ∉ S →
      PrunedWalk p (S ++ [ch.component]) q.children (.error x) →
      PrunedWalk p S (ch :: cs) (.error x)
  | descend {S S' : List String} {ch : ChildPlan} {cs : List ChildPlan} {q : ComponentPlan}
      {r : Except String (List String)} :
      p.find? ch.component = some q → ch.component ∉ S →
      PrunedWalk p (S ++ [ch.component]) q.children (.ok S') → PrunedWalk p S' cs r →
      PrunedWalk p S (ch :: cs) r

/-- The walk has one outcome. -/
theorem PrunedWalk.det {S : List String} {cs : List ChildPlan} {r r' : Except String (List String)}
    (h : p.PrunedWalk S cs r) (h' : p.PrunedWalk S cs r') : r = r' := by
  induction h generalizing r' with
  | nil => cases h'; rfl
  | missing hnone =>
    cases h' with
    | missing _ => rfl
    | skip hq _ _ => rw [hnone] at hq; cases hq
    | missingBelow hq _ _ => rw [hnone] at hq; cases hq
    | descend hq _ _ _ => rw [hnone] at hq; cases hq
  | skip hq hmem _ ih =>
    cases h' with
    | missing hnone => rw [hnone] at hq; cases hq
    | skip _ _ hrest => exact ih hrest
    | missingBelow _ hnot _ => exact absurd hmem hnot
    | descend _ hnot _ _ => exact absurd hmem hnot
  | missingBelow hq hnot _ ih =>
    cases h' with
    | missing hnone => rw [hnone] at hq; cases hq
    | skip _ hmem _ => exact absurd hmem hnot
    | missingBelow hq' _ hx' =>
      rw [hq] at hq'
      cases hq'
      exact ih hx'
    | descend hq' _ hok _ =>
      rw [hq] at hq'
      cases hq'
      cases ih hok
  | descend hq hnot _ _ ihb ihr =>
    cases h' with
    | missing hnone => rw [hnone] at hq; cases hq
    | skip _ hmem _ => exact absurd hmem hnot
    | missingBelow hq' _ hx' =>
      rw [hq] at hq'
      cases hq'
      cases ihb hx'
    | descend hq' _ hok' hrest' =>
      rw [hq] at hq'
      cases hq'
      cases ihb hok'
      exact ihr hrest'

/-- A walk that ends with expanded names goes on over more nested instances from there. -/
theorem PrunedWalk.append_ok {S : List String} {pre : List ChildPlan}
    {r₀ : Except String (List String)} (h : p.PrunedWalk S pre r₀) :
    ∀ {S' : List String} {cs : List ChildPlan} {r : Except String (List String)},
      r₀ = .ok S' → p.PrunedWalk S' cs r → p.PrunedWalk S (pre ++ cs) r := by
  induction h with
  | nil =>
    intro _ _ _ he hcs
    cases he
    exact hcs
  | missing => intro _ _ _ he; cases he
  | skip hq hmem _ ih => intro _ _ _ he hcs; exact .skip hq hmem (ih he hcs)
  | missingBelow => intro _ _ _ he; cases he
  | descend hq hnot hb _ _ ih => intro _ _ _ he hcs; exact .descend hq hnot hb (ih he hcs)

/-! ## What the walk decides -/

/-- One call of the walk, from expanded names `S₀`, with a depth bound no smaller than the names
not yet expanded, ends as the pruned walk over the plan's nested instances does: it fails only by
naming a missing component reachable from the plan, and otherwise it has expanded everything the
plan's nested instances lead to. The bound is never reached: it drops by one at each level, where
one more name is expanded. -/
theorem checkFrom_walks (k : Nat) : ∀ (q : ComponentPlan) (S₀ : List String), Seen p S₀ →
    p.plans.length + 1 ≤ k + S₀.length →
    Spec (· = S₀) (p.checkFrom k q)
      (fun _ S => p.Walked q.children S₀ S ∧ p.PrunedWalk S₀ q.children (.ok S))
      (fun e => ∃ x, e = .unknownComponent x ∧ p.Reaches q x ∧ p.find? x = none ∧
        p.PrunedWalk S₀ q.children (.error x)) := by
  induction k with
  | zero =>
    intro _ S₀ hS₀ hfuel
    exact absurd hfuel (by have := hS₀.length_le; omega)
  | succ k ih =>
    intro q S₀ hS₀ hfuel
    rw [Program.checkFrom]
    refine Spec.bind (Spec.mono (Spec.forIn_yield
      (fun pre _ S => p.Walked pre S₀ S ∧ p.PrunedWalk S₀ pre (.ok S))
      fun pre ch post hcs _ => ?_) (by rintro _ rfl; exact ⟨Walked.start hS₀, .nil⟩)
        (fun _ _ h => h) (fun _ h => h)) fun _ => Spec.pure _ fun _ h => h
    have hmem : ch ∈ q.children := by rw [hcs]; simp
    split
    · rename_i hnone
      refine Spec.of_forall fun S hS => Spec.throw _ ⟨ch.component, rfl, .child hmem, hnone, ?_⟩
      rw [hcs]
      exact hS.2.append_ok rfl (.missing hnone)
    · rename_i cp hcp
      refine Spec.bind Spec.get fun S => ?_
      split
      · rename_i hnew
        have hnot : ch.component ∉ S := by simpa using hnew
        refine Spec.bind (Spec.change _) fun _ => Spec.of_forall ?_
        rintro _ ⟨_, ⟨⟨hW, hP⟩, rfl⟩, rfl⟩
        have hseen := hW.seen.push hnot (by simp [hcp])
        refine Spec.bind (Spec.mono (ih cp _ hseen (hS₀.fuel_push hW.grows hfuel))
          (fun _ h => h) (fun _ _ h => h) fun e he => ?_) fun _ => ?_
        · obtain ⟨x, he, hx, hmiss, hbelow⟩ := he
          refine ⟨x, he, .nested hmem hcp hx, hmiss, ?_⟩
          rw [hcs]
          exact hP.append_ok rfl (.missingBelow hcp hnot hbelow)
        · exact Spec.pure _ fun _ hnested =>
            ⟨_, rfl, hW.descend hcp hnested.1, hP.append_ok rfl (.descend hcp hnot hnested.2 .nil)⟩
      · rename_i hold
        refine Spec.pure _ fun _ hS => ?_
        obtain ⟨⟨hW, hP⟩, rfl⟩ := hS
        have hmemS : ch.component ∈ S := by simpa using hold
        exact ⟨_, rfl, hW.skip (by simp [hcp]) hmemS, hP.append_ok rfl (.skip hcp hmemS .nil)⟩

/-- Everything reachable from a plan whose walk, started with nothing expanded, has finished is
found: each name the walk left is expanded. -/
theorem Walked.findsAll {plan : ComponentPlan} {S : List String} (h : p.Walked plan.children [] S) :
    p.FindsAll plan := by
  -- by induction on reachability, from plans whose nested components are found and expanded
  suffices hreach : ∀ q y, p.Reaches q y →
      (∀ ch ∈ q.children, (p.find? ch.component).isSome ∧ ch.component ∈ S) →
      (p.find? y).isSome ∧ y ∈ S from
    fun y hy => (hreach plan y hy h.children).1
  intro q y hy hq
  induction hy with
  | child hch => exact hq _ hch
  | nested hch hfind _ ih =>
    apply ih
    rcases h.expanded _ (hq _ hch).2 with hnil | hexp
    · exact absurd hnil List.not_mem_nil
    · exact hexp _ hfind

/-- The check is the walk from the plan with nothing expanded and a bound one above the number of
plans. -/
theorem checkTree_eq (plan : ComponentPlan) :
    p.checkTree plan = (·.1) <$> (p.checkFrom (p.plans.length + 1) plan).run [] := rfl

/-- A failed check names a reachable component that is not found. -/
theorem checkTree_eq_error {plan : ComponentPlan} {e : InstanceError}
    (h : p.checkTree plan = .error e) :
    ∃ x, e = .unknownComponent x ∧ p.Reaches plan x ∧ p.find? x = none := by
  have hwalk := checkFrom_walks (p.plans.length + 1) plan [] (Seen.nil : Seen p []) (by simp) [] rfl
  rw [checkTree_eq] at h
  cases hrun : (p.checkFrom (p.plans.length + 1) plan).run [] with
  | ok r =>
    rw [hrun] at h
    cases h
  | error e' =>
    rw [hrun] at h hwalk
    cases h
    obtain ⟨x, he, hx, hmiss, -⟩ := hwalk
    exact ⟨x, he, hx, hmiss⟩

/-- The check passes exactly when every component reachable from the plan is found. -/
theorem checkTree_eq_ok_iff {plan : ComponentPlan} : p.checkTree plan = .ok () ↔ p.FindsAll plan := by
  constructor
  · intro h
    have hwalk := checkFrom_walks (p.plans.length + 1) plan [] (Seen.nil : Seen p []) (by simp) [] rfl
    rw [checkTree_eq] at h
    cases hrun : (p.checkFrom (p.plans.length + 1) plan).run [] with
    | ok r =>
      rw [hrun] at hwalk
      exact Walked.findsAll hwalk.1
    | error e =>
      rw [hrun] at h
      cases h
  · intro hall
    cases h : p.checkTree plan with
    | ok u => rfl
    | error e =>
      obtain ⟨x, -, hx, hmiss⟩ := checkTree_eq_error h
      have := hall x hx
      rw [hmiss] at this
      cases this

/-- The check fails, naming a missing component, exactly when a component reachable from the plan
is not found. -/
theorem checkTree_fails_iff {plan : ComponentPlan} :
    (∃ x, p.checkTree plan = .error (.unknownComponent x)) ↔
      ∃ y, p.Reaches plan y ∧ p.find? y = none := by
  constructor
  · rintro ⟨x, h⟩
    obtain ⟨x', -, hx, hmiss⟩ := checkTree_eq_error h
    exact ⟨x', hx, hmiss⟩
  · rintro ⟨y, hy, hmiss⟩
    cases h : p.checkTree plan with
    | ok u =>
      have := checkTree_eq_ok_iff.mp h y hy
      rw [hmiss] at this
      cases this
    | error e =>
      obtain ⟨x, rfl, -⟩ := checkTree_eq_error h
      exact ⟨x, rfl⟩

/-! ## The first missing component -/

/-- The first missing component is not found. -/
theorem FirstMissing.missing {cs : List ChildPlan} {x : String} (h : p.FirstMissing cs x) :
    p.find? x = none := by
  induction h with
  | here hnone => exact hnone
  | nested _ _ ih => exact ih
  | after _ _ _ ih => exact ih

/-- The first missing component among nested instances of a plan is reachable from it. -/
theorem FirstMissing.reaches {cs : List ChildPlan} {x : String} (h : p.FirstMissing cs x)
    {plan : ComponentPlan} (hcs : ∀ ch ∈ cs, ch ∈ plan.children) : p.Reaches plan x := by
  induction h generalizing plan with
  | here _ => exact .child (hcs _ List.mem_cons_self)
  | nested hq _ ih => exact .nested (hcs _ List.mem_cons_self) hq (ih fun _ h => h)
  | after _ _ _ ih => exact ih fun c hc => hcs c (List.mem_cons_of_mem _ hc)

/-- A plan with a first missing component does not find everything reachable from it. -/
theorem FirstMissing.not_findsAll {plan : ComponentPlan} {x : String}
    (h : p.FirstMissing plan.children x) : ¬ p.FindsAll plan := by
  intro hall
  have hfound := hall x (h.reaches fun _ h => h)
  rw [h.missing] at hfound
  cases hfound

/-- There is at most one first missing component: below a found instance something is missing
or nothing is, never both. -/
theorem FirstMissing.unique {cs : List ChildPlan} {x x' : String} (h : p.FirstMissing cs x)
    (h' : p.FirstMissing cs x') : x = x' := by
  induction h generalizing x' with
  | here hnone =>
    cases h' with
    | here _ => rfl
    | nested hq _ => rw [hnone] at hq; cases hq
    | after hq _ _ => rw [hnone] at hq; cases hq
  | nested hq hx ih =>
    cases h' with
    | here hnone => rw [hnone] at hq; cases hq
    | nested hq' hx' =>
      rw [hq] at hq'
      cases hq'
      exact ih hx'
    | after hq' hall _ =>
      rw [hq] at hq'
      cases hq'
      exact absurd hall hx.not_findsAll
  | after hq hall _ ih =>
    cases h' with
    | here hnone => rw [hnone] at hq; cases hq
    | nested hq' hx' =>
      rw [hq] at hq'
      cases hq'
      exact absurd hall hx'.not_findsAll
    | after _ _ hx' => exact ih hx'

/-- Nested instances whose components are complete come before the first missing one. -/
theorem FirstMissing.append {pre cs : List ChildPlan} {x : String}
    (hpre : ∀ ch ∈ pre, (p.find? ch.component).isSome ∧ p.Complete ch.component)
    (h : p.FirstMissing cs x) : p.FirstMissing (pre ++ cs) x := by
  induction pre with
  | nil => exact h
  | cons ch pre ih =>
    obtain ⟨hfound, hcomplete⟩ := hpre ch List.mem_cons_self
    obtain ⟨q, hq⟩ := Option.isSome_iff_exists.mp hfound
    exact .after hq (hcomplete q hq) (ih fun c hc => hpre c (List.mem_cons_of_mem _ hc))

/-- What a call of the walk leaves below no recursion, from the names `S₀` expanded before it:
those names and more, the components of the nested instances `cs` complete, and every new name
complete. -/
structure Settled (p : Program) (cs : List ChildPlan) (S₀ S : List String) : Prop where
  grows : S₀ ⊆ S
  seen : Seen p S
  complete : ∀ ch ∈ cs, (p.find? ch.component).isSome ∧ p.Complete ch.component
  new : ∀ y ∈ S, y ∈ S₀ ∨ p.Complete y

theorem Settled.start {S₀ : List String} (h : Seen p S₀) : p.Settled [] S₀ S₀ :=
  ⟨fun _ h => h, h, fun _ h => absurd h List.not_mem_nil, fun _ hy => .inl hy⟩

/-- The walk skips a nested instance whose component is complete. -/
theorem Settled.skip {pre : List ChildPlan} {ch : ChildPlan} {S₀ S : List String}
    (h : p.Settled pre S₀ S) (hfound : (p.find? ch.component).isSome)
    (hcomplete : p.Complete ch.component) : p.Settled (pre ++ [ch]) S₀ S := by
  refine ⟨h.grows, h.seen, fun c hc => ?_, h.new⟩
  rcases List.mem_append.mp hc with hc | hc
  · exact h.complete c hc
  · rw [List.mem_singleton.mp hc]
    exact ⟨hfound, hcomplete⟩

/-- The walk expands a nested instance's component and finds everything below it: the component
is complete. -/
theorem Settled.descend {pre : List ChildPlan} {ch : ChildPlan} {cp : ComponentPlan}
    {S₀ S S' : List String} (h : p.Settled pre S₀ S) (hcp : p.find? ch.component = some cp)
    (hnested : p.Settled cp.children (S ++ [ch.component]) S') :
    p.Settled (pre ++ [ch]) S₀ S' := by
  have hsub : S ⊆ S' := fun y hy => hnested.grows (List.mem_append_left _ hy)
  have hcomplete : p.Complete ch.component := by
    intro q hq
    rw [hcp] at hq
    cases hq
    exact findsAll_of_children hnested.complete
  refine ⟨fun y hy => hsub (h.grows hy), hnested.seen, fun c hc => ?_, fun y hy => ?_⟩
  · rcases List.mem_append.mp hc with hc | hc
    · exact h.complete c hc
    · rw [List.mem_singleton.mp hc, hcp]
      exact ⟨rfl, hcomplete⟩
  · rcases hnested.new y hy with hy | hy
    · rcases List.mem_append.mp hy with hy | hy
      · exact h.new y hy
      · rw [List.mem_singleton.mp hy]
        exact .inr hcomplete
    · exact .inr hy

/-- One call of the walk below no recursion: it fails by naming the first missing component in
depth-first template order, and otherwise the plan finds everything reachable from it. The
components the walk skips as already expanded are complete: an expanded name is complete or an
ancestor of the call (`anc`), and no ancestor is reachable from the plan, since no component
contains itself. -/
theorem checkFrom_first (k : Nat) : ∀ (q : ComponentPlan) (anc S₀ : List String), Seen p S₀ →
    p.plans.length + 1 ≤ k + S₀.length → ¬ p.Recursive q → (∀ a ∈ anc, ¬ p.Reaches q a) →
    (∀ y ∈ S₀, y ∈ anc ∨ p.Complete y) →
    Spec (· = S₀) (p.checkFrom k q) (fun _ S => p.Settled q.children S₀ S)
      (fun e => ∃ x, e = .unknownComponent x ∧ p.FirstMissing q.children x) := by
  induction k with
  | zero =>
    intro _ _ S₀ hS₀ hfuel _ _ _
    exact absurd hfuel (by have := hS₀.length_le; omega)
  | succ k ih =>
    intro q anc S₀ hS₀ hfuel hrec hanc hS₀anc
    rw [Program.checkFrom]
    refine Spec.bind (Spec.mono (Spec.forIn_yield (fun pre _ S => p.Settled pre S₀ S)
      fun pre ch post hcs _ => ?_) (by rintro _ rfl; exact Settled.start hS₀) (fun _ _ h => h)
        (fun _ h => h)) fun _ => Spec.pure _ fun _ h => h
    have hmem : ch ∈ q.children := by rw [hcs]; simp
    split
    · rename_i hnone
      refine Spec.of_forall fun S hW => Spec.throw _ ⟨ch.component, rfl, ?_⟩
      rw [hcs]
      exact FirstMissing.append hW.complete (.here hnone)
    · rename_i cp hcp
      refine Spec.bind Spec.get fun S => ?_
      split
      · rename_i hnew
        refine Spec.bind (Spec.change _) fun _ => Spec.of_forall ?_
        rintro _ ⟨_, ⟨hW, rfl⟩, rfl⟩
        have hnot : ch.component ∉ S := by simpa using hnew
        -- the call below runs with the pushed name as one more ancestor
        have hS' : ∀ y ∈ S ++ [ch.component], y ∈ anc ++ [ch.component] ∨ p.Complete y := by
          intro y hy
          rcases List.mem_append.mp hy with hy | hy
          · rcases hW.new y hy with hy | hy
            · exact (hS₀anc y hy).imp (List.mem_append_left _) id
            · exact .inr hy
          · exact .inl (List.mem_append_right _ hy)
        refine Spec.bind (Spec.mono (ih cp (anc ++ [ch.component]) _
          (hW.seen.push hnot (by simp [hcp])) (hS₀.fuel_push hW.grows hfuel)
          (not_recursive_of_child hrec hmem hcp) (not_reaches_of_child hrec hmem hcp hanc) hS')
          (fun _ h => h) (fun _ _ h => h) fun e he => ?_) fun _ => ?_
        · obtain ⟨x, he, hx⟩ := he
          refine ⟨x, he, ?_⟩
          rw [hcs]
          exact FirstMissing.append hW.complete (.nested hcp hx)
        · exact Spec.pure _ fun _ hnested => ⟨_, rfl, hW.descend hcp hnested⟩
      · rename_i hold
        refine Spec.pure _ fun _ hS => ?_
        obtain ⟨hW, rfl⟩ := hS
        -- an expanded name is complete, or an ancestor, which the plan cannot reach
        have hcomplete : p.Complete ch.component := by
          rcases hW.new _ (by simpa using hold) with hy | hy
          · rcases hS₀anc _ hy with hy | hy
            · exact absurd (.child hmem) (hanc _ hy)
            · exact hy
          · exact hy
        exact ⟨_, rfl, hW.skip (by simp [hcp]) hcomplete⟩

/-- Below no recursion, the check fails exactly by naming the first missing component in
depth-first template order. -/
theorem checkTree_error_iff_firstMissing {plan : ComponentPlan} (hrec : ¬ p.Recursive plan)
    {x : String} :
    p.checkTree plan = .error (.unknownComponent x) ↔ p.FirstMissing plan.children x := by
  have hfirst := checkFrom_first (p.plans.length + 1) plan [] [] (Seen.nil : Seen p []) (by simp)
    hrec (fun _ h => absurd h List.not_mem_nil) (fun _ h => absurd h List.not_mem_nil) [] rfl
  rw [checkTree_eq]
  constructor
  · intro h
    cases hrun : (p.checkFrom (p.plans.length + 1) plan).run [] with
    | ok r =>
      rw [hrun] at h
      cases h
    | error e =>
      rw [hrun] at h hfirst
      cases h
      obtain ⟨x', he, hx'⟩ := hfirst
      cases he
      exact hx'
  · intro hx
    cases hrun : (p.checkFrom (p.plans.length + 1) plan).run [] with
    | ok r =>
      rw [hrun] at hfirst
      exact absurd (findsAll_of_children hfirst.complete) hx.not_findsAll
    | error e =>
      rw [hrun] at hfirst
      obtain ⟨x', rfl, hx'⟩ := hfirst
      rw [hx.unique hx']
      rfl

/-- Recursion or not, the check fails naming `x` exactly when the pruned walk from nothing
expanded over the plan's nested instances names `x`: the first component not found in
depth-first template order, skipping every component already expanded. -/
theorem checkTree_error_iff_prunedWalk {plan : ComponentPlan} {x : String} :
    p.checkTree plan = .error (.unknownComponent x) ↔ p.PrunedWalk [] plan.children (.error x) := by
  have hwalk := checkFrom_walks (p.plans.length + 1) plan [] (Seen.nil : Seen p []) (by simp) [] rfl
  rw [checkTree_eq]
  cases hrun : (p.checkFrom (p.plans.length + 1) plan).run [] with
  | ok r =>
    rw [hrun] at hwalk
    -- the walk ended with expanded names, so it names nothing
    refine ⟨fun h => (by cases h), fun hx => ?_⟩
    cases hwalk.2.det hx
  | error e =>
    rw [hrun] at hwalk
    obtain ⟨x', rfl, -, -, hx'⟩ := hwalk
    refine ⟨fun h => ?_, fun hx => ?_⟩
    · cases h
      exact hx'
    · cases hx'.det hx
      rfl

end Program

end Reactive
