import Reactive.Component.Compose
import Reactive.Proofs.StateRun
import Mathlib.Data.List.Chain
import Mathlib.Data.List.Dedup
import Mathlib.Data.List.Perm.Subperm

/-!
# How the components of a program nest

A component *nests* another when its template holds an instance of it; names are looked up in
the program, where of two components with one name the later counts. The composition check
searches this graph depth first from every component, with the chain of components from the
start of the search and the list of components already cleared. This file proves what the
search establishes.

* A recursion it reports is a real one: a chain of at least two names that starts and ends
  with the same component, each nesting the next (`checkRecursion_error`).
* When it reports none, the cleared list holds every component, each after every component it
  nests (`checkRecursion_ok`); so nesting only goes down that list, and a chain of nestings is
  never longer than the number of distinct component names.
-/

namespace Reactive.Component

/-- The names of the components of a program, in order, repeats kept. -/
def componentNames (cs : List ComponentSource) : List String := cs.map (·.name)

/-- Component `a` nests component `b`: the component named `a` (the last one with that name)
has an instance of `b` in its template. -/
def Nests (cs : List ComponentSource) (a b : String) : Prop :=
  ∃ c, lookupComponent cs a = some c ∧ b ∈ c.nested

/-- A recursion: a chain of at least two names that starts and ends with the same component,
each nesting the next. -/
def NestingCycle (cs : List ComponentSource) (chain : List String) : Prop :=
  2 ≤ chain.length ∧ chain.head? = chain.getLast? ∧ chain.IsChain (Nests cs)

/-! ## Looking up a component -/

/-- Looking a name up finds the last component with that name. -/
theorem lookupComponent_eq_find (cs : List ComponentSource) (name : String) :
    lookupComponent cs name = cs.reverse.find? (·.name == name) := by
  suffices h : ∀ acc : Option ComponentSource,
      cs.foldl (fun acc c => if c.name == name then some c else acc) acc =
        (cs.reverse.find? (·.name == name)).or acc by
    unfold lookupComponent
    rw [h none, Option.or_none]
  induction cs with
  | nil => simp
  | cons x cs ih =>
    intro acc
    rw [List.foldl_cons, ih, List.reverse_cons, List.find?_append]
    by_cases hx : (x.name == name) = true <;> simp [hx]

theorem lookupComponent_eq_some {cs : List ComponentSource} {name : String}
    {c : ComponentSource} (h : lookupComponent cs name = some c) : c ∈ cs ∧ c.name = name := by
  rw [lookupComponent_eq_find] at h
  have hname := List.find?_some h
  exact ⟨List.mem_reverse.mp (List.mem_of_find?_eq_some h), by simpa using hname⟩

/-- A name is found exactly when some component has it. -/
theorem lookupComponent_isSome_iff {cs : List ComponentSource} {name : String} :
    (lookupComponent cs name).isSome ↔ name ∈ componentNames cs := by
  rw [lookupComponent_eq_find, List.find?_isSome]
  simp [componentNames]

theorem exists_lookupComponent {cs : List ComponentSource} {name : String}
    (h : name ∈ componentNames cs) : ∃ c, lookupComponent cs name = some c :=
  Option.isSome_iff_exists.mp (lookupComponent_isSome_iff.mpr h)

/-- A list of distinct component names is no longer than the number of distinct names. -/
theorem length_le_of_names {cs : List ComponentSource} {l : List String} (hnd : l.Nodup)
    (hl : ∀ x ∈ l, x ∈ componentNames cs) : l.length ≤ (componentNames cs).dedup.length :=
  (hnd.subperm fun x hx => List.mem_dedup.mpr (hl x hx)).length_le

/-! ## The search -/

/-- What the list of cleared components says: each is named once, is a component of the
program, and comes after every component it nests. -/
structure Cleared (cs : List ComponentSource) (done : List String) : Prop where
  nodup : done.Nodup
  named : ∀ x ∈ done, x ∈ componentNames cs
  before : ∀ (i : Nat) (x : String), done[i]? = some x → ∀ y, Nests cs x y →
    y ∈ componentNames cs → ∃ j < i, done[j]? = some y

theorem Cleared.nil (cs : List ComponentSource) : Cleared cs [] :=
  ⟨List.nodup_nil, fun _ h => absurd h List.not_mem_nil, fun _ _ h => by simp at h⟩

/-- Clearing a component all of whose nested components are cleared. -/
theorem Cleared.push {cs : List ComponentSource} {done : List String} {name : String}
    {c : ComponentSource} (h : Cleared cs done) (hname : name ∉ done)
    (hc : lookupComponent cs name = some c)
    (hnested : ∀ y ∈ c.nested, y ∈ done ∨ y ∉ componentNames cs) :
    Cleared cs (done ++ [name]) := by
  refine ⟨List.nodup_append.mpr ⟨h.nodup, List.nodup_singleton _, ?_⟩, fun x hx => ?_,
    fun i x hx y hxy hy => ?_⟩
  · intro a ha b hb hab
    rw [List.mem_singleton] at hb
    subst hb hab
    exact hname ha
  · rcases List.mem_append.mp hx with hx | hx
    · exact h.named x hx
    · rw [List.mem_singleton.mp hx]
      exact lookupComponent_isSome_iff.mp (by rw [hc]; rfl)
  · rw [List.getElem?_append] at hx
    split at hx
    · -- a component cleared before keeps its earlier nested components
      obtain ⟨j, hj, hjy⟩ := h.before i x hx y hxy hy
      refine ⟨j, hj, ?_⟩
      rw [List.getElem?_append_left (by have := (List.getElem?_eq_some_iff.mp hjy).1; omega)]
      exact hjy
    · -- the component cleared last: everything it nests is already cleared
      rename_i hi
      have hix : i = done.length := by
        have := (List.getElem?_eq_some_iff.mp hx).1
        simp only [List.length_singleton] at this
        omega
      subst hix
      rw [Nat.sub_self, List.getElem?_singleton, if_pos rfl, Option.some.injEq] at hx
      subst hx
      obtain ⟨c', hc', hy'⟩ := hxy
      rw [hc, Option.some.injEq] at hc'
      subst hc'
      rcases hnested y hy' with hmem | hmiss
      · obtain ⟨j, hj⟩ := List.mem_iff_getElem?.mp hmem
        refine ⟨j, (List.getElem?_eq_some_iff.mp hj).1, ?_⟩
        rw [List.getElem?_append_left (List.getElem?_eq_some_iff.mp hj).1]
        exact hj
      · exact absurd hy hmiss

/-- What a visit needs of its chain: a path of nestings of distinct components that ends at the
component visited, and enough fuel for every longer chain of distinct names. -/
structure ChainTo (cs : List ComponentSource) (fuel : Nat) (name : String)
    (chain : List String) : Prop where
  path : chain.IsChain (Nests cs)
  last : ∀ x ∈ chain.getLast?, Nests cs x name
  nodup : chain.Nodup
  named : ∀ x ∈ chain, x ∈ componentNames cs
  fuel : (componentNames cs).dedup.length + 1 ≤ fuel + chain.length

/-- A nested component reached from the end of a chain extends it. -/
theorem ChainTo.extend {cs : List ComponentSource} {fuel : Nat} {name : String}
    {chain : List String} {c : ComponentSource} {y : String} (h : ChainTo cs (fuel + 1) name chain)
    (hnot : name ∉ chain) (hc : lookupComponent cs name = some c) (hy : y ∈ c.nested) :
    ChainTo cs fuel y (chain ++ [name]) := by
  refine ⟨?_, ?_, ?_, ?_, ?_⟩
  · exact h.path.append (List.isChain_singleton name) fun x hx z hz => by
      rw [List.head?_singleton, Option.mem_some_iff] at hz
      exact hz ▸ h.last x hx
  · intro x hx
    rw [List.getLast?_append, List.getLast?_singleton, Option.some_or,
      Option.mem_some_iff] at hx
    exact hx ▸ ⟨c, hc, hy⟩
  · refine List.nodup_append.mpr ⟨h.nodup, List.nodup_singleton _, fun a ha b hb hab => ?_⟩
    rw [List.mem_singleton] at hb
    subst hb hab
    exact hnot ha
  · intro x hx
    rcases List.mem_append.mp hx with hx | hx
    · exact h.named x hx
    · rw [List.mem_singleton.mp hx]
      exact lookupComponent_isSome_iff.mp (by rw [hc]; rfl)
  · have := h.fuel
    simp only [List.length_append, List.length_singleton]
    omega

/-- The chain a visit reports: the part of the chain from the first place of the component
visited, closed by that component. -/
theorem nestingCycle_of_findIdx {cs : List ComponentSource} {fuel : Nat} {name : String}
    {chain : List String} {start : Nat} (h : ChainTo cs fuel name chain)
    (hfind : chain.findIdx? (· == name) = some start) :
    NestingCycle cs (chain.drop start ++ [name]) := by
  obtain ⟨hlt, hat, -⟩ := List.findIdx?_eq_some_iff_getElem.mp hfind
  have hstart : chain[start] = name := beq_iff_eq.mp hat
  have hdrop : chain.drop start = name :: chain.drop (start + 1) := by
    rw [List.drop_eq_getElem_cons hlt, hstart]
  refine ⟨by simp [hdrop], ?_, ?_⟩
  · rw [hdrop, List.getLast?_append, List.getLast?_singleton]
    rfl
  · refine (h.path.drop start).append (List.isChain_singleton name) fun x hx z hz => ?_
    rw [List.head?_singleton, Option.mem_some_iff] at hz
    rw [List.getLast?_drop, if_neg (by omega)] at hx
    exact hz ▸ h.last x hx

/-- A visit reports only real recursions. When it succeeds it keeps the cleared list cleared,
only adds to it, never clears a component of its chain, and leaves the component it visited
cleared, unless no component has its name. -/
theorem visitNesting_spec (cs : List ComponentSource) :
    ∀ (fuel : Nat) (name : String) (chain done₀ : List String), ChainTo cs fuel name chain →
      Spec (fun done => done = done₀ ∧ Cleared cs done ∧ ∀ x ∈ chain, x ∉ done)
        (visitNesting cs fuel name chain)
        (fun _ done => Cleared cs done ∧ done₀ <+: done ∧ (∀ x ∈ chain, x ∉ done) ∧
          (name ∈ done ∨ name ∉ componentNames cs))
        (fun e => ∀ cyc, e = .recursive cyc → NestingCycle cs cyc)
  | 0, name, chain, done₀, h => by
    -- a chain of distinct names is never long enough to use up the fuel
    have := length_le_of_names h.nodup h.named
    have := h.fuel
    omega
  | fuel + 1, name, chain, done₀, h => by
    rw [visitNesting]
    cases hfind : chain.findIdx? (· == name) with
    | some start =>
      -- the component is on the chain: a recursion
      refine Spec.bind (R := fun _ _ => False) (Spec.throw _ fun cyc hcyc => ?_) fun _ => Spec.of_false
      cases hcyc
      exact nestingCycle_of_findIdx h hfind
    | none =>
      have hnot : name ∉ chain := by
        intro hmem
        rw [List.findIdx?_eq_none_iff] at hfind
        exact absurd (beq_self_eq_true name) (by simpa using hfind name hmem)
      simp only
      refine Spec.bind Spec.get fun done => ?_
      by_cases hdone : done.contains name = true
      · -- already cleared
        simp only [hdone, if_true]
        refine Spec.pure _ fun d ⟨⟨rfl, hcl, hch⟩, rfl⟩ => ?_
        exact ⟨hcl, List.prefix_refl _, hch, .inl (List.contains_iff_mem.mp hdone)⟩
      · simp only [hdone, Bool.false_eq_true, if_false]
        cases hc : lookupComponent cs name with
        | none =>
          refine Spec.pure _ fun d ⟨⟨rfl, hcl, hch⟩, rfl⟩ => ?_
          refine ⟨hcl, List.prefix_refl _, hch, .inr fun hmem => ?_⟩
          obtain ⟨c, hc'⟩ := exists_lookupComponent hmem
          rw [hc] at hc'
          cases hc'
        | some c =>
          simp only
          -- the nested components are visited with the chain extended by this one
          refine Spec.bind (Spec.mono (Spec.forIn_yield
            (fun pre _ d => Cleared cs d ∧ done₀ <+: d ∧ (∀ x ∈ chain ++ [name], x ∉ d) ∧
              ∀ y ∈ pre, y ∈ d ∨ y ∉ componentNames cs)
            fun pre y post hxs _ => Spec.of_forall fun d hd => ?_) (fun d hd => ?_)
            (fun _ _ h => h) (fun _ h => h)) fun _ => ?_
          · have hy : y ∈ c.nested := by rw [hxs]; simp
            refine Spec.bind (Spec.mono (visitNesting_spec cs fuel y (chain ++ [name]) d
              (h.extend hnot hc hy)) (fun s hs => ⟨hs, hs ▸ hd.1, hs ▸ hd.2.2.1⟩)
              (fun _ s hs => hs) (fun e he => he)) fun _ => ?_
            refine Spec.pure _ fun d' ⟨hcl, hpre, hch, hy'⟩ => ⟨_, rfl, hcl, hd.2.1.trans hpre, hch, ?_⟩
            intro z hz
            rcases List.mem_append.mp hz with hz | hz
            · rcases hd.2.2.2 z hz with hz | hz
              · exact .inl (hpre.subset hz)
              · exact .inr hz
            · rw [List.mem_singleton.mp hz]
              exact hy'
          · obtain ⟨⟨rfl, hcl, hch⟩, rfl⟩ := hd
            refine ⟨hcl, List.prefix_refl _, fun x hx => ?_, fun _ h => absurd h List.not_mem_nil⟩
            rcases List.mem_append.mp hx with hx | hx
            · exact hch x hx
            · rw [List.mem_singleton.mp hx]
              exact fun hmem => hdone (List.contains_iff_mem.mpr hmem)
          · -- the component is cleared once everything it nests is
            refine Spec.mono (Spec.change _) (fun d hd => hd) (fun _ d' ⟨d, hd, hd'⟩ => ?_) (fun e he => he)
            obtain ⟨hcl, hpre, hch, hnested⟩ := hd
            have hname : name ∉ d := hch name (by simp)
            subst hd'
            refine ⟨hcl.push hname hc hnested, ?_, fun x hx hmem => ?_, .inl (by simp)⟩
            · exact hpre.trans (List.prefix_append _ _)
            · rcases List.mem_append.mp hmem with hmem | hmem
              · exact hch x (List.mem_append_left _ hx) hmem
              · exact hnot (List.mem_singleton.mp hmem ▸ hx)

/-- The search from every component in turn, as the composition check runs it. -/
def nestingSearch (cs : List ComponentSource) : StateT (List String) (Except CompileError) Unit := do
  for c in cs do
    visitNesting cs (cs.length + 2) c.name []

theorem checkRecursion_eq (cs : List ComponentSource) :
    checkRecursion cs = (do let _ ← (nestingSearch cs).run []; pure ()) := rfl

/-- The search from every component in turn reports only real recursions, and when it succeeds
every component is cleared. -/
theorem nestingSearch_spec (cs : List ComponentSource) :
    Spec (fun done => done = []) (nestingSearch cs)
      (fun _ done => Cleared cs done ∧ ∀ c ∈ cs, c.name ∈ done)
      (fun e => ∀ cyc, e = .recursive cyc → NestingCycle cs cyc) := by
  refine Spec.bind (Spec.mono (Spec.forIn_yield
    (fun pre _ done => Cleared cs done ∧ ∀ c ∈ pre, c.name ∈ done)
    fun pre c post hcs _ => Spec.of_forall fun d hd => ?_) (fun d hd => ?_) (fun _ _ h => h)
    (fun _ h => h)) fun _ => Spec.pure _ fun _ h => h
  · have hc : c ∈ cs := by rw [hcs]; simp
    have hnamed : c.name ∈ componentNames cs := List.mem_map_of_mem hc
    -- a search from an empty chain has the fuel of every chain of distinct names
    have hchain : ChainTo cs (cs.length + 2) c.name [] := by
      refine ⟨List.IsChain.nil, fun _ h => by simp at h, List.nodup_nil,
        fun _ h => absurd h List.not_mem_nil, ?_⟩
      have := (List.dedup_sublist (componentNames cs)).length_le
      simp only [componentNames, List.length_map] at this ⊢
      omega
    refine Spec.bind (Spec.mono (visitNesting_spec cs _ c.name [] d hchain)
      (fun s hs => ⟨hs, hs ▸ hd.1, fun _ h => absurd h List.not_mem_nil⟩) (fun _ s hs => hs)
      (fun e he => he)) fun _ => ?_
    refine Spec.pure _ fun d' ⟨hcl, hpre, _, hin⟩ => ⟨_, rfl, hcl, fun x hx => ?_⟩
    rcases List.mem_append.mp hx with hx | hx
    · exact hpre.subset (hd.2 x hx)
    · rw [List.mem_singleton.mp hx]
      exact hin.resolve_right (not_not_intro hnamed)
  · subst hd
    exact ⟨Cleared.nil cs, fun _ h => absurd h List.not_mem_nil⟩

/-- A recursion the composition check reports is a real one. -/
theorem checkRecursion_error {cs : List ComponentSource} {e : CompileError}
    (h : checkRecursion cs = .error e) : ∀ cyc, e = .recursive cyc → NestingCycle cs cyc := by
  rw [checkRecursion_eq] at h
  cases hrun : (nestingSearch cs).run [] with
  | error e' =>
    rw [hrun] at h
    cases h
    exact (nestingSearch_spec cs).of_error rfl hrun
  | ok p =>
    rw [hrun] at h
    cases h

/-- When the composition check finds no recursion, a list of all components exists in which
each comes after every component it nests. -/
theorem checkRecursion_ok {cs : List ComponentSource} (h : checkRecursion cs = .ok ()) :
    ∃ done, Cleared cs done ∧ ∀ c ∈ cs, c.name ∈ done := by
  rw [checkRecursion_eq] at h
  cases hrun : (nestingSearch cs).run [] with
  | error e =>
    rw [hrun] at h
    cases h
  | ok p => exact ⟨p.2, (nestingSearch_spec cs).of_ok rfl hrun⟩

/-! ## The composition check -/

/-- Checked instances of a parent each name a component, which accepts each of their props with
its kind. -/
theorem checkInstances_ok {cs : List ComponentSource} {parent : ComponentSource} :
    ∀ insts, checkInstances cs parent insts = .ok () → ∀ inst ∈ insts,
      ∃ child, lookupComponent cs inst.1 = some child ∧ ∀ p ∈ inst.2, accepts child p = true
  | [], _ => fun _ h => absurd h List.not_mem_nil
  | (name, props) :: rest, h => by
    unfold checkInstances at h
    cases hc : lookupComponent cs name with
    | none => rw [hc] at h; cases h
    | some child =>
      cases hp : props.find? (fun p => !accepts child p) with
      | some p => simp only [hc, hp] at h; cases h
      | none =>
        simp only [hc, hp] at h
        intro inst hinst
        rcases List.mem_cons.mp hinst with rfl | hinst
        · refine ⟨child, hc, fun p hp' => ?_⟩
          have := List.find?_eq_none.mp hp p hp'
          simpa using this
        · exact checkInstances_ok rest h inst hinst

/-- Checking instances fails only with an unknown component or prop. -/
theorem checkInstances_error {cs : List ComponentSource} {parent : ComponentSource} :
    ∀ insts chain, checkInstances cs parent insts ≠ .error (.recursive chain)
  | [], _ => fun h => by cases h
  | (name, props) :: rest, chain => by
    unfold checkInstances
    cases hc : lookupComponent cs name with
    | none => exact fun h => by cases h
    | some child =>
      cases hp : props.find? (fun p => !accepts child p) with
      | some p => simp only [hp]; exact fun h => by cases h
      | none => simp only [hp]; exact checkInstances_error rest chain

/-- A recursion the composition checks report is a real one. -/
theorem validateComposition_recursive {cs : List ComponentSource} {chain : List String}
    (h : validateComposition cs = .error (.recursive chain)) : NestingCycle cs chain := by
  unfold validateComposition at h
  revert h
  cases hloop : forIn cs PUnit.unit (fun parent _ => do
      checkInstances cs parent (instancesInNodes parent.nodes)
      pure (ForInStep.yield PUnit.unit)) with
  | error e =>
    intro h
    cases h
    obtain ⟨parent, -, hparent⟩ := forIn_checks_error hloop
    exact absurd hparent (checkInstances_error _ chain)
  | ok u => exact fun h => checkRecursion_error h chain rfl

/-- What passing the composition checks establishes: every nested instance names a component
that accepts each of its props with its kind, and a list of all components exists in which each
comes after every component it nests. -/
theorem validateComposition_ok {cs : List ComponentSource} (h : validateComposition cs = .ok ()) :
    (∀ parent ∈ cs, ∀ inst ∈ instancesInNodes parent.nodes,
      ∃ child, lookupComponent cs inst.1 = some child ∧ ∀ p ∈ inst.2, accepts child p = true) ∧
    ∃ done, Cleared cs done ∧ ∀ c ∈ cs, c.name ∈ done := by
  unfold validateComposition at h
  revert h
  cases hloop : forIn cs PUnit.unit (fun parent _ => do
      checkInstances cs parent (instancesInNodes parent.nodes)
      pure (ForInStep.yield PUnit.unit)) with
  | error e => exact fun h => by cases h
  | ok u =>
    intro h
    refine ⟨fun parent hp => checkInstances_ok _ (forIn_checks_ok.mp hloop parent hp),
      checkRecursion_ok h⟩

end Reactive.Component
