import Reactive.Instance.Basic

/-!
# The derived pass reaches the whole closure

A pass walks the derived steps once, in plan order, and recomputes a step when one of its
dependencies has changed, after which its own name counts as changed. When no step reads itself
or a later step (the order the scheduler produces), one such walk finds every name a change
reaches:

* `Affected steps changed` is the least set holding the changed names and the name of every step
  that reads a name in it;
* `foldl_passStep` shows that the walk ends with exactly those names, and that it recomputed, in
  order and once each, exactly the steps with a dependency among them (`recompute`);
* `derivedPass_spec` states this for an instance's plan.
-/

namespace Reactive

open Component

/-! ## Sorted name lists -/

@[simp]
theorem mem_insertName {x n : String} : ∀ {l : List String}, x ∈ insertName n l ↔ x = n ∨ x ∈ l
  | [] => by simp [insertName]
  | m :: rest => by
    unfold insertName
    by_cases hlt : n < m
    · simp [hlt]
    · by_cases heq : n = m
      · subst heq
        simp
      · have ih := @mem_insertName x n rest
        simp only [hlt, heq, if_false, List.mem_cons, ih]
        exact or_left_comm

@[simp]
theorem mem_insertNames {x : String} : ∀ {ns acc : List String},
    x ∈ insertNames ns acc ↔ x ∈ ns ∨ x ∈ acc
  | [], acc => by simp [insertNames]
  | n :: ns, acc => by
    have ih := @mem_insertNames x ns (insertName n acc)
    simp only [insertNames, List.foldl_cons] at ih ⊢
    rw [ih, mem_insertName, List.mem_cons, or_assoc]
    exact or_left_comm

/-! ## What a change reaches -/

/-- No step reads its own name or the name of a later step. -/
def ReadsEarlier (steps : List DerivedStep) : Prop :=
  (∀ d ∈ steps, d.name ∉ d.dependencies) ∧ steps.Pairwise fun a b => b.name ∉ a.dependencies

instance (steps : List DerivedStep) : Decidable (ReadsEarlier steps) :=
  inferInstanceAs (Decidable (_ ∧ _))

/-- The names a change reaches: the changed names, and the name of every step that reads a
name reached. -/
inductive Affected (steps : List DerivedStep) (changed : List String) : String → Prop
  | changed {x : String} : x ∈ changed → Affected steps changed x
  | step {d : DerivedStep} {y : String} : d ∈ steps → y ∈ d.dependencies →
      Affected steps changed y → Affected steps changed d.name

/-- Recomputes steps in order, each over the values left by the ones before. -/
def recompute (values : Store) (steps : List DerivedStep) : Store :=
  steps.foldl (fun vs d => vs.set d.name (Eval.eval vs d.body)) values

/-- Whether a list of dependencies has one among the names. -/
theorem any_contains_iff {deps names : List String} :
    deps.any names.contains = true ↔ ∃ y ∈ deps, y ∈ names := by
  simp [List.any_eq_true]

theorem ReadsEarlier.tail {d : DerivedStep} {rest : List DerivedStep}
    (h : ReadsEarlier (d :: rest)) : ReadsEarlier rest :=
  ⟨fun e he => h.1 e (List.mem_cons_of_mem _ he), (List.pairwise_cons.mp h.2).2⟩

/-- A name the first step reads is reached only by being changed: the step does not read itself
or a later step. -/
theorem Affected.mem_of_head {d : DerivedStep} {rest : List DerivedStep} {changed : List String}
    (hord : ReadsEarlier (d :: rest)) {y : String} (hy : y ∈ d.dependencies)
    (h : Affected (d :: rest) changed y) : y ∈ changed := by
  cases h with
  | changed hx => exact hx
  | step he _ _ =>
    rcases List.mem_cons.mp he with rfl | he
    · exact absurd hy (hord.1 _ (List.mem_cons_self ..))
    · exact absurd hy ((List.pairwise_cons.mp hord.2).1 _ he)

/-- Taking the first step out: what the rest reaches from the names after the first step is what
the whole reaches. -/
theorem affected_cons_iff {d : DerivedStep} {rest : List DerivedStep} {changed next : List String}
    (hord : ReadsEarlier (d :: rest))
    (hnext : ∀ x, x ∈ next ↔ x ∈ changed ∨ ((∃ y ∈ d.dependencies, y ∈ changed) ∧ x = d.name))
    (x : String) : Affected rest next x ↔ Affected (d :: rest) changed x := by
  constructor
  · intro h
    induction h with
    | changed hx =>
      rcases (hnext _).mp hx with hx | ⟨⟨y, hy, hyc⟩, rfl⟩
      · exact .changed hx
      · exact .step (List.mem_cons_self ..) hy (.changed hyc)
    | step he hy _ ih => exact .step (List.mem_cons_of_mem _ he) hy ih
  · intro h
    induction h with
    | changed hx => exact .changed ((hnext _).mpr (.inl hx))
    | @step e y he hy hya ih =>
      rcases List.mem_cons.mp he with rfl | he
      · -- the first step is reached only through a changed name
        have hyc : y ∈ changed := hya.mem_of_head hord hy
        exact .changed ((hnext _).mpr (.inr ⟨⟨y, hy, hyc⟩, rfl⟩))
      · exact .step he hy ih

/-! ## One walk over the steps -/

namespace InstanceState

theorem passStep_of_reads {acc : InstanceState × List String} {d : DerivedStep}
    (h : ∃ y ∈ d.dependencies, y ∈ acc.2) :
    passStep acc d =
      ({ acc.1 with values := acc.1.values.set d.name (Eval.eval acc.1.values d.body) },
        insertName d.name acc.2) := by
  rw [passStep, if_pos (any_contains_iff.mpr h)]

theorem passStep_of_not_reads {acc : InstanceState × List String} {d : DerivedStep}
    (h : ¬∃ y ∈ d.dependencies, y ∈ acc.2) : passStep acc d = acc := by
  rw [passStep, if_neg (fun h' => h (any_contains_iff.mp h'))]

/-- A walk over steps that read only earlier ones ends with exactly the names the change
reaches, and has recomputed, in order and once each, exactly the steps that read one of them. -/
theorem foldl_passStep : ∀ {steps : List DerivedStep}, ReadsEarlier steps →
    ∀ (s : InstanceState) (changed : List String),
      (∀ x, x ∈ (steps.foldl passStep (s, changed)).2 ↔ Affected steps changed x) ∧
      (steps.foldl passStep (s, changed)).1 =
        { s with values := recompute s.values (steps.filter fun d =>
          d.dependencies.any (steps.foldl passStep (s, changed)).2.contains) }
  | [], _, s, changed => by
    refine ⟨fun x => ⟨.changed, fun h => ?_⟩, rfl⟩
    cases h with
    | changed hx => exact hx
    | step hd _ _ => cases hd
  | d :: rest, hord, s, changed => by
    rw [List.foldl_cons]
    by_cases hit : ∃ y ∈ d.dependencies, y ∈ changed
    · -- the first step is recomputed and its name joins the changed names
      rw [passStep_of_reads hit]
      obtain ⟨hmem, hvals⟩ := foldl_passStep hord.tail
        { s with values := s.values.set d.name (Eval.eval s.values d.body) }
        (insertName d.name changed)
      have hnext : ∀ x, x ∈ insertName d.name changed ↔
          x ∈ changed ∨ ((∃ y ∈ d.dependencies, y ∈ changed) ∧ x = d.name) := by
        intro x
        rw [mem_insertName]
        constructor
        · rintro (rfl | hx)
          · exact .inr ⟨hit, rfl⟩
          · exact .inl hx
        · rintro (hx | ⟨-, rfl⟩)
          · exact .inr hx
          · exact .inl rfl
      refine ⟨fun x => (hmem x).trans (affected_cons_iff hord hnext x), ?_⟩
      obtain ⟨y, hy, hyc⟩ := hit
      have hfinal := (hmem y).mpr (.changed (mem_insertName.mpr (.inr hyc)))
      rw [hvals, List.filter_cons_of_pos]
      · rfl
      · exact any_contains_iff.mpr ⟨y, hy, hfinal⟩
    · -- the first step is left alone
      rw [passStep_of_not_reads hit]
      obtain ⟨hmem, hvals⟩ := foldl_passStep hord.tail s changed
      have hnext : ∀ x, x ∈ changed ↔
          x ∈ changed ∨ ((∃ y ∈ d.dependencies, y ∈ changed) ∧ x = d.name) :=
        fun x => ⟨.inl, fun h => h.elim (fun hx => hx) fun h' => absurd h'.1 hit⟩
      have hmem' : ∀ x, x ∈ (rest.foldl passStep (s, changed)).2 ↔
          Affected (d :: rest) changed x := fun x => (hmem x).trans (affected_cons_iff hord hnext x)
      refine ⟨hmem', ?_⟩
      have hskip : ¬(d.dependencies.any (rest.foldl passStep (s, changed)).2.contains = true) := by
        rw [any_contains_iff]
        rintro ⟨y, hy, hyf⟩
        exact hit ⟨y, hy, ((hmem' y).mp hyf).mem_of_head hord hy⟩
      rw [hvals, List.filter_cons_of_neg]
      exact hskip

/-- A walk changes nothing of the instance but its values. -/
theorem foldl_passStep_frame : ∀ (steps : List DerivedStep) (acc : InstanceState × List String),
    (steps.foldl passStep acc).1 = { acc.1 with values := (steps.foldl passStep acc).1.values }
  | [], _ => rfl
  | d :: rest, acc => by
    rw [List.foldl_cons, foldl_passStep_frame rest]
    by_cases hit : ∃ y ∈ d.dependencies, y ∈ acc.2
    · rw [passStep_of_reads hit]
    · rw [passStep_of_not_reads hit]

theorem derivedPass_frame (s : InstanceState) (changed : List String) :
    (s.derivedPass changed).1 = { s with values := (s.derivedPass changed).1.values } :=
  foldl_passStep_frame _ _

/-- The derived pass of an instance whose plan reads only earlier steps: the names it reports
changed are exactly the names the change reaches, and it recomputes exactly the steps with a
dependency among them, once each and in plan order. -/
theorem derivedPass_spec (s : InstanceState) (changed : List String)
    (hord : ReadsEarlier s.plan.derived) :
    (∀ x, x ∈ (s.derivedPass changed).2 ↔ Affected s.plan.derived changed x) ∧
      (s.derivedPass changed).1 =
        { s with values := recompute s.values (s.plan.derived.filter fun d =>
          d.dependencies.any (s.derivedPass changed).2.contains) } :=
  foldl_passStep hord s changed

end InstanceState

end Reactive
