import Reactive.Proofs.Schedule.Ordering
import Reactive.Proofs.Schedule.CycleSearch

/-!
# What scheduling returns

`schedule` orders the derived declarations of a model for the derived pass, or rejects the model
with a cycle. Take distinct derived names and dependencies that name only states and derived
declarations (as `Model.build` resolves them).

* Without a cycle it returns the lexicographically least topological order, and the second
  check accepts it (`schedule_eq_least_topological`).
* It fails exactly when the graph has a cycle, and then reports the cycle the search meets first,
  which is a real one (`schedule_error_iff_cycle`).

Both rest on the ordering loop being the greedy order (`orderFrom_start`): it places no
declaration of a cycle, and without a cycle it places all of them.
-/

namespace Reactive.Component

open Relation

/-- Every dependency of a derived declaration names a state or a derived declaration. -/
def KnownDeps (m : Model) : Prop :=
  ∀ d ∈ m.derived, ∀ dep ∈ d.dependencies,
    dep ∈ m.states.map (·.name) ∨ dep ∈ m.derived.map (·.name)

instance (derived : List DerivedDecl) : Decidable (DistinctNames derived) :=
  inferInstanceAs (Decidable (List.Nodup _))

instance (m : Model) : Decidable (KnownDeps m) :=
  inferInstanceAs (Decidable (∀ d ∈ m.derived, ∀ dep ∈ d.dependencies, _))

section
variable {m : Model}

/-! ## The two outcomes of `schedule` -/

/-- An ordering that leaves a declaration out is rejected with the cycle the search reports. -/
theorem schedule_eq_error_of_length_lt {c : List String}
    (h : (greedyOrder m.derived (m.derived.length + 1) []).length < m.derived.length)
    (hc : findCycle m.derived = some c) : schedule m = .error (.cyclic c) := by
  unfold schedule
  simp only [orderFrom_start]
  rw [if_pos h, hc]
  rfl

/-- An ordering that places every declaration and passes the check is returned. -/
theorem schedule_eq_ok_of_length
    (h : ¬(greedyOrder m.derived (m.derived.length + 1) []).length < m.derived.length)
    (hv : verifyOrder m (greedyOrder m.derived (m.derived.length + 1) [])
      (m.states.map (·.name)) = .ok ()) :
    schedule m = .ok (greedyOrder m.derived (m.derived.length + 1) []) := by
  unfold schedule
  simp only [orderFrom_start]
  rw [if_neg h]
  simp [hv]

/-- The check accepts a ready order once the states and the placed declarations are available:
each dependency names a state or a declaration placed before. -/
theorem verifyOrder_of_readyOrder (hd : DistinctNames m.derived) (hk : KnownDeps m) :
    ∀ (l placed : List Nat) (available : List String), ReadyOrder m.derived placed l →
      (∀ s ∈ m.states.map (·.name), s ∈ available) →
      (∀ p ∈ placed, ∀ e, m.derived[p]? = some e → e.name ∈ available) →
      verifyOrder m l available = .ok ()
  | [], _, _, _, _, _ => rfl
  | i :: l, placed, available, hro, hs, hp => by
    obtain ⟨⟨hi, -, hprod⟩, hrest⟩ := hro
    have hdi : m.derived[i]? = some m.derived[i] := List.getElem?_eq_getElem hi
    -- every dependency of `i` is available
    have hfind : m.derived[i].dependencies.find? (fun dep => !available.contains dep) = none := by
      rw [List.find?_eq_none]
      intro dep hdep
      suffices hmem : dep ∈ available by simpa using hmem
      rcases hk _ (List.getElem_mem hi) dep hdep with hst | hder
      · exact hs dep hst
      · obtain ⟨e, he, rfl⟩ := List.mem_map.mp hder
        obtain ⟨j, hj, rfl⟩ := List.getElem_of_mem he
        have hij : Reads m.derived i j :=
          ⟨m.derived[i], m.derived[j], hdi, List.getElem?_eq_getElem hj, hdep⟩
        exact hp j (hprod j ((mem_producersAt hd).mpr hij)) _ (List.getElem?_eq_getElem hj)
    unfold verifyOrder
    rw [hdi]
    simp only [hfind]
    apply verifyOrder_of_readyOrder hd hk l (placed ++ [i]) _ hrest
      (fun s hs' => List.mem_append_left _ (hs s hs'))
    intro p hp' e he
    rcases List.mem_append.mp hp' with hp' | hp'
    · exact List.mem_append_left _ (hp p hp' e he)
    · rw [List.mem_singleton] at hp'
      subst hp'
      rw [hdi, Option.some.injEq] at he
      subst he
      exact List.mem_append_right _ (List.mem_singleton_self _)

/-- Without a cycle, scheduling returns the greedy order, a topological order that the check
accepts. -/
theorem schedule_of_acyclic (hd : DistinctNames m.derived) (hk : KnownDeps m)
    (hacyc : ¬HasCycle m.derived) :
    schedule m = .ok (greedyOrder m.derived (m.derived.length + 1) []) ∧
      IsTopologicalOrder m.derived (greedyOrder m.derived (m.derived.length + 1) []) ∧
      verifyOrder m (greedyOrder m.derived (m.derived.length + 1) [])
        (m.states.map (·.name)) = .ok () := by
  obtain ⟨out, hout, hro⟩ := @greedyOrder_extends m.derived (m.derived.length + 1) []
  rw [List.nil_append] at hout
  have hsat : readyAfter m.derived out = [] := by
    rw [← hout]
    exact readyAfter_greedyOrder _ [] List.nodup_nil (by simp) (by simp)
  have hall := mem_of_readyAfter_eq_nil hd hacyc hsat
  have htopo := isTopologicalOrder_of_readyOrder hd hro hall
  have hv := verifyOrder_of_readyOrder hd hk out [] _ hro (fun _ h => h) (by simp)
  have hlen : ¬out.length < m.derived.length := by
    rw [htopo.1.length_eq, List.length_range]
    exact Nat.lt_irrefl _
  rw [← hout] at hlen hv htopo
  exact ⟨schedule_eq_ok_of_length hlen hv, htopo, hv⟩

/-- With a cycle, the ordering leaves a declaration of it out. -/
theorem greedyOrder_length_lt_of_cycle (hd : DistinctNames m.derived)
    (hcyc : HasCycle m.derived) :
    (greedyOrder m.derived (m.derived.length + 1) []).length < m.derived.length := by
  obtain ⟨i, hi⟩ := hcyc
  obtain ⟨out, hout, hro⟩ := @greedyOrder_extends m.derived (m.derived.length + 1) []
  rw [List.nil_append] at hout
  rw [hout]
  obtain ⟨hnd, hlt⟩ := hro.nodup List.nodup_nil
  obtain ⟨k, hik, -⟩ := TransGen.head'_iff.mp hi
  exact length_lt_of_not_mem (by simpa using hnd) hlt hik.lt_left
    (not_mem_readyOrder_of_cycle hd hro hi)

/-- With a cycle, scheduling fails with the cycle the search reports, and that is a cycle. -/
theorem schedule_eq_error_of_cycle (hd : DistinctNames m.derived) (hcyc : HasCycle m.derived) :
    ∃ c, findCycle m.derived = some c ∧ schedule m = .error (.cyclic c) ∧
      IsCycle m.derived c := by
  obtain ⟨c, hc, hcycle⟩ := findCycle_of_hasCycle hd hcyc
  exact ⟨c, hc, schedule_eq_error_of_length_lt (greedyOrder_length_lt_of_cycle hd hcyc) hc,
    hcycle⟩

end

/-! ## Scheduling -/

/-- Scheduling succeeds exactly without a cycle. It then returns a permutation of the
declarations in which every producer comes before its consumers; of all such orders it is the
lexicographically least by source index, and the second check never rejects it. -/
theorem schedule_eq_least_topological (m : Model) (hd : DistinctNames m.derived)
    (hk : KnownDeps m) :
    (∀ order, schedule m = .ok order → ¬HasCycle m.derived) ∧
      (¬HasCycle m.derived → ∃ order, schedule m = .ok order ∧
        IsTopologicalOrder m.derived order ∧
        (∀ other, IsTopologicalOrder m.derived other →
          order = other ∨ List.Lex (· < ·) order other) ∧
        verifyOrder m order (m.states.map (·.name)) = .ok ()) := by
  refine ⟨fun order hok hcyc => ?_, fun hacyc => ?_⟩
  · obtain ⟨c, -, herr, -⟩ := schedule_eq_error_of_cycle hd hcyc
    rw [hok] at herr
    cases herr
  obtain ⟨hok, htopo, hv⟩ := schedule_of_acyclic hd hk hacyc
  refine ⟨_, hok, htopo, fun other hother => ?_, hv⟩
  -- the other order is a ready order that places everything, so the greedy order is below it
  have hall : ∀ i < m.derived.length, i ∈ [] ∨ i ∈ other := fun i hi =>
    .inr (hother.1.mem_iff.mpr (List.mem_range.mpr hi))
  have hlen : other.length ≤ m.derived.length + 1 := by
    rw [hother.1.length_eq, List.length_range]
    exact Nat.le_succ _
  obtain ⟨g, hg, hlex⟩ := greedyOrder_lex other [] _ (hother.readyOrder hd) hall hlen
  rw [List.nil_append] at hg
  rwa [hg]

/-- A declaration listed before its producer. -/
def producerLast : Model :=
  { component := "Total", states := [⟨"count", .undefined⟩],
    derived := [⟨"total", .undefined, ["sum", "count"]⟩, ⟨"sum", .undefined, ["count"]⟩],
    handlers := [], props := [], callbacks := [] }

theorem schedule_producerLast : ∃ order, schedule producerLast = .ok order ∧
    IsTopologicalOrder producerLast.derived order := by
  have hd : DistinctNames producerLast.derived := by decide
  have hacyc : ¬HasCycle producerLast.derived := (findCycle_spec hd).2 (by decide)
  obtain ⟨-, hsched⟩ := schedule_eq_least_topological producerLast hd (by decide)
  obtain ⟨order, hok, htopo, -⟩ := hsched hacyc
  exact ⟨order, hok, htopo⟩

end Reactive.Component
