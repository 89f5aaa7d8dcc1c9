import Reactive.Component.Graph
import Mathlib.Logic.Relation
import Mathlib.Order.WellFounded
import Mathlib.Data.Fintype.Card
import Mathlib.Data.Fintype.EquivFin
import Mathlib.Data.List.Perm.Subperm

/-!
# The dependency graph of derived declarations

Scheduling and the cycle search walk one graph: declaration `i` *reads* declaration `j` when the
name of `j` is one of the dependencies of `i`. This file states that graph and what the code's
lookups compute on it.

* `derivedIndex` finds a declaration that carries a name; with distinct names it finds the only
  one (`derivedIndex_eq_some_iff`).
* `producersOf` lists each declaration a declaration reads, once (`mem_producersAt`,
  `nodup_producersAt`).
* Without a cycle, every non-empty set of declarations has one that reads nothing in the set
  (`exists_reads_free`): the fact that lets a topological order be completed.
-/

namespace Reactive.Component

open Relation

/-- Declaration `i` reads declaration `j`: the name of `j` is one of the dependencies of `i`. -/
def Reads (derived : List DerivedDecl) (i j : Nat) : Prop :=
  ∃ d e, derived[i]? = some d ∧ derived[j]? = some e ∧ e.name ∈ d.dependencies

/-- Some declaration reaches itself along dependencies. -/
def HasCycle (derived : List DerivedDecl) : Prop :=
  ∃ i, TransGen (Reads derived) i i

/-- No two derived declarations share a name. -/
def DistinctNames (derived : List DerivedDecl) : Prop :=
  (derived.map (·.name)).Nodup

section
variable {derived : List DerivedDecl}

theorem Reads.lt_left {i j : Nat} (h : Reads derived i j) : i < derived.length := by
  obtain ⟨d, e, hd, -, -⟩ := h
  exact (List.getElem?_eq_some_iff.mp hd).1

theorem Reads.lt_right {i j : Nat} (h : Reads derived i j) : j < derived.length := by
  obtain ⟨d, e, -, he, -⟩ := h
  exact (List.getElem?_eq_some_iff.mp he).1

/-- Two declarations with one name are one declaration. -/
theorem DistinctNames.index_eq (h : DistinctNames derived) {i j : Nat} {d e : DerivedDecl}
    (hi : derived[i]? = some d) (hj : derived[j]? = some e) (hn : d.name = e.name) : i = j := by
  obtain ⟨hil, rfl⟩ := List.getElem?_eq_some_iff.mp hi
  obtain ⟨hjl, rfl⟩ := List.getElem?_eq_some_iff.mp hj
  have hil' : i < (derived.map (·.name)).length := by simpa using hil
  have hjl' : j < (derived.map (·.name)).length := by simpa using hjl
  have heq : (derived.map (·.name))[i] = (derived.map (·.name))[j] := by simpa using hn
  exact (List.Nodup.getElem_inj_iff h).mp heq

/-- A duplicate-free list of declarations is no longer than the declarations. -/
theorem length_le_of_nodup {l : List Nat} (hnd : l.Nodup) (hlt : ∀ i ∈ l, i < derived.length) :
    l.length ≤ derived.length := by
  have hsub : List.Subperm l (List.range derived.length) :=
    List.subperm_of_subset hnd fun i hi => List.mem_range.mpr (hlt i hi)
  simpa using hsub.length_le

/-- A duplicate-free list of declarations that holds every one is a permutation of them. -/
theorem perm_range_of_nodup {l : List Nat} (hnd : l.Nodup) (hlt : ∀ i ∈ l, i < derived.length)
    (hall : ∀ i < derived.length, i ∈ l) : l.Perm (List.range derived.length) := by
  rw [List.perm_ext_iff_of_nodup hnd List.nodup_range]
  intro i
  rw [List.mem_range]
  exact ⟨hlt i, hall i⟩

/-- A duplicate-free list of declarations that misses one is shorter than the declarations. -/
theorem length_lt_of_not_mem {l : List Nat} (hnd : l.Nodup) (hlt : ∀ i ∈ l, i < derived.length)
    {j : Nat} (hj : j < derived.length) (hjl : j ∉ l) : l.length < derived.length := by
  have hsub : List.Subperm l ((List.range derived.length).erase j) :=
    List.subperm_of_subset hnd fun i hi =>
      (List.mem_erase_of_ne fun h => hjl (by rw [← h]; exact hi)).mpr
        (List.mem_range.mpr (hlt i hi))
  have := hsub.length_le
  rw [List.length_erase_of_mem (List.mem_range.mpr hj), List.length_range] at this
  omega

/-! ## Finding a declaration by name -/

/-- The fold behind `derivedIndex` ends on an index it met with the name, or on where it
started. -/
private theorem foldl_index_eq_some (name : String) :
    ∀ (ps : List (Nat × DerivedDecl)) (acc : Option Nat) (j : Nat),
      ps.foldl (fun acc (i, d) => if d.name == name then some i else acc) acc = some j →
      (∃ e, (j, e) ∈ ps ∧ e.name = name) ∨ acc = some j
  | [], _, _, h => .inr h
  | (i, d) :: ps, acc, j, h => by
    rcases foldl_index_eq_some name ps _ j h with ⟨e, he, hn⟩ | h
    · exact .inl ⟨e, List.mem_cons_of_mem _ he, hn⟩
    · by_cases hd : d.name = name
      · simp only [hd, beq_self_eq_true, if_true, Option.some.injEq] at h
        exact .inl ⟨d, h ▸ List.mem_cons_self, hd⟩
      · simp only [beq_iff_eq, hd, if_false] at h
        exact .inr h

/-- Once the fold behind `derivedIndex` has found an index it keeps one. -/
private theorem foldl_index_isSome (name : String) :
    ∀ (ps : List (Nat × DerivedDecl)) (acc : Option Nat),
      (acc.isSome ∨ ∃ p ∈ ps, p.2.name = name) →
      (ps.foldl (fun acc (i, d) => if d.name == name then some i else acc) acc).isSome
  | [], _, h => by simpa using h
  | (i, d) :: ps, acc, h => by
    apply foldl_index_isSome name ps
    by_cases hd : d.name = name
    · left; simp [hd]
    · rcases h with h | ⟨p, hp, hn⟩
      · left; simpa [hd] using h
      · rcases List.mem_cons.mp hp with rfl | hp
        · exact absurd hn hd
        · exact .inr ⟨p, hp, hn⟩

private theorem mem_zip_range {j : Nat} {e : DerivedDecl}
    (h : (j, e) ∈ (List.range derived.length).zip derived) : derived[j]? = some e := by
  obtain ⟨k, hk⟩ := List.mem_iff_getElem?.mp h
  obtain ⟨hr, hd⟩ := List.getElem?_zip_eq_some.mp hk
  have hk' : k < derived.length := by simpa using (List.getElem?_eq_some_iff.mp hr).1
  rw [List.getElem?_range hk', Option.some.injEq] at hr
  subst hr
  exact hd

/-- `derivedIndex` finds only declarations that carry the name. -/
theorem derivedIndex_eq_some {name : String} {j : Nat} (h : derivedIndex derived name = some j) :
    ∃ e, derived[j]? = some e ∧ e.name = name := by
  rcases foldl_index_eq_some name _ none j h with ⟨e, he, hn⟩ | h
  · exact ⟨e, mem_zip_range he, hn⟩
  · cases h

/-- `derivedIndex` finds a declaration whenever one carries the name. -/
theorem derivedIndex_isSome {name : String} {j : Nat} {e : DerivedDecl}
    (he : derived[j]? = some e) (hn : e.name = name) : (derivedIndex derived name).isSome := by
  apply foldl_index_isSome name _ none
  right
  refine ⟨(j, e), List.mem_iff_getElem?.mpr ⟨j, List.getElem?_zip_eq_some.mpr ⟨?_, he⟩⟩, hn⟩
  exact List.getElem?_range (List.getElem?_eq_some_iff.mp he).1

/-- With distinct names, `derivedIndex` finds exactly the declaration that carries the name. -/
theorem derivedIndex_eq_some_iff (hd : DistinctNames derived) {name : String} {j : Nat} :
    derivedIndex derived name = some j ↔ ∃ e, derived[j]? = some e ∧ e.name = name := by
  constructor
  · exact derivedIndex_eq_some
  · rintro ⟨e, he, hn⟩
    obtain ⟨k, hk⟩ := Option.isSome_iff_exists.mp (derivedIndex_isSome he hn)
    obtain ⟨e', he', hn'⟩ := derivedIndex_eq_some hk
    rw [hk, hd.index_eq he' he (hn'.trans hn.symm)]

/-! ## The producers of a declaration -/

/-- Folding `addProducer` keeps what it had and adds every declaration a dependency names. -/
theorem mem_foldl_addProducer (p : Nat) :
    ∀ (deps : List String) (acc : List Nat),
      p ∈ deps.foldl (addProducer derived) acc ↔
        p ∈ acc ∨ ∃ dep ∈ deps, derivedIndex derived dep = some p
  | [], acc => by simp
  | dep :: deps, acc => by
    rw [List.foldl_cons, mem_foldl_addProducer p deps]
    unfold addProducer
    cases h : derivedIndex derived dep with
    | none => simp [h]
    | some q =>
      by_cases hq : q ∈ acc
      · simp only [List.contains_iff_mem, hq, if_true, List.mem_cons, exists_eq_or_imp, h,
          Option.some.injEq]
        constructor
        · rintro (hp | hp)
          · exact .inl hp
          · exact .inr (.inr hp)
        · rintro (hp | rfl | hp)
          · exact .inl hp
          · exact .inl hq
          · exact .inr hp
      · simp only [List.contains_iff_mem, hq, if_false, List.mem_append,
          exists_eq_or_imp, h, Option.some.injEq, List.mem_cons, List.not_mem_nil, or_false]
        constructor
        · rintro ((hp | rfl) | hp)
          · exact .inl hp
          · exact .inr (.inl rfl)
          · exact .inr (.inr hp)
        · rintro (hp | rfl | hp)
          · exact .inl (.inl hp)
          · exact .inl (.inr rfl)
          · exact .inr hp

/-- Folding `addProducer` adds a declaration only when it is not there yet. -/
theorem nodup_foldl_addProducer :
    ∀ (deps : List String) (acc : List Nat), acc.Nodup → (deps.foldl (addProducer derived) acc).Nodup
  | [], _, h => h
  | dep :: deps, acc, h => by
    rw [List.foldl_cons]
    apply nodup_foldl_addProducer deps
    unfold addProducer
    cases derivedIndex derived dep with
    | none => exact h
    | some q =>
      by_cases hq : q ∈ acc
      · simpa [hq] using h
      · simp only [List.contains_iff_mem, hq, if_false]
        exact List.nodup_append.mpr ⟨h, List.nodup_singleton q,
          fun a ha b hb hab => hq (List.mem_singleton.mp hb ▸ hab ▸ ha)⟩

/-- With distinct names, the producers of a declaration are the declarations it reads. -/
theorem mem_producersAt (hd : DistinctNames derived) {i p : Nat} :
    p ∈ producersAt derived i ↔ Reads derived i p := by
  cases hi : derived[i]? with
  | none => simp [producersAt, Reads, hi]
  | some d =>
    rw [show producersAt derived i = producersOf derived d by simp [producersAt, hi],
      producersOf, mem_foldl_addProducer]
    constructor
    · rintro (hp | ⟨dep, hdep, hp⟩)
      · simp at hp
      · obtain ⟨e, he, rfl⟩ := derivedIndex_eq_some hp
        exact ⟨d, e, hi, he, hdep⟩
    · rintro ⟨d', e, hd', he, hdep⟩
      rw [hi, Option.some.injEq] at hd'
      subst hd'
      exact .inr ⟨e.name, hdep, (derivedIndex_eq_some_iff hd).mpr ⟨e, he, rfl⟩⟩

/-- A declaration is listed once among the producers of another. -/
theorem nodup_producersAt (i : Nat) : (producersAt derived i).Nodup := by
  unfold producersAt
  cases derived[i]? with
  | none => exact List.nodup_nil
  | some d => exact nodup_foldl_addProducer _ _ List.nodup_nil

/-! ## Acyclic graphs -/

/-- Without a cycle, every set of declarations that holds one holds one that reads nothing in
the set. -/
theorem exists_reads_free (hacyc : ¬HasCycle derived) (P : Nat → Prop) {i₀ : Nat}
    (hi₀ : i₀ < derived.length) (hP : P i₀) :
    ∃ i, i < derived.length ∧ P i ∧ ∀ j, Reads derived i j → ¬P j := by
  -- `below a b`: `b` reaches `a` along dependencies; on finitely many declarations and without
  -- a cycle it is well founded
  let below : Fin derived.length → Fin derived.length → Prop :=
    fun a b => TransGen (Reads derived) b.1 a.1
  have : IsTrans _ below := ⟨fun _ _ _ hab hbc => hbc.trans hab⟩
  have : Std.Irrefl below := ⟨fun a h => hacyc ⟨a.1, h⟩⟩
  have wf : WellFounded below := Finite.wellFounded_of_trans_of_irrefl below
  obtain ⟨a, ha, hmin⟩ := wf.has_min {a | P a.1} ⟨⟨i₀, hi₀⟩, hP⟩
  exact ⟨a.1, a.2, ha, fun j hj hPj => hmin ⟨j, hj.lt_right⟩ hPj (TransGen.single hj)⟩

end

end Reactive.Component
