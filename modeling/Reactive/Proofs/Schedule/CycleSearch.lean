import Reactive.Proofs.Schedule.Graph
import Mathlib.Data.List.Chain

/-!
# The cycle search finds exactly the cycles

The depth-first search behind `findCycle` marks each declaration unvisited, on the stack, or
done. This file proves that the search reports a cycle exactly when the dependency graph has
one, and that what it reports is a real cycle.

* `SearchInv` is what the marks say between steps: the declarations on the stack are exactly
  those marked so, a finished declaration reads only finished ones, and no cycle passes through
  a finished declaration.
* A visit that finds nothing leaves the invariant, finishes the declaration it started from
  and undoes no mark (`visitCycle_spec`); the stack is a path, so a dependency back onto it
  closes a cycle (`isCycle_cycleFrom`).
* `findCycle_spec`: a reported cycle is a cycle, and when nothing is reported every
  declaration is finished, so the graph has no cycle.
-/

namespace Reactive.Component

open Relation

/-- Declaration `a` has `b` among its dependencies, by name. -/
def DependsOn (derived : List DerivedDecl) (a b : String) : Prop :=
  ∃ d ∈ derived, d.name = a ∧ b ∈ d.dependencies

/-- A cycle of derived declarations, by name: members are distinct derived names, each one's
dependencies hold the next, and the last one's hold the first. -/
def IsCycle (derived : List DerivedDecl) (c : List String) : Prop :=
  c ≠ [] ∧ c.Nodup ∧ (∀ x ∈ c, x ∈ derived.map (·.name)) ∧
    List.IsChain (DependsOn derived) (c ++ c.take 1)

section
variable {derived : List DerivedDecl}

/-! ## Cycles of indices -/

/-- A path of declarations that closes on its start is a cycle of their names. -/
theorem isCycle_map_name (hd : DistinctNames derived) {l : List Nat} (hne : l ≠ [])
    (hnd : l.Nodup) (hlt : ∀ k ∈ l, k < derived.length)
    (hchain : List.IsChain (Reads derived) (l ++ l.take 1)) :
    IsCycle derived (l.map fun k => ((derived[k]?).map (·.name)).getD "") := by
  -- the name of a declaration, as the report writes it
  have hname : ∀ k (hk : k < derived.length),
      ((derived[k]?).map (·.name)).getD "" = derived[k].name := by
    intro k hk
    simp [List.getElem?_eq_getElem hk]
  refine ⟨by simpa using hne, ?_, ?_, ?_⟩
  · refine hnd.map_on fun a ha b hb hab => ?_
    rw [hname a (hlt a ha), hname b (hlt b hb)] at hab
    exact hd.index_eq (List.getElem?_eq_getElem (hlt a ha))
      (List.getElem?_eq_getElem (hlt b hb)) hab
  · intro x hx
    obtain ⟨k, hk, rfl⟩ := List.mem_map.mp hx
    have hk' := hlt k hk
    rw [hname k hk']
    exact List.mem_map.mpr ⟨derived[k], List.getElem_mem _, rfl⟩
  · rw [← List.map_take, ← List.map_append]
    refine List.isChain_map_of_isChain _ (fun a b hab => ?_) hchain
    obtain ⟨d, e, hda, heb, hdep⟩ := hab
    refine ⟨d, List.mem_of_getElem? hda, ?_, ?_⟩
    · simp [hda]
    · simpa [heb] using hdep

/-- The position the report cuts the stack at is the first place of the declaration. -/
theorem stackPosition_eq_idxOf {stack : List Nat} {j : Nat} (hj : j ∈ stack) :
    stackPosition stack j = stack.idxOf j := by
  unfold stackPosition List.idxOf
  rw [List.findIdx?_eq_some_of_exists ⟨j, hj, by simp⟩, Option.getD_some]

/-- A dependency from the top of a path back onto the path closes a cycle: the part of the path
from that declaration on. -/
theorem isCycle_cycleFrom (hd : DistinctNames derived) {stack : List Nat} {i j : Nat}
    (hnd : (stack ++ [i]).Nodup) (hlt : ∀ k ∈ stack ++ [i], k < derived.length)
    (hchain : List.IsChain (Reads derived) (stack ++ [i])) (hj : j ∈ stack ++ [i])
    (hij : Reads derived i j) :
    IsCycle derived (cycleFrom derived (stack ++ [i]) j) := by
  unfold cycleFrom
  rw [stackPosition_eq_idxOf hj]
  set l := (stack ++ [i]).drop ((stack ++ [i]).idxOf j) with hl
  have hidx : (stack ++ [i]).idxOf j < (stack ++ [i]).length := List.idxOf_lt_length_of_mem hj
  have hne : l ≠ [] := by simpa [hl] using hidx
  -- the cut starts at `j` and ends at `i`
  have hcons : l = j :: (stack ++ [i]).drop ((stack ++ [i]).idxOf j + 1) := by
    rw [hl, List.drop_eq_getElem_cons hidx, List.getElem_idxOf hidx]
  have hlast : l.getLast? = some i := by
    rw [hl, List.getLast?_drop, if_neg (by omega)]
    simp
  apply isCycle_map_name hd hne (hnd.sublist (List.drop_sublist _ _))
    (fun k hk => hlt k (List.mem_of_mem_drop hk))
  have htake : l.take 1 = [j] := by rw [hcons]; rfl
  rw [htake]
  refine (hchain.drop _).append (List.isChain_singleton j) ?_
  intro x hx y hy
  rw [← hl, hlast, Option.mem_some_iff] at hx
  rw [List.head?_singleton, Option.mem_some_iff] at hy
  subst hx hy
  exact hij
/-! ## The marks of the search -/

/-- What the marks say between steps of the search from a stack. -/
structure SearchInv (derived : List DerivedDecl) (marks : Array Mark) (stack : List Nat) :
    Prop where
  size : marks.size = derived.length
  stack_nodup : stack.Nodup
  on_stack : ∀ j, marks[j]? = some Mark.onStack ↔ j ∈ stack
  done_closed : ∀ j k, marks[j]? = some Mark.done → Reads derived j k → marks[k]? = some Mark.done
  done_acyclic : ∀ j, marks[j]? = some Mark.done → ¬TransGen (Reads derived) j j

/-- The search undoes no mark: a finished declaration stays finished, one on the stack stays
there. -/
def MarksGrow (marks marks' : Array Mark) : Prop :=
  ∀ j : Nat, (marks[j]? = some Mark.done → marks'[j]? = some Mark.done) ∧
    (marks[j]? = some Mark.onStack → marks'[j]? = some Mark.onStack)

theorem MarksGrow.refl (marks : Array Mark) : MarksGrow marks marks := fun _ => ⟨id, id⟩

theorem MarksGrow.trans {m₁ m₂ m₃ : Array Mark} (h₁ : MarksGrow m₁ m₂) (h₂ : MarksGrow m₂ m₃) :
    MarksGrow m₁ m₃ := fun j => ⟨(h₂ j).1 ∘ (h₁ j).1, (h₂ j).2 ∘ (h₁ j).2⟩

/-- A search step's outcome: a reported cycle is a cycle, and without a report the marks satisfy
`post`. -/
structure Reported (derived : List DerivedDecl) (post : Array Mark → Prop)
    (r : Option (List String) × Array Mark) : Prop where
  cycle : ∀ c, r.1 = some c → IsCycle derived c
  quiet : r.1 = none → post r.2

/-- What a visit of an unvisited declaration `j`, from a path `stack`, must do. -/
def VisitSound (derived : List DerivedDecl)
    (visit : Nat → List Nat → Array Mark → Option (List String) × Array Mark)
    (stack : List Nat) : Prop :=
  ∀ j marks, SearchInv derived marks stack → marks[j]? = some Mark.unvisited →
    List.IsChain (Reads derived) (stack ++ [j]) →
    Reported derived (fun m => SearchInv derived m stack ∧ MarksGrow marks m ∧
      m[j]? = some Mark.done) (visit j stack marks)

theorem getElem?_set!_mark {marks : Array Mark} {i : Nat} (hi : i < marks.size) (m : Mark)
    (j : Nat) : (marks.set! i m)[j]? = if j = i then some m else marks[j]? := by
  rw [Array.set!_eq_setIfInBounds, Array.getElem?_setIfInBounds]
  by_cases hji : j = i
  · subst hji
    simp [hi]
  · simp [hji, Ne.symm hji]

/-- Everything reached from a finished declaration is finished. -/
theorem SearchInv.done_reach {marks : Array Mark} {stack : List Nat}
    (h : SearchInv derived marks stack) {j k : Nat} (hj : marks[j]? = some Mark.done)
    (hr : ReflTransGen (Reads derived) j k) : marks[k]? = some Mark.done := by
  induction hr with
  | refl => exact hj
  | tail _ hr ih => exact h.done_closed _ _ ih hr

theorem SearchInv.lt_of_mem {marks : Array Mark} {stack : List Nat}
    (h : SearchInv derived marks stack) {j : Nat} (hj : j ∈ stack) : j < derived.length := by
  have hm := (h.on_stack j).mpr hj
  rw [← h.size]
  exact (Array.getElem?_eq_some_iff.mp hm).1

/-- Once a cycle is reported the search passes over every remaining dependency. -/
theorem foldl_followDependency_found
    (visit : Nat → List Nat → Array Mark → Option (List String) × Array Mark)
    (stack : List Nat) (c : List String) :
    ∀ (deps : List String) (marks : Array Mark),
      deps.foldl (followDependency derived visit stack) (some c, marks) = (some c, marks)
  | [], _ => rfl
  | _ :: deps, marks => foldl_followDependency_found visit stack c deps marks

/-! ## One dependency, then all of them -/

section
variable (hd : DistinctNames derived)
  {visit : Nat → List Nat → Array Mark → Option (List String) × Array Mark}
  {stack : List Nat} {i : Nat}
include hd

/-- Following one dependency of `i`: a declaration on the stack closes a cycle, an unvisited one
is visited, and afterwards the declaration it names is finished. -/
theorem followDependency_spec (hv : VisitSound derived visit (stack ++ [i]))
    {marks : Array Mark} (hinv : SearchInv derived marks (stack ++ [i]))
    (hchain : List.IsChain (Reads derived) (stack ++ [i])) {d : DerivedDecl}
    (hi : derived[i]? = some d) {dep : String} (hdep : dep ∈ d.dependencies) :
    Reported derived (fun m => SearchInv derived m (stack ++ [i]) ∧ MarksGrow marks m ∧
        ∀ j, derivedIndex derived dep = some j → m[j]? = some Mark.done)
      (followDependency derived visit (stack ++ [i]) (none, marks) dep) := by
  unfold followDependency
  cases hj : derivedIndex derived dep with
  | none => exact ⟨(fun c h => nomatch h), fun _ => ⟨hinv, MarksGrow.refl _, fun j h => by cases h⟩⟩
  | some j =>
    obtain ⟨e, he, hname⟩ := derivedIndex_eq_some hj
    have hij : Reads derived i j := ⟨d, e, hi, he, hname ▸ hdep⟩
    have hjlt : j < marks.size := hinv.size ▸ hij.lt_right
    simp only
    cases hm : marks[j]? with
    | none => exact absurd hm (by simp [hjlt])
    | some m =>
      cases m with
      | onStack =>
        refine ⟨fun c hc => ?_, fun h => by cases h⟩
        cases hc
        exact isCycle_cycleFrom hd (hinv.stack_nodup) (fun k hk => hinv.lt_of_mem hk) hchain
          ((hinv.on_stack j).mp hm) hij
      | unvisited =>
        obtain ⟨hcyc, hpost⟩ := hv j marks hinv hm
          (hchain.append (List.isChain_singleton j) (by simp [hij]))
        refine ⟨hcyc, fun hnone => ?_⟩
        obtain ⟨hinv', hgrow, hdone⟩ := hpost hnone
        exact ⟨hinv', hgrow, fun j' hj' => by cases hj'; exact hdone⟩
      | done => exact ⟨(fun c h => nomatch h), fun _ => ⟨hinv, MarksGrow.refl _, fun j' hj' => by
          cases hj'; exact hm⟩⟩

/-- Following all dependencies of `i` in turn: a reported cycle is a cycle, and without one
every declaration a dependency names is finished. -/
theorem foldl_followDependency (hv : VisitSound derived visit (stack ++ [i]))
    (hchain : List.IsChain (Reads derived) (stack ++ [i])) {d : DerivedDecl}
    (hi : derived[i]? = some d) :
    ∀ (deps : List String) (marks : Array Mark), (∀ dep ∈ deps, dep ∈ d.dependencies) →
      SearchInv derived marks (stack ++ [i]) →
      Reported derived (fun m => SearchInv derived m (stack ++ [i]) ∧ MarksGrow marks m ∧
          ∀ dep ∈ deps, ∀ j, derivedIndex derived dep = some j → m[j]? = some Mark.done)
        (deps.foldl (followDependency derived visit (stack ++ [i])) (none, marks))
  | [], marks, _, hinv => ⟨(fun c h => nomatch h), fun _ => ⟨hinv, MarksGrow.refl _, by simp⟩⟩
  | dep :: deps, marks, hdeps, hinv => by
    obtain ⟨hcyc₁, hpost₁⟩ := followDependency_spec hd hv hinv hchain hi
      (hdeps dep List.mem_cons_self)
    rw [List.foldl_cons]
    generalize hr : followDependency derived visit (stack ++ [i]) (none, marks) dep = r at hcyc₁ hpost₁
    obtain ⟨found, m₁⟩ := r
    cases found with
    | some c =>
      rw [foldl_followDependency_found]
      exact ⟨fun c' hc' => hcyc₁ c' hc', fun h => by cases h⟩
    | none =>
      obtain ⟨hinv₁, hgrow₁, hdone₁⟩ := hpost₁ rfl
      obtain ⟨hcyc, hpost⟩ := foldl_followDependency hv hchain hi deps m₁
        (fun dep' h => hdeps dep' (List.mem_cons_of_mem _ h)) hinv₁
      refine ⟨hcyc, fun hnone => ?_⟩
      obtain ⟨hinv₂, hgrow₂, hdone₂⟩ := hpost hnone
      refine ⟨hinv₂, hgrow₁.trans hgrow₂, fun dep' hdep' j hj => ?_⟩
      rcases List.mem_cons.mp hdep' with rfl | hdep'
      · exact (hgrow₂ j).1 (hdone₁ j hj)
      · exact hdone₂ dep' hdep' j hj

end

/-! ## The search -/

/-- A visit with fuel for every declaration off the stack: a reported cycle is a cycle, and
without one the declaration is finished, no mark is undone and the invariant holds. -/
theorem visitCycle_spec (hd : DistinctNames derived) :
    ∀ (fuel : Nat) (stack : List Nat), derived.length + 1 ≤ fuel + stack.length →
      VisitSound derived (visitCycle derived fuel) stack
  | 0, stack, hfuel => by
    intro j marks hinv _ _
    -- the stack holds distinct declarations, so it cannot be that long
    have := length_le_of_nodup hinv.stack_nodup fun k hk => hinv.lt_of_mem hk
    omega
  | fuel + 1, stack, hfuel => by
    intro i marks hinv hi hchain
    have hilt : i < marks.size := (Array.getElem?_eq_some_iff.mp hi).1
    have hins : i ∉ stack := fun h => by rw [(hinv.on_stack i).mpr h] at hi; cases hi
    -- `i` goes on the stack
    have hget₀ := getElem?_set!_mark hilt Mark.onStack
    have hinv₀ : SearchInv derived (marks.set! i Mark.onStack) (stack ++ [i]) := by
      refine ⟨by simp [hinv.size], ?_, fun j => ?_, fun j k hj hr => ?_, fun j hj => ?_⟩
      · exact List.nodup_append.mpr ⟨hinv.stack_nodup, List.nodup_singleton i,
          fun a ha b hb hab => hins (List.mem_singleton.mp hb ▸ hab ▸ ha)⟩
      · rw [hget₀ j]
        by_cases hji : j = i
        · simp [hji]
        · simp [hji, hinv.on_stack j]
      · rw [hget₀ j] at hj
        by_cases hji : j = i
        · simp [hji] at hj
        · rw [if_neg hji] at hj
          have hk := hinv.done_closed j k hj hr
          rw [hget₀ k, if_neg fun hki => by rw [hki, hi] at hk; cases hk]
          exact hk
      · rw [hget₀ j] at hj
        by_cases hji : j = i
        · simp [hji] at hj
        · rw [if_neg hji] at hj
          exact hinv.done_acyclic j hj
    have hgrow₀ : MarksGrow marks (marks.set! i Mark.onStack) := by
      intro j
      rw [hget₀ j]
      by_cases hji : j = i
      · subst hji
        rw [hi]
        exact ⟨(fun h => nomatch h), fun h => nomatch h⟩
      · rw [if_neg hji]
        exact ⟨id, id⟩
    -- follow the dependencies of `i`
    have hi' : i < derived.length := hinv.size ▸ hilt
    obtain ⟨d, hdi⟩ : ∃ d, derived[i]? = some d := ⟨derived[i], List.getElem?_eq_getElem hi'⟩
    have hfold := foldl_followDependency hd
      (visitCycle_spec hd fuel (stack ++ [i]) (by simp; omega)) hchain hdi d.dependencies
      (marks.set! i Mark.onStack) (fun _ h => h) hinv₀
    simp only [visitCycle, hdi, Option.map_some, Option.getD_some]
    generalize d.dependencies.foldl (followDependency derived (visitCycle derived fuel)
      (stack ++ [i])) (none, marks.set! i Mark.onStack) = r at hfold
    obtain ⟨found, m₁⟩ := r
    cases found with
    | some c => exact ⟨hfold.cycle, fun h => nomatch h⟩
    | none =>
      obtain ⟨hinv₁, hgrow₁, hdone₁⟩ := hfold.quiet rfl
      have hget₂ := getElem?_set!_mark (hinv₁.size ▸ hinv.size ▸ hilt) Mark.done
      have hon₁ : m₁[i]? = some Mark.onStack := (hgrow₁ i).2 (by rw [hget₀ i, if_pos rfl])
      -- every declaration `i` reads is finished
      have hreads : ∀ k, Reads derived i k → m₁[k]? = some Mark.done := by
        rintro k ⟨d', e, hd', he, hdep⟩
        rw [hdi, Option.some.injEq] at hd'
        subst hd'
        exact hdone₁ e.name hdep k ((derivedIndex_eq_some_iff hd).mpr ⟨e, he, rfl⟩)
      refine ⟨(fun c h => nomatch h), fun _ => ⟨⟨by simp [hinv₁.size], hinv.stack_nodup,
        fun j => ?_, fun j k hj hr => ?_, fun j hj hcyc => ?_⟩, fun j => ?_, ?_⟩⟩
      · rw [hget₂ j]
        by_cases hji : j = i
        · subst hji
          simp [hins]
        · rw [if_neg hji, hinv₁.on_stack j]
          simp [hji]
      · have hk₁ : m₁[k]? = some Mark.done := by
          rw [hget₂ j] at hj
          by_cases hji : j = i
          · subst hji
            exact hreads k hr
          · rw [if_neg hji] at hj
            exact hinv₁.done_closed j k hj hr
        rw [hget₂ k, if_neg fun hki => by rw [hki, hon₁] at hk₁; cases hk₁]
        exact hk₁
      · rw [hget₂ j] at hj
        by_cases hji : j = i
        · subst hji
          -- a cycle through `j` leaves it by a finished declaration, and all that is reached
          -- from there is finished, `j` included; but `j` is still on the stack
          obtain ⟨k, hjk, hkj⟩ := TransGen.head'_iff.mp hcyc
          have := hinv₁.done_reach (hreads k hjk) hkj
          rw [hon₁] at this
          cases this
        · rw [if_neg hji] at hj
          exact hinv₁.done_acyclic j hj hcyc
      · have hg := (hgrow₀.trans hgrow₁) j
        rw [hget₂ j]
        by_cases hji : j = i
        · subst hji
          rw [hi]
          exact ⟨(fun h => nomatch h), fun h => nomatch h⟩
        · rw [if_neg hji]
          exact hg
      · rw [hget₂ i, if_pos rfl]

/-- Starting the search from each of the first `k` declarations in turn: afterwards they are all
finished, unless a cycle was reported. -/
theorem foldl_searchFrom (hd : DistinctNames derived) :
    ∀ k ≤ derived.length,
      Reported derived (fun m => SearchInv derived m [] ∧ ∀ j < k, m[j]? = some Mark.done)
        ((List.range k).foldl (searchFrom derived)
          (none, Array.replicate derived.length Mark.unvisited))
  | 0, _ => by
    refine ⟨(fun c h => nomatch h), fun _ => ⟨⟨by simp, List.nodup_nil, fun j => ?_,
      fun j k hj => ?_, fun j hj => ?_⟩, fun j hj => absurd hj (Nat.not_lt_zero j)⟩⟩ <;>
    by_cases hj' : j < derived.length <;> simp_all
  | k + 1, hk => by
    obtain ⟨hcyc, hpost⟩ := foldl_searchFrom hd k (by omega)
    rw [List.range_succ, List.foldl_append, List.foldl_cons, List.foldl_nil]
    generalize (List.range k).foldl (searchFrom derived)
      (none, Array.replicate derived.length Mark.unvisited) = r at hcyc hpost
    obtain ⟨found, m⟩ := r
    cases found with
    | some c => exact ⟨fun c' hc' => hcyc c' hc', fun h => nomatch h⟩
    | none =>
      obtain ⟨hinv, hdone⟩ := hpost rfl
      have hklt : k < m.size := by rw [hinv.size]; omega
      unfold searchFrom
      cases hm : m[k]? with
      | none => exact absurd hm (by simp [hklt])
      | some mk =>
        cases mk with
        | unvisited =>
          obtain ⟨hcyc', hpost'⟩ := visitCycle_spec hd (derived.length + 1) [] (by simp) k m
            hinv hm (by simp)
          refine ⟨hcyc', fun hnone => ?_⟩
          obtain ⟨hinv', hgrow, hdonek⟩ := hpost' hnone
          refine ⟨hinv', fun j hj => ?_⟩
          rcases Nat.lt_succ_iff_lt_or_eq.mp hj with hj | rfl
          · exact (hgrow j).1 (hdone j hj)
          · exact hdonek
        | onStack => exact absurd ((hinv.on_stack k).mp hm) List.not_mem_nil
        | done =>
          refine ⟨(fun c h => nomatch h), fun _ => ⟨hinv, fun j hj => ?_⟩⟩
          rcases Nat.lt_succ_iff_lt_or_eq.mp hj with hj | rfl
          · exact hdone j hj
          · exact hm

/-- The search reports only cycles, and reports nothing only when the graph has no cycle. -/
theorem findCycle_spec (hd : DistinctNames derived) :
    (∀ c, findCycle derived = some c → IsCycle derived c) ∧
      (findCycle derived = none → ¬HasCycle derived) := by
  obtain ⟨hcyc, hpost⟩ := foldl_searchFrom hd derived.length le_rfl
  refine ⟨hcyc, fun hnone ⟨i, hi⟩ => ?_⟩
  -- with nothing reported every declaration is finished, and no cycle passes through one
  obtain ⟨hinv, hdone⟩ := hpost hnone
  obtain ⟨k, hik, -⟩ := TransGen.head'_iff.mp hi
  exact hinv.done_acyclic i (hdone i hik.lt_left) hi

/-- A graph with a cycle gets one reported. -/
theorem findCycle_of_hasCycle (hd : DistinctNames derived) (h : HasCycle derived) :
    ∃ c, findCycle derived = some c ∧ IsCycle derived c := by
  cases hc : findCycle derived with
  | none => exact absurd h ((findCycle_spec hd).2 hc)
  | some c => exact ⟨c, rfl, (findCycle_spec hd).1 c hc⟩

end

end Reactive.Component
