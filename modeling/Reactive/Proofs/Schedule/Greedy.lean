import Reactive.Proofs.Schedule.Graph

/-!
# The smallest-ready order

The ordering of the derived pass places, again and again, the smallest declaration whose
producers are all placed. This file defines that order on its own (`greedyOrder`), apart from
the counters and queues the ordering keeps, and proves what it is.

* `ReadyOrder placed l`: each declaration of `l` is unplaced and has its producers placed when
  its turn comes. An order in which every producer comes first is one (`readyOrder_of_precedes`).
* The greedy order is a ready order (`readyOrder_greedyOrder`) and stops only when nothing is
  ready (`readyAfter_greedyOrder`).
* Against every ready order that places everything, it is lexicographically least
  (`greedyOrder_lex`).
* Without a cycle it places every declaration (`mem_greedyOrder_of_acyclic`); a declaration on a
  cycle is never placed (`not_mem_readyOrder_of_cycle`).
-/

namespace Reactive.Component

open Relation

/-! ## The smallest element -/

/-- The left fold of `min` gives an element of the list at most every element. -/
private theorem foldl_min_spec :
    ∀ (xs : List Nat) (x : Nat), xs.foldl min x ∈ x :: xs ∧ ∀ y ∈ x :: xs, xs.foldl min x ≤ y
  | [], x => by simp
  | y :: ys, x => by
    obtain ⟨hmem, hle⟩ := foldl_min_spec ys (min x y)
    refine ⟨?_, ?_⟩
    · rcases List.mem_cons.mp hmem with h | h
      · rw [List.foldl_cons, h]
        rcases Nat.le_total x y with hxy | hxy
        · simp [Nat.min_eq_left hxy]
        · simp [Nat.min_eq_right hxy]
      · exact List.mem_cons_of_mem _ (List.mem_cons_of_mem _ h)
    · intro z hz
      have hmin := hle (min x y) List.mem_cons_self
      rw [List.foldl_cons]
      rcases List.mem_cons.mp hz with rfl | hz
      · omega
      · rcases List.mem_cons.mp hz with rfl | hz
        · omega
        · exact hle z (List.mem_cons_of_mem _ hz)

theorem smallest?_mem {l : List Nat} {m : Nat} (h : smallest? l = some m) : m ∈ l := by
  cases l with
  | nil => cases h
  | cons x xs =>
    rw [smallest?, Option.some.injEq] at h
    exact h ▸ (foldl_min_spec xs x).1

theorem smallest?_le {l : List Nat} {m : Nat} (h : smallest? l = some m) : ∀ y ∈ l, m ≤ y := by
  cases l with
  | nil => cases h
  | cons x xs =>
    rw [smallest?, Option.some.injEq] at h
    exact h ▸ (foldl_min_spec xs x).2

theorem smallest?_eq_none {l : List Nat} : smallest? l = none ↔ l = [] := by
  cases l <;> simp [smallest?]

/-- The smallest element depends only on which elements the list holds. -/
theorem smallest?_congr {l l' : List Nat} (h : ∀ x, x ∈ l ↔ x ∈ l') :
    smallest? l = smallest? l' := by
  cases hl : smallest? l with
  | none =>
    rw [smallest?_eq_none] at hl
    subst hl
    symm
    rw [smallest?_eq_none, List.eq_nil_iff_forall_not_mem]
    exact fun x hx => List.not_mem_nil ((h x).mpr hx)
  | some m =>
    cases hl' : smallest? l' with
    | none =>
      rw [smallest?_eq_none] at hl'
      subst hl'
      exact absurd ((h m).mp (smallest?_mem hl)) List.not_mem_nil
    | some m' =>
      have h₁ := smallest?_le hl m' ((h m').mpr (smallest?_mem hl'))
      have h₂ := smallest?_le hl' m ((h m).mp (smallest?_mem hl))
      rw [Nat.le_antisymm h₁ h₂]

/-! ## Ready orders -/

section
variable {derived : List DerivedDecl}

/-- Declaration `i` can be placed after `placed`: it is not placed and its producers are. -/
def IsReady (derived : List DerivedDecl) (placed : List Nat) (i : Nat) : Prop :=
  i < derived.length ∧ i ∉ placed ∧ ∀ p ∈ producersAt derived i, p ∈ placed

instance (placed : List Nat) (i : Nat) : Decidable (IsReady derived placed i) :=
  inferInstanceAs (Decidable (_ ∧ _ ∧ _))

/-- Each declaration of the list can be placed when its turn comes, after `placed`. -/
def ReadyOrder (derived : List DerivedDecl) : List Nat → List Nat → Prop
  | _, [] => True
  | placed, i :: rest => IsReady derived placed i ∧ ReadyOrder derived (placed ++ [i]) rest

@[simp] theorem readyOrder_nil (placed : List Nat) : ReadyOrder derived placed [] := trivial

@[simp] theorem readyOrder_cons {placed : List Nat} {i : Nat} {rest : List Nat} :
    ReadyOrder derived placed (i :: rest) ↔
      IsReady derived placed i ∧ ReadyOrder derived (placed ++ [i]) rest := Iff.rfl

theorem ReadyOrder.append {placed l₁ l₂ : List Nat} :
    ReadyOrder derived placed (l₁ ++ l₂) ↔
      ReadyOrder derived placed l₁ ∧ ReadyOrder derived (placed ++ l₁) l₂ := by
  induction l₁ generalizing placed with
  | nil => simp
  | cons i l₁ ih => simp [ih, and_assoc]

/-- A ready order after a duplicate-free `placed` repeats nothing and stays below the count. -/
theorem ReadyOrder.nodup {placed l : List Nat} (h : ReadyOrder derived placed l)
    (hp : placed.Nodup) : (placed ++ l).Nodup ∧ ∀ i ∈ l, i < derived.length := by
  induction l generalizing placed with
  | nil => simpa using hp
  | cons i l ih =>
    obtain ⟨⟨hi, hni, -⟩, hrest⟩ := h
    have hp' : (placed ++ [i]).Nodup :=
      List.nodup_append.mpr ⟨hp, List.nodup_singleton i,
        fun a ha b hb hab => hni (List.mem_singleton.mp hb ▸ hab ▸ ha)⟩
    obtain ⟨hnd, hlt⟩ := ih hrest hp'
    refine ⟨by simpa using hnd, ?_⟩
    intro j hj
    rcases List.mem_cons.mp hj with rfl | hj
    · exact hi
    · exact hlt j hj

/-- A ready order places nothing that was placed before it. -/
theorem ReadyOrder.not_mem_placed {placed l : List Nat} (h : ReadyOrder derived placed l) :
    ∀ i ∈ l, i ∉ placed := by
  induction l generalizing placed with
  | nil => simp
  | cons a l ih =>
    intro i hi hip
    obtain ⟨⟨-, hna, -⟩, hrest⟩ := h
    rcases List.mem_cons.mp hi with rfl | hi
    · exact hna hip
    · exact ih hrest i hi (List.mem_append_left _ hip)

/-- In a ready order, a producer of a placed declaration was placed before, or comes earlier. -/
theorem ReadyOrder.producer_before {placed l : List Nat} (h : ReadyOrder derived placed l)
    {i p : Nat} (hi : i ∈ l) (hp : p ∈ producersAt derived i) :
    p ∈ placed ∨ (p ∈ l ∧ l.idxOf p < l.idxOf i) := by
  induction l generalizing placed with
  | nil => cases hi
  | cons a l ih =>
    obtain ⟨⟨-, -, hprod⟩, hrest⟩ := h
    rcases List.mem_cons.mp hi with rfl | hi
    · exact .inl (hprod p hp)
    have hia : i ≠ a := fun hia =>
      hrest.not_mem_placed i hi (List.mem_append_right _ (List.mem_singleton.mpr hia))
    rcases ih hrest hi with hpl | ⟨hpl, hidx⟩
    · rcases List.mem_append.mp hpl with hpl | hpl
      · exact .inl hpl
      · rw [List.mem_singleton] at hpl
        subst hpl
        exact .inr ⟨List.mem_cons_self, by simp [Ne.symm hia]⟩
    · have hpa : p ≠ a := fun hpa =>
        hrest.not_mem_placed p hpl (List.mem_append_right _ (List.mem_singleton.mpr hpa))
      refine .inr ⟨List.mem_cons_of_mem _ hpl, ?_⟩
      simp only [List.idxOf_cons, beq_false_of_ne (Ne.symm hpa), beq_false_of_ne (Ne.symm hia),
        cond_false]
      omega
/-- A list in which each declaration comes after its producers (or after `placed`) is a ready
order. -/
theorem readyOrder_of_precedes :
    ∀ (l placed : List Nat), l.Nodup → (∀ i ∈ l, i < derived.length) → (∀ i ∈ l, i ∉ placed) →
      (∀ i ∈ l, ∀ p ∈ producersAt derived i, p ∈ placed ∨ (p ∈ l ∧ l.idxOf p < l.idxOf i)) →
      ReadyOrder derived placed l
  | [], _, _, _, _, _ => trivial
  | a :: l, placed, hnd, hlt, hnot, hprec => by
    obtain ⟨hal, hnd⟩ := List.nodup_cons.mp hnd
    refine ⟨⟨hlt a List.mem_cons_self, hnot a List.mem_cons_self, fun p hp => ?_⟩, ?_⟩
    · rcases hprec a List.mem_cons_self p hp with hp | ⟨-, hidx⟩
      · exact hp
      · simp at hidx
    apply readyOrder_of_precedes l (placed ++ [a]) hnd
      (fun i hi => hlt i (List.mem_cons_of_mem _ hi))
    · intro i hi hip
      rcases List.mem_append.mp hip with hip | hip
      · exact hnot i (List.mem_cons_of_mem _ hi) hip
      · exact hal (List.mem_singleton.mp hip ▸ hi)
    · intro i hi p hp
      have hia : i ≠ a := fun h => hal (h ▸ hi)
      rcases hprec i (List.mem_cons_of_mem _ hi) p hp with hpl | ⟨hpl, hidx⟩
      · exact .inl (List.mem_append_left _ hpl)
      · by_cases hpa : p = a
        · exact .inl (List.mem_append_right _ (List.mem_singleton.mpr hpa))
        · simp only [List.idxOf_cons, beq_false_of_ne (Ne.symm hpa),
            beq_false_of_ne (Ne.symm hia), cond_false] at hidx
          exact .inr ⟨(List.mem_cons.mp hpl).resolve_left hpa, by omega⟩

/-! ## The greedy order -/

/-- The declarations that can be placed after `placed`, in source order. -/
def readyAfter (derived : List DerivedDecl) (placed : List Nat) : List Nat :=
  (List.range derived.length).filter fun i => decide (IsReady derived placed i)

theorem mem_readyAfter {placed : List Nat} {i : Nat} :
    i ∈ readyAfter derived placed ↔ IsReady derived placed i := by
  simp only [readyAfter, List.mem_filter, List.mem_range, decide_eq_true_eq]
  exact ⟨fun h => h.2, fun h => ⟨h.1, h⟩⟩

/-- Places the smallest ready declaration, at most `fuel` times. -/
def greedyOrder (derived : List DerivedDecl) : Nat → List Nat → List Nat
  | 0, placed => placed
  | fuel + 1, placed =>
    match smallest? (readyAfter derived placed) with
    | none => placed
    | some i => greedyOrder derived fuel (placed ++ [i])

theorem greedyOrder_succ_of_none {fuel : Nat} {placed : List Nat}
    (h : smallest? (readyAfter derived placed) = none) :
    greedyOrder derived (fuel + 1) placed = placed := by
  simp [greedyOrder, h]

theorem greedyOrder_succ_of_some {fuel : Nat} {placed : List Nat} {i : Nat}
    (h : smallest? (readyAfter derived placed) = some i) :
    greedyOrder derived (fuel + 1) placed = greedyOrder derived fuel (placed ++ [i]) := by
  simp [greedyOrder, h]

/-- The greedy order extends what was placed by a ready order. -/
theorem greedyOrder_extends :
    ∀ (fuel : Nat) (placed : List Nat),
      ∃ out, greedyOrder derived fuel placed = placed ++ out ∧ ReadyOrder derived placed out
  | 0, placed => ⟨[], by simp [greedyOrder], trivial⟩
  | fuel + 1, placed => by
    cases h : smallest? (readyAfter derived placed) with
    | none => exact ⟨[], by simp [greedyOrder_succ_of_none h], trivial⟩
    | some i =>
      obtain ⟨out, hout, hro⟩ := greedyOrder_extends fuel (placed ++ [i])
      refine ⟨i :: out, by simp [greedyOrder_succ_of_some h, hout], ?_, hro⟩
      exact mem_readyAfter.mp (smallest?_mem h)

/-- With fuel for every declaration left, the greedy order stops only when nothing is ready. -/
theorem readyAfter_greedyOrder :
    ∀ (fuel : Nat) (placed : List Nat), placed.Nodup → (∀ i ∈ placed, i < derived.length) →
      derived.length < fuel + placed.length →
      readyAfter derived (greedyOrder derived fuel placed) = []
  | 0, placed, hnd, hlt, hfuel => by
    have := length_le_of_nodup hnd hlt
    omega
  | fuel + 1, placed, hnd, hlt, hfuel => by
    cases h : smallest? (readyAfter derived placed) with
    | none => rw [greedyOrder_succ_of_none h, ← smallest?_eq_none, h]
    | some i =>
      obtain ⟨hi, hni, -⟩ := mem_readyAfter.mp (smallest?_mem h)
      rw [greedyOrder_succ_of_some h]
      apply readyAfter_greedyOrder fuel (placed ++ [i])
      · exact List.nodup_append.mpr ⟨hnd, List.nodup_singleton i,
          fun a ha b hb hab => hni (List.mem_singleton.mp hb ▸ hab ▸ ha)⟩
      · intro j hj
        rcases List.mem_append.mp hj with hj | hj
        · exact hlt j hj
        · exact List.mem_singleton.mp hj ▸ hi
      · simp only [List.length_append, List.length_singleton]
        omega

/-- The greedy order is lexicographically at most every ready order that places every
declaration: where the two first differ, the greedy order took a smaller ready declaration. -/
theorem greedyOrder_lex :
    ∀ (l placed : List Nat) (fuel : Nat), ReadyOrder derived placed l →
      (∀ i < derived.length, i ∈ placed ∨ i ∈ l) → l.length ≤ fuel →
      ∃ g, greedyOrder derived fuel placed = placed ++ g ∧ (g = l ∨ List.Lex (· < ·) g l)
  | [], placed, fuel, _, hall, _ => by
    refine ⟨[], ?_, .inl rfl⟩
    cases fuel with
    | zero => simp [greedyOrder]
    | succ fuel =>
      have hnone : readyAfter derived placed = [] := by
        rw [List.eq_nil_iff_forall_not_mem]
        intro i hi
        obtain ⟨hlt, hni, -⟩ := mem_readyAfter.mp hi
        exact hni ((hall i hlt).resolve_right List.not_mem_nil)
      rw [greedyOrder_succ_of_none (smallest?_eq_none.mpr hnone), List.append_nil]
  | t :: l, placed, fuel, hro, hall, hlen => by
    obtain ⟨fuel, rfl⟩ : ∃ f, fuel = f + 1 := ⟨fuel - 1, by simp at hlen; omega⟩
    have ht : t ∈ readyAfter derived placed := mem_readyAfter.mpr hro.1
    obtain ⟨g₀, hg₀⟩ : ∃ g₀, smallest? (readyAfter derived placed) = some g₀ := by
      cases h : smallest? (readyAfter derived placed) with
      | none => exact absurd (smallest?_eq_none.mp h ▸ ht) List.not_mem_nil
      | some g₀ => exact ⟨g₀, rfl⟩
    rw [greedyOrder_succ_of_some hg₀]
    rcases Nat.lt_or_eq_of_le (smallest?_le hg₀ t ht) with hlt | rfl
    · -- the greedy order takes a smaller declaration here
      obtain ⟨out, hout, -⟩ := @greedyOrder_extends derived fuel (placed ++ [g₀])
      exact ⟨g₀ :: out, by simp [hout], .inr (.rel hlt)⟩
    · -- both take the same declaration; compare what follows
      have hall' : ∀ i < derived.length, i ∈ placed ++ [g₀] ∨ i ∈ l := by
        intro i hi
        rcases hall i hi with h | h
        · exact .inl (List.mem_append_left _ h)
        · rcases List.mem_cons.mp h with rfl | h
          · exact .inl (List.mem_append_right _ (List.mem_singleton_self _))
          · exact .inr h
      obtain ⟨g, hg, hgl⟩ := greedyOrder_lex l (placed ++ [g₀]) fuel hro.2 hall'
        (by simp at hlen; omega)
      refine ⟨g₀ :: g, by simp [hg], ?_⟩
      rcases hgl with rfl | hgl
      · exact .inl rfl
      · exact .inr (.cons hgl)

/-! ## Cycles -/

/-- In a ready order from nothing, a declaration reached along dependencies from a placed one is
placed earlier. -/
theorem ReadyOrder.reach_before (hd : DistinctNames derived) {l : List Nat}
    (h : ReadyOrder derived [] l) {i j : Nat} (hij : TransGen (Reads derived) i j) (hi : i ∈ l) :
    j ∈ l ∧ l.idxOf j < l.idxOf i := by
  induction hij with
  | single hr =>
    rcases h.producer_before hi ((mem_producersAt hd).mpr hr) with h | h
    · exact absurd h List.not_mem_nil
    · exact h
  | tail _ hr ih =>
    obtain ⟨hk, hki⟩ := ih
    rcases h.producer_before hk ((mem_producersAt hd).mpr hr) with h | ⟨hj, hjk⟩
    · exact absurd h List.not_mem_nil
    · exact ⟨hj, hjk.trans hki⟩

/-- A declaration on a cycle is never placed by a ready order. -/
theorem not_mem_readyOrder_of_cycle (hd : DistinctNames derived) {l : List Nat}
    (h : ReadyOrder derived [] l) {i : Nat} (hcyc : TransGen (Reads derived) i i) : i ∉ l :=
  fun hi => Nat.lt_irrefl _ (h.reach_before hd hcyc hi).2

/-- Without a cycle, once nothing is ready every declaration is placed. -/
theorem mem_of_readyAfter_eq_nil (hd : DistinctNames derived) (hacyc : ¬HasCycle derived)
    {placed : List Nat} (hsat : readyAfter derived placed = []) :
    ∀ i < derived.length, i ∈ placed := by
  intro i hi
  by_contra hni
  obtain ⟨j, hj, hjn, hfree⟩ := exists_reads_free hacyc (· ∉ placed) hi hni
  have hready : IsReady derived placed j :=
    ⟨hj, hjn, fun p hp => by
      by_contra hpn
      exact hfree p ((mem_producersAt hd).mp hp) hpn⟩
  exact List.not_mem_nil (hsat ▸ mem_readyAfter.mpr hready)

/-! ## Topological orders -/

/-- `order` lists every declaration once, each after the declarations it reads. -/
def IsTopologicalOrder (derived : List DerivedDecl) (order : List Nat) : Prop :=
  order.Perm (List.range derived.length) ∧
    ∀ i j, Reads derived i j → order.idxOf j < order.idxOf i

/-- A topological order is a ready order. -/
theorem IsTopologicalOrder.readyOrder (hd : DistinctNames derived) {order : List Nat}
    (h : IsTopologicalOrder derived order) : ReadyOrder derived [] order := by
  have hmem : ∀ i, i ∈ order ↔ i < derived.length := fun i => by
    rw [h.1.mem_iff, List.mem_range]
  apply readyOrder_of_precedes order [] (h.1.nodup_iff.mpr List.nodup_range)
    (fun i hi => (hmem i).mp hi) (fun _ _ => List.not_mem_nil)
  intro i _ p hp
  have hr := (mem_producersAt hd).mp hp
  exact .inr ⟨(hmem p).mpr hr.lt_right, h.2 i p hr⟩

/-- A ready order that places every declaration is a topological order. -/
theorem isTopologicalOrder_of_readyOrder (hd : DistinctNames derived) {order : List Nat}
    (h : ReadyOrder derived [] order) (hall : ∀ i < derived.length, i ∈ order) :
    IsTopologicalOrder derived order := by
  obtain ⟨hnd, hlt⟩ := h.nodup List.nodup_nil
  refine ⟨perm_range_of_nodup (by simpa using hnd) hlt hall, fun i j hij => ?_⟩
  rcases h.producer_before (hall i hij.lt_left) ((mem_producersAt hd).mpr hij) with h | h
  · exact absurd h List.not_mem_nil
  · exact h.2

end

end Reactive.Component
