import Reactive.Proofs.Schedule.Greedy

/-!
# The ordering loop places the smallest ready declaration

The ordering keeps, for each declaration, the count of its producers not placed yet, a list of
the declarations whose count is zero, and a table of who reads whom. This file shows that these
counters always describe the placed declarations exactly (`OrderingInv`), so that the loop takes
the same declaration as the greedy order at every turn (`orderFrom_eq_greedyOrder`).

* `consumerTable` lists, for each declaration, the declarations that read it, in source order
  (`consumerTable_getElem?`).
* Placing a declaration lowers the count of each of its consumers once
  (`foldl_releaseConsumer`).
-/

namespace Reactive.Component

/-! ## Counting unplaced producers -/

/-- Placing `i` takes it out of the unplaced members of a duplicate-free list. -/
private theorem countP_not_mem_append {placed : List Nat} {i : Nat} (hi : i ∉ placed) :
    ∀ l : List Nat, l.Nodup →
      l.countP (fun p => decide (p ∉ placed)) =
        l.countP (fun p => decide (p ∉ placed ++ [i])) + if i ∈ l then 1 else 0
  | [], _ => by simp
  | a :: l, hnd => by
    obtain ⟨hal, hl⟩ := List.nodup_cons.mp hnd
    rw [List.countP_cons, List.countP_cons, countP_not_mem_append hi l hl]
    by_cases hai : a = i
    · subst hai
      simp [hi, hal]
    · have hil : (i ∈ a :: l) ↔ i ∈ l := by simp [Ne.symm hai]
      simp only [hil, List.mem_append, List.mem_singleton, hai, or_false]
      omega

section
variable {derived : List DerivedDecl}

/-- The producers of declaration `c` that are not placed yet. -/
def unplacedCount (derived : List DerivedDecl) (placed : List Nat) (c : Nat) : Nat :=
  (producersAt derived c).countP fun p => decide (p ∉ placed)

/-- Placing `i` removes it from the unplaced producers of each declaration that reads it. -/
theorem unplacedCount_append {placed : List Nat} {i : Nat} (hi : i ∉ placed) (c : Nat) :
    unplacedCount derived placed c =
      unplacedCount derived (placed ++ [i]) c + if i ∈ producersAt derived c then 1 else 0 :=
  countP_not_mem_append hi _ (nodup_producersAt c)

theorem unplacedCount_eq_zero {placed : List Nat} {c : Nat} :
    unplacedCount derived placed c = 0 ↔ ∀ p ∈ producersAt derived c, p ∈ placed := by
  simp [unplacedCount]

/-! ## The consumer table -/

/-- Producers lie among the declarations. -/
theorem lt_of_mem_producersAt {c p : Nat} (h : p ∈ producersAt derived c) :
    p < derived.length := by
  unfold producersAt at h
  cases hc : derived[c]? with
  | none => simp [hc] at h
  | some d =>
    rw [hc, Option.map_some, Option.getD_some, producersOf, mem_foldl_addProducer] at h
    rcases h with h | ⟨dep, -, hp⟩
    · cases h
    · obtain ⟨e, he, -⟩ := derivedIndex_eq_some hp
      exact (List.getElem?_eq_some_iff.mp he).1

/-- Recording declaration `i` appends it to the entry of each of its producers once. -/
theorem addConsumer_getElem? (i : Nat) :
    ∀ (producers : List Nat) (table : Array (List Nat)), producers.Nodup →
      (∀ p ∈ producers, p < table.size) → ∀ p,
      (addConsumer i table producers).size = table.size ∧
      (addConsumer i table producers)[p]? =
        if p ∈ producers then some ((table[p]?).getD [] ++ [i]) else table[p]?
  | [], table, _, _, p => by simp [addConsumer]
  | q :: qs, table, hnd, hlt, p => by
    obtain ⟨hq, hqs⟩ := List.nodup_cons.mp hnd
    have hlt' : ∀ p ∈ qs, p < (table.set! q ((table[q]?).getD [] ++ [i])).size := by
      intro p hp
      simpa using hlt p (List.mem_cons_of_mem _ hp)
    obtain ⟨hsize, hget⟩ := addConsumer_getElem? i qs _ hqs hlt' p
    unfold addConsumer at hsize hget ⊢
    rw [List.foldl_cons]
    refine ⟨by simpa using hsize, ?_⟩
    rw [hget]
    by_cases hpq : p = q
    · subst hpq
      simp [hq, Array.getElem?_setIfInBounds_self_of_lt (hlt p List.mem_cons_self)]
    · by_cases hp : p ∈ qs
      · simp [hp, Array.getElem?_setIfInBounds_ne (Ne.symm hpq)]
      · simp [hp, hpq, Array.getElem?_setIfInBounds_ne (Ne.symm hpq)]

/-- Each entry of the consumer table lists the declarations that read it, in source order. -/
theorem consumerTable_getElem? {p : Nat} (hp : p < derived.length) :
    (consumerTable derived)[p]? =
      some ((List.range derived.length).filter fun c => decide (p ∈ producersAt derived c)) := by
  -- the table after recording the first `k` declarations
  have hstep : ∀ k ≤ derived.length,
      ((List.range k).foldl (fun acc i => addConsumer i acc (producersAt derived i))
        (Array.replicate derived.length [])).size = derived.length ∧
      ∀ q < derived.length,
        ((List.range k).foldl (fun acc i => addConsumer i acc (producersAt derived i))
          (Array.replicate derived.length []))[q]? =
          some ((List.range k).filter fun c => decide (q ∈ producersAt derived c)) := by
    intro k
    induction k with
    | zero => exact fun _ => ⟨by simp, fun q hq => by simp [hq]⟩
    | succ k ih =>
      intro hk
      obtain ⟨hsize, hget⟩ := ih (by omega)
      rw [List.range_succ, List.foldl_append, List.foldl_cons, List.foldl_nil]
      have hlt : ∀ q ∈ producersAt derived k, q < _ := fun q hq =>
        hsize ▸ lt_of_mem_producersAt hq
      refine ⟨(addConsumer_getElem? k _ _ (nodup_producersAt k) hlt 0).1.trans hsize, ?_⟩
      intro q hq
      rw [(addConsumer_getElem? k _ _ (nodup_producersAt k) hlt q).2, hget q hq]
      by_cases hqk : q ∈ producersAt derived k <;> simp [hqk, List.filter_append]
  exact (hstep derived.length le_rfl).2 p hp

/-! ## Releasing consumers -/

/-- Releasing a duplicate-free list of consumers lowers the count of each once, and makes ready,
in order, those whose count reaches zero. -/
theorem foldl_releaseConsumer :
    ∀ (cs : List Nat) (pending : Array Nat) (ready : List Nat), cs.Nodup →
      (∀ c ∈ cs, c < pending.size) →
      (cs.foldl releaseConsumer (pending, ready)).1.size = pending.size ∧
      (∀ c, (cs.foldl releaseConsumer (pending, ready)).1[c]? =
        if c ∈ cs then some ((pending[c]?).getD 0 - 1) else pending[c]?) ∧
      (cs.foldl releaseConsumer (pending, ready)).2 =
        ready ++ cs.filter fun c => (pending[c]?).getD 0 - 1 == 0
  | [], pending, ready, _, _ => by simp
  | c :: cs, pending, ready, hnd, hlt => by
    obtain ⟨hc, hcs⟩ := List.nodup_cons.mp hnd
    have hclt := hlt c List.mem_cons_self
    let k := (pending[c]?).getD 0 - 1
    have hrel : releaseConsumer (pending, ready) c =
        (pending.set! c k, if k == 0 then ready ++ [c] else ready) := rfl
    have hlt' : ∀ c' ∈ cs, c' < (pending.set! c k).size := by
      intro c' hc'
      simpa using hlt c' (List.mem_cons_of_mem _ hc')
    obtain ⟨hsize, hget, hready⟩ := foldl_releaseConsumer cs (pending.set! c k)
      (if k == 0 then ready ++ [c] else ready) hcs hlt'
    -- the other consumers still read the count they had before `c` was released
    have hsame : ∀ c' ∈ cs, (pending.set! c k)[c']? = pending[c']? := fun c' hc' =>
      Array.getElem?_setIfInBounds_ne fun h => hc (by rw [h]; exact hc')
    rw [List.foldl_cons, hrel]
    refine ⟨by simpa using hsize, fun c' => ?_, ?_⟩
    · rw [hget c']
      by_cases hc'cs : c' ∈ cs
      · rw [if_pos hc'cs, if_pos (List.mem_cons_of_mem _ hc'cs), hsame c' hc'cs]
      · by_cases hc'c : c' = c
        · subst hc'c
          simp [hc'cs, Array.getElem?_setIfInBounds_self_of_lt hclt, k]
        · simp [hc'cs, hc'c, Array.getElem?_setIfInBounds_ne (Ne.symm hc'c)]
    · rw [hready, List.filter_congr (fun c' hc' => by rw [hsame c' hc'])]
      by_cases hk : k = 0 <;> simp [hk, k]

/-! ## The invariant of the ordering loop -/

/-- What the ordering's counters say about the declarations placed so far. -/
structure OrderingInv (derived : List DerivedDecl) (pending : Array Nat)
    (ready placed : List Nat) : Prop where
  size : pending.size = derived.length
  count : ∀ c < derived.length, pending[c]? = some (unplacedCount derived placed c)
  nodup : ready.Nodup
  mem_ready : ∀ i, i ∈ ready ↔ IsReady derived placed i
  closed : ∀ x ∈ placed, ∀ p ∈ producersAt derived x, p ∈ placed

/-- Placing a ready declaration and releasing its consumers keeps the invariant. -/
theorem OrderingInv.place {pending : Array Nat} {ready placed : List Nat} {i : Nat}
    (h : OrderingInv derived pending ready placed) (hi : IsReady derived placed i) :
    OrderingInv derived
      ((((consumerTable derived)[i]?).getD []).foldl releaseConsumer (pending, ready.erase i)).1
      ((((consumerTable derived)[i]?).getD []).foldl releaseConsumer (pending, ready.erase i)).2
      (placed ++ [i]) := by
  obtain ⟨hin, hni, hprod⟩ := hi
  set cs := (List.range derived.length).filter fun c => decide (i ∈ producersAt derived c)
    with hcs
  have hmem_cs : ∀ c, c ∈ cs ↔ c < derived.length ∧ i ∈ producersAt derived c := by
    intro c
    simp [hcs]
  have hcs_nd : cs.Nodup := List.nodup_range.filter _
  have hcs_lt : ∀ c ∈ cs, c < pending.size := fun c hc => h.size ▸ ((hmem_cs c).mp hc).1
  rw [consumerTable_getElem? hin, Option.getD_some]
  obtain ⟨hsize, hget, hready⟩ := foldl_releaseConsumer cs pending (ready.erase i) hcs_nd hcs_lt
  -- a consumer of `i` was not ready, since `i` itself was not placed
  have hcs_not_ready : ∀ c ∈ cs, ¬IsReady derived placed c := fun c hc hrc =>
    hni (hrc.2.2 i ((hmem_cs c).mp hc).2)
  constructor
  · rw [hsize, h.size]
  · intro c hc
    rw [hget c, h.count c hc, unplacedCount_append hni c]
    by_cases hic : i ∈ producersAt derived c
    · simp [(hmem_cs c).mpr ⟨hc, hic⟩, hic]
    · have : c ∉ cs := fun h' => hic ((hmem_cs c).mp h').2
      simp [this, hic]
  · rw [hready]
    refine List.nodup_append.mpr ⟨h.nodup.erase i, hcs_nd.filter _, ?_⟩
    intro a ha b hb hab
    subst hab
    exact hcs_not_ready a (List.mem_filter.mp hb).1 ((h.mem_ready a).mp (List.mem_of_mem_erase ha))
  · intro x
    rw [hready, List.mem_append, List.mem_filter, h.nodup.mem_erase_iff, h.mem_ready x]
    constructor
    · rintro (⟨hxi, hxlt, hxn, hxp⟩ | ⟨hxcs, hx0⟩)
      · refine ⟨hxlt, ?_, fun p hp => List.mem_append_left _ (hxp p hp)⟩
        simpa [hxi] using hxn
      · obtain ⟨hxlt, hix⟩ := (hmem_cs x).mp hxcs
        have hcount := h.count x hxlt
        rw [hcount, Option.getD_some, unplacedCount_append hni x, if_pos hix] at hx0
        have hzero : unplacedCount derived (placed ++ [i]) x = 0 := by simpa using hx0
        refine ⟨hxlt, ?_, unplacedCount_eq_zero.mp hzero⟩
        intro hx
        rcases List.mem_append.mp hx with hx | hx
        · exact hni (h.closed x hx i hix)
        · rw [List.mem_singleton] at hx
          subst hx
          exact hni (hprod x hix)
    · rintro ⟨hxlt, hxn, hxp⟩
      have hxi : x ≠ i := fun hxi => hxn (List.mem_append_right _ (List.mem_singleton.mpr hxi))
      have hxn' : x ∉ placed := fun hx => hxn (List.mem_append_left _ hx)
      by_cases hix : i ∈ producersAt derived x
      · right
        refine ⟨(hmem_cs x).mpr ⟨hxlt, hix⟩, ?_⟩
        rw [h.count x hxlt, Option.getD_some, unplacedCount_append hni x, if_pos hix,
          unplacedCount_eq_zero.mpr hxp]
        rfl
      · left
        refine ⟨hxi, hxlt, hxn', fun p hp => ?_⟩
        rcases List.mem_append.mp (hxp p hp) with hp' | hp'
        · exact hp'
        · exact absurd (List.mem_singleton.mp hp' ▸ hp) hix
  · intro x hx p hp
    rcases List.mem_append.mp hx with hx | hx
    · exact List.mem_append_left _ (h.closed x hx p hp)
    · rw [List.mem_singleton] at hx
      subst hx
      exact List.mem_append_left _ (hprod p hp)

/-- The ordering loop, run from counters that describe `acc`, is the greedy order. -/
theorem orderFrom_eq_greedyOrder :
    ∀ (fuel : Nat) (pending : Array Nat) (ready acc : List Nat),
      OrderingInv derived pending ready acc.reverse →
      orderFrom (consumerTable derived) fuel pending ready acc =
        greedyOrder derived fuel acc.reverse
  | 0, _, _, _, _ => by simp [orderFrom, greedyOrder]
  | fuel + 1, pending, ready, acc, h => by
    have hs : smallest? ready = smallest? (readyAfter derived acc.reverse) :=
      smallest?_congr fun x => (h.mem_ready x).trans mem_readyAfter.symm
    cases hsm : smallest? (readyAfter derived acc.reverse) with
    | none => simp [orderFrom, hs, hsm, greedyOrder_succ_of_none hsm]
    | some i =>
      simp only [orderFrom, hs, hsm]
      rw [greedyOrder_succ_of_some hsm]
      have hi := mem_readyAfter.mp (smallest?_mem hsm)
      have hrun := orderFrom_eq_greedyOrder fuel _ _ (i :: acc)
        (by rw [List.reverse_cons]; exact h.place hi)
      rwa [List.reverse_cons] at hrun

/-- The counters the schedule starts from describe nothing placed. -/
theorem orderingInv_start :
    OrderingInv derived (derived.map fun d => (producersOf derived d).length).toArray
      ((List.range derived.length).filter fun i =>
        ((derived.map fun d => (producersOf derived d).length).toArray[i]?).getD 0 == 0) [] := by
  -- the start count of a declaration is the number of its producers
  have hcount : ∀ c < derived.length,
      (derived.map fun d => (producersOf derived d).length).toArray[c]? =
        some (unplacedCount derived [] c) := by
    intro c hc
    simp [unplacedCount, producersAt, List.getElem?_eq_getElem hc]
  refine ⟨by simp, hcount, List.nodup_range.filter _, fun i => ?_, by simp⟩
  simp only [List.mem_filter, List.mem_range, beq_iff_eq]
  constructor
  · rintro ⟨hi, h0⟩
    rw [hcount i hi, Option.getD_some] at h0
    exact ⟨hi, List.not_mem_nil, unplacedCount_eq_zero.mp h0⟩
  · rintro ⟨hi, -, hp⟩
    rw [hcount i hi, Option.getD_some]
    exact ⟨hi, unplacedCount_eq_zero.mpr hp⟩

/-- The schedule's ordering loop computes the greedy order. -/
theorem orderFrom_start :
    orderFrom (consumerTable derived) (derived.length + 1)
        (derived.map fun d => (producersOf derived d).length).toArray
        ((List.range derived.length).filter fun i =>
          ((derived.map fun d => (producersOf derived d).length).toArray[i]?).getD 0 == 0) [] =
      greedyOrder derived (derived.length + 1) [] :=
  orderFrom_eq_greedyOrder _ _ _ [] orderingInv_start

end

end Reactive.Component
