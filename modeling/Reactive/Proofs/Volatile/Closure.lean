import Reactive.Component.Graph
import Mathlib.Logic.Function.Iterate
import Mathlib.Data.List.Basic

/-!
# The volatile names are the least closed set above the seeds

A name of a component is *volatile* when its value can change after mount (`Model.Volatile`): a
handler mutates it, it is a prop, or it is a derived declaration with a volatile dependency.
`volatileNames` computes these names by starting from the mutated names and the props and running
one round over the derived declarations once more than there are declarations.

`mem_volatileNames` says the result holds exactly the volatile names: every round adds only
volatile names, and a round that adds no name leaves a set closed under the derived declarations,
which is reached within that many rounds since each round that adds a name adds the name of a
declaration that was still missing.
-/

namespace Reactive

namespace Script

theorem mem_addName {x n : String} {acc : List String} :
    x ∈ addName acc n ↔ x ∈ acc ∨ x = n := by
  unfold addName
  split
  · rename_i h
    refine ⟨Or.inl, fun hx => hx.elim id fun hxn => ?_⟩
    subst hxn
    exact List.contains_iff_mem.mp h
  · simp

theorem mem_addNames {x : String} : ∀ {acc ns : List String},
    x ∈ addNames acc ns ↔ x ∈ acc ∨ x ∈ ns
  | acc, [] => by simp [addNames]
  | acc, n :: ns => by
    show x ∈ addNames (addName acc n) ns ↔ _
    rw [mem_addNames, mem_addName, List.mem_cons]
    tauto

end Script

namespace Component

open Script

/-- The names of a component that can change after mount: what a handler mutates, the props, and
every derived declaration with a dependency that can change. -/
inductive Model.Volatile (m : Model) : String → Prop
  | mutated {h : HandlerDecl} {x : String} : h ∈ m.handlers → x ∈ h.mutates → m.Volatile x
  | prop {x : String} : x ∈ m.props → m.Volatile x
  | derived {d : DerivedDecl} {y : String} : d ∈ m.derived → y ∈ d.dependencies →
      m.Volatile y → m.Volatile d.name

namespace Model

variable (m : Model)

/-- Where the search for volatile names starts: the mutated names, then the props. -/
def volatileSeeds : List String :=
  addNames (m.handlers.foldl (fun acc h => addNames acc h.mutates) []) m.props

/-- One round over the derived declarations, in order: a declaration with a dependency found so
far is added. -/
def volatileRound (vs : List String) : List String :=
  m.derived.foldl
    (fun acc d => if d.dependencies.any acc.contains then addName acc d.name else acc) vs

theorem foldl_ignore_eq_iterate {α β : Type} (f : α → α) :
    ∀ (l : List β) (x : α), l.foldl (fun v _ => f v) x = f^[l.length] x
  | [], _ => rfl
  | _ :: l, x => by
    rw [List.foldl_cons, foldl_ignore_eq_iterate f l, List.length_cons, Function.iterate_succ_apply]

theorem mem_foldl_mutates {x : String} : ∀ (hs : List HandlerDecl) (acc : List String),
    x ∈ hs.foldl (fun acc h => addNames acc h.mutates) acc ↔
      x ∈ acc ∨ ∃ h ∈ hs, x ∈ h.mutates
  | [], acc => by simp
  | h :: hs, acc => by
    rw [List.foldl_cons, mem_foldl_mutates hs, mem_addNames]
    simp only [List.mem_cons, exists_eq_or_imp]
    tauto

theorem mem_volatileSeeds {x : String} :
    x ∈ m.volatileSeeds ↔ (∃ h ∈ m.handlers, x ∈ h.mutates) ∨ x ∈ m.props := by
  rw [volatileSeeds, mem_addNames, mem_foldl_mutates]
  simp

/-! ## One round -/

section Round

/-- The step of a round at one declaration. -/
private def roundStep (acc : List String) (d : DerivedDecl) : List String :=
  if d.dependencies.any acc.contains then addName acc d.name else acc

private theorem subset_roundStep (acc : List String) (d : DerivedDecl) :
    acc ⊆ roundStep acc d := by
  intro x hx
  unfold roundStep
  split
  · exact mem_addName.mpr (.inl hx)
  · exact hx

private theorem subset_foldl_roundStep : ∀ (ds : List DerivedDecl) (acc : List String),
    acc ⊆ ds.foldl roundStep acc
  | [], _ => List.Subset.refl _
  | d :: ds, acc => List.Subset.trans (subset_roundStep acc d) (subset_foldl_roundStep ds _)

private theorem reads_of_subset {deps acc acc' : List String} (hsub : acc ⊆ acc')
    (h : deps.any acc.contains = true) : deps.any acc'.contains = true := by
  obtain ⟨y, hy, hyc⟩ := List.any_eq_true.mp h
  exact List.any_eq_true.mpr
    ⟨y, hy, List.contains_iff_mem.mpr (hsub (List.contains_iff_mem.mp hyc))⟩

private theorem roundStep_mono {acc acc' : List String} (hsub : acc ⊆ acc') (d : DerivedDecl) :
    roundStep acc d ⊆ roundStep acc' d := by
  intro x hx
  unfold roundStep at hx ⊢
  by_cases hr : d.dependencies.any acc.contains = true
  · rw [if_pos hr] at hx
    rw [if_pos (reads_of_subset hsub hr)]
    rcases mem_addName.mp hx with hx | rfl
    · exact mem_addName.mpr (.inl (hsub hx))
    · exact mem_addName.mpr (.inr rfl)
  · rw [if_neg hr] at hx
    exact subset_roundStep acc' d (hsub hx)

private theorem foldl_roundStep_mono : ∀ (ds : List DerivedDecl) {acc acc' : List String},
    acc ⊆ acc' → ds.foldl roundStep acc ⊆ ds.foldl roundStep acc'
  | [], _, _, h => h
  | d :: ds, _, _, h => foldl_roundStep_mono ds (roundStep_mono h d)

/-- What a round adds is the name of a declaration. -/
private theorem mem_foldl_roundStep {x : String} : ∀ (ds : List DerivedDecl) (acc : List String),
    x ∈ ds.foldl roundStep acc → x ∈ acc ∨ ∃ d ∈ ds, x = d.name
  | [], _, h => .inl h
  | d :: ds, acc, h => by
    rcases mem_foldl_roundStep ds _ h with h | ⟨d', hd', rfl⟩
    · unfold roundStep at h
      split at h
      · rcases mem_addName.mp h with h | rfl
        · exact .inl h
        · exact .inr ⟨d, List.mem_cons_self, rfl⟩
      · exact .inl h
    · exact .inr ⟨d', List.mem_cons_of_mem _ hd', rfl⟩

/-- A declaration with a dependency in the starting set is added by the round. -/
private theorem name_mem_foldl_roundStep {d : DerivedDecl} {y : String} :
    ∀ (ds : List DerivedDecl) (acc : List String), d ∈ ds → y ∈ d.dependencies →
      y ∈ acc → d.name ∈ ds.foldl roundStep acc
  | d' :: ds, acc, hd, hy, hacc => by
    rcases List.mem_cons.mp hd with rfl | hd
    · have hreads : d.dependencies.any acc.contains = true :=
        List.any_eq_true.mpr ⟨y, hy, List.contains_iff_mem.mpr hacc⟩
      apply subset_foldl_roundStep ds
      unfold roundStep
      rw [if_pos hreads]
      exact mem_addName.mpr (.inr rfl)
    · exact name_mem_foldl_roundStep ds _ hd hy (subset_roundStep acc d' hacc)

/-- A round from volatile names adds only volatile names. -/
private theorem volatile_foldl_roundStep :
    ∀ (ds : List DerivedDecl), (∀ d ∈ ds, d ∈ m.derived) → ∀ acc : List String,
      (∀ x ∈ acc, m.Volatile x) → ∀ x ∈ ds.foldl roundStep acc, m.Volatile x
  | [], _, _, hacc => hacc
  | d :: ds, hds, acc, hacc => by
    refine volatile_foldl_roundStep ds (fun d' h => hds d' (List.mem_cons_of_mem _ h)) _ ?_
    intro x hx
    unfold roundStep at hx
    split at hx
    · rename_i hreads
      rcases mem_addName.mp hx with hx | rfl
      · exact hacc x hx
      · obtain ⟨y, hy, hyc⟩ := List.any_eq_true.mp hreads
        exact .derived (hds d List.mem_cons_self) hy (hacc y (List.contains_iff_mem.mp hyc))
    · exact hacc x hx

end Round

theorem subset_volatileRound (vs : List String) : vs ⊆ m.volatileRound vs :=
  subset_foldl_roundStep _ vs

theorem volatileRound_mono {vs ws : List String} (h : vs ⊆ ws) :
    m.volatileRound vs ⊆ m.volatileRound ws :=
  foldl_roundStep_mono _ h

theorem mem_volatileRound {x : String} {vs : List String} (h : x ∈ m.volatileRound vs) :
    x ∈ vs ∨ ∃ d ∈ m.derived, x = d.name :=
  mem_foldl_roundStep _ vs h

theorem name_mem_volatileRound {vs : List String} {d : DerivedDecl} {y : String}
    (hd : d ∈ m.derived) (hy : y ∈ d.dependencies) (hvs : y ∈ vs) :
    d.name ∈ m.volatileRound vs :=
  name_mem_foldl_roundStep _ vs hd hy hvs

theorem volatile_of_mem_volatileRound {vs : List String} (hvs : ∀ x ∈ vs, m.Volatile x) :
    ∀ x ∈ m.volatileRound vs, m.Volatile x :=
  volatile_foldl_roundStep m _ (fun _ h => h) vs hvs

/-! ## Rounds until nothing is added -/

/-- The names found after `k` rounds. -/
def volatileAfter (k : Nat) : List String := m.volatileRound^[k] m.volatileSeeds

theorem volatileNames_eq_volatileAfter :
    volatileNames m = m.volatileAfter (m.derived.length + 1) := by
  rw [volatileAfter, ← List.length_range (n := m.derived.length + 1)]
  exact foldl_ignore_eq_iterate _ _ _

theorem volatileAfter_succ (k : Nat) :
    m.volatileAfter (k + 1) = m.volatileRound (m.volatileAfter k) :=
  Function.iterate_succ_apply' _ _ _

/-- The number of declarations whose name is not yet found. -/
def missing (vs : List String) : Nat := (m.derived.filter fun d => !vs.contains d.name).length

/-- A round that adds a name lowers the number of declarations still missing. -/
theorem missing_volatileRound_lt {vs : List String} (h : ¬ m.volatileRound vs ⊆ vs) :
    m.missing (m.volatileRound vs) < m.missing vs := by
  obtain ⟨x, hx, hxvs⟩ : ∃ x ∈ m.volatileRound vs, x ∉ vs := by
    by_contra hall
    exact h fun x hx => Classical.byContradiction fun hx' => hall ⟨x, hx, hx'⟩
  obtain ⟨d, hd, rfl⟩ := (m.mem_volatileRound hx).resolve_left hxvs
  -- the declarations missing after the round were missing before it, and `d` is no longer
  have hsub : List.Sublist (m.derived.filter fun d => !(m.volatileRound vs).contains d.name)
      (m.derived.filter fun d => !vs.contains d.name) := by
    apply List.monotone_filter_right
    intro d' hd'
    rw [Bool.not_eq_true'] at hd' ⊢
    refine Bool.eq_false_iff.mpr fun hc => ?_
    have hround := m.subset_volatileRound vs (List.contains_iff_mem.mp hc)
    rw [List.contains_iff_mem.mpr hround] at hd'
    exact Bool.noConfusion hd'
  refine Nat.lt_of_le_of_ne hsub.length_le fun hlen => ?_
  have hmem : d ∈ m.derived.filter fun d => !vs.contains d.name := by
    simp [hd, hxvs]
  rw [← hsub.eq_of_length hlen] at hmem
  simp [hx] at hmem

/-- After `k` rounds, either a round adds nothing more, or `k` declarations were found. -/
theorem stable_or_found : ∀ k, m.volatileRound (m.volatileAfter k) ⊆ m.volatileAfter k ∨
    k + m.missing (m.volatileAfter k) ≤ m.derived.length
  | 0 => .inr (by rw [Nat.zero_add]; exact List.length_filter_le _ _)
  | k + 1 => by
    rw [volatileAfter_succ]
    by_cases hstable : m.volatileRound (m.volatileAfter k) ⊆ m.volatileAfter k
    · exact .inl (m.volatileRound_mono hstable)
    · have hlt := m.missing_volatileRound_lt hstable
      have hle := (stable_or_found k).resolve_left hstable
      exact .inr (by omega)

/-- A round adds nothing once as many rounds ran as there are declarations. -/
theorem volatileRound_stable :
    m.volatileRound (m.volatileAfter m.derived.length) ⊆ m.volatileAfter m.derived.length := by
  rcases m.stable_or_found m.derived.length with h | h
  · exact h
  · -- nothing is missing, and a round adds only names of declarations
    intro x hx
    rcases m.mem_volatileRound hx with hx | ⟨d, hd, rfl⟩
    · exact hx
    · have hzero : m.missing (m.volatileAfter m.derived.length) = 0 := by omega
      have hnot := List.eq_nil_iff_forall_not_mem.mp (List.length_eq_zero_iff.mp hzero) d
      simpa [hd] using hnot

theorem volatileSeeds_subset : ∀ k, m.volatileSeeds ⊆ m.volatileAfter k
  | 0 => List.Subset.refl _
  | k + 1 => by
    rw [volatileAfter_succ]
    exact List.Subset.trans (volatileSeeds_subset k) (m.subset_volatileRound _)

theorem volatile_of_mem_volatileAfter : ∀ k, ∀ x ∈ m.volatileAfter k, m.Volatile x
  | 0, x, hx => by
    rcases m.mem_volatileSeeds.mp hx with ⟨h, hh, hx⟩ | hx
    · exact .mutated hh hx
    · exact .prop hx
  | k + 1, x, hx => by
    rw [volatileAfter_succ] at hx
    exact m.volatile_of_mem_volatileRound (volatile_of_mem_volatileAfter k) x hx

/-- The volatile names hold what handlers mutate and the props. -/
theorem volatileSeeds_subset_volatileNames : m.volatileSeeds ⊆ volatileNames m := by
  rw [volatileNames_eq_volatileAfter]
  exact m.volatileSeeds_subset _

/-- The volatile names are closed: a derived declaration with a volatile dependency is volatile. -/
theorem name_mem_volatileNames {d : DerivedDecl} {y : String} (hd : d ∈ m.derived)
    (hy : y ∈ d.dependencies) (hvol : y ∈ volatileNames m) : d.name ∈ volatileNames m := by
  rw [volatileNames_eq_volatileAfter, volatileAfter_succ] at hvol ⊢
  exact m.name_mem_volatileRound hd hy (m.volatileRound_stable hvol)

end Model

/-- The names the analysis finds are exactly the names that can change after mount: it holds
what handlers mutate and the props, it is closed under derived declarations, and it holds
nothing else. -/
theorem mem_volatileNames (m : Model) (x : String) : x ∈ volatileNames m ↔ m.Volatile x := by
  constructor
  · intro hx
    rw [Model.volatileNames_eq_volatileAfter] at hx
    exact m.volatile_of_mem_volatileAfter _ x hx
  · intro hx
    induction hx with
    | mutated hh hx =>
      exact m.volatileSeeds_subset_volatileNames (m.mem_volatileSeeds.mpr (.inl ⟨_, hh, hx⟩))
    | prop hx => exact m.volatileSeeds_subset_volatileNames (m.mem_volatileSeeds.mpr (.inr hx))
    | derived hd hy _ ih => exact m.name_mem_volatileNames hd hy ih

end Component

end Reactive
