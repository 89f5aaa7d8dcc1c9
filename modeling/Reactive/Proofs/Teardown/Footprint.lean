import Reactive.Proofs.Runtime.Mount
import Reactive.Session.Basic

/-!
# What teardown reads of an instance tree

Unmount reads four fields of an instance: its phase, the container it was mounted into, the host
nodes it appended there (its roots) and its subscriptions. This file names them (`Footprint`)
and the tree of them (`Outline`), lists the footprints of a tree in order, and says how replacing
the instance at a path, which is how a session runs an operation on a nested instance
(`runAtPath_eq`), changes that list and that tree.
-/

namespace Reactive

/-- What teardown reads of an instance: its phase, the container it was mounted into, the host
nodes it appended there and its subscriptions. -/
structure Footprint where
  phase : Phase
  container : Option Nat
  roots : List Nat
  subscriptions : List Nat

namespace Footprint

/-- The footprint an unmount leaves. -/
def cleared : Footprint := ⟨.unmounted, none, [], []⟩

/-- The nodes and subscriptions of a footprint were numbered after `base`; a root may also be
the placeholder `0` that stands for a missing handle. -/
def FreshAfter (base : Nat) (fp : Footprint) : Prop :=
  (∀ r ∈ fp.roots, r = 0 ∨ base < r) ∧ ∀ x ∈ fp.subscriptions, base < x

theorem FreshAfter.mono {base base' : Nat} {fp : Footprint} (h : fp.FreshAfter base')
    (hle : base ≤ base') : fp.FreshAfter base :=
  ⟨fun r hr => (h.1 r hr).imp_right fun hlt => Nat.lt_of_le_of_lt hle hlt,
    fun x hx => Nat.lt_of_le_of_lt hle (h.2 x hx)⟩

/-- The roots that footprints appended to node `y`, in order. -/
def rootsIn (y : Nat) (fps : List Footprint) : List Nat :=
  fps.flatMap fun fp => if fp.container = some y then fp.roots else []

/-- The subscriptions of footprints, in order. -/
def subscriptionsOf (fps : List Footprint) : List Nat := fps.flatMap (·.subscriptions)

@[simp]
theorem rootsIn_append (y : Nat) (fps fps' : List Footprint) :
    rootsIn y (fps ++ fps') = rootsIn y fps ++ rootsIn y fps' := List.flatMap_append

@[simp]
theorem rootsIn_cons (y : Nat) (fp : Footprint) (fps : List Footprint) :
    rootsIn y (fp :: fps) = (if fp.container = some y then fp.roots else []) ++ rootsIn y fps :=
  List.flatMap_cons

@[simp]
theorem rootsIn_nil (y : Nat) : rootsIn y [] = [] := rfl

@[simp]
theorem subscriptionsOf_append (fps fps' : List Footprint) :
    subscriptionsOf (fps ++ fps') = subscriptionsOf fps ++ subscriptionsOf fps' :=
  List.flatMap_append

@[simp]
theorem subscriptionsOf_cons (fp : Footprint) (fps : List Footprint) :
    subscriptionsOf (fp :: fps) = fp.subscriptions ++ subscriptionsOf fps := List.flatMap_cons

@[simp]
theorem subscriptionsOf_nil : subscriptionsOf [] = [] := rfl

end Footprint

/-- What teardown reads of an instance. -/
def InstanceState.footprint (s : InstanceState) : Footprint :=
  ⟨s.phase, s.container, s.roots, s.subscriptions⟩

/-- The footprints of an instance tree, arranged as the tree. -/
inductive Outline where
  | node (fp : Footprint) (children : List Outline)

namespace Outline

mutual
/-- The footprints of a tree, the root first, then each nested tree in order. -/
def footprints : Outline → List Footprint
  | .node fp gs => fp :: footprintsOf gs

/-- The footprints of trees, one tree after the other. -/
def footprintsOf : List Outline → List Footprint
  | [] => []
  | g :: gs => g.footprints ++ footprintsOf gs
end

mutual
/-- Whether no mounted instance lies under an instance that is not mounted. -/
def Closed : Outline → Prop
  | .node fp gs => (fp.phase ≠ .mounted → ∀ f ∈ footprintsOf gs, f.phase ≠ .mounted) ∧ ClosedAll gs

/-- Whether each of the trees is closed. -/
def ClosedAll : List Outline → Prop
  | [] => True
  | g :: gs => g.Closed ∧ ClosedAll gs
end

theorem footprintsOf_eq_flatMap : ∀ gs : List Outline, footprintsOf gs = gs.flatMap footprints
  | [] => rfl
  | g :: gs => by rw [footprintsOf, footprintsOf_eq_flatMap gs, List.flatMap_cons]

theorem closedAll_iff : ∀ gs : List Outline, ClosedAll gs ↔ ∀ g ∈ gs, g.Closed
  | [] => by simp [ClosedAll]
  | g :: gs => by simp [ClosedAll, closedAll_iff gs]

/-- A tree in which no instance is mounted is closed. -/
theorem closed_of_unmounted : ∀ t : Outline, (∀ f ∈ t.footprints, f.phase ≠ .mounted) → t.Closed
  | .node fp gs, h => by
    rw [footprints] at h
    refine ⟨fun _ f hf => h f (List.mem_cons_of_mem _ hf), (closedAll_iff gs).mpr fun g hg => ?_⟩
    refine closed_of_unmounted g fun f hf => h f (List.mem_cons_of_mem _ ?_)
    rw [footprintsOf_eq_flatMap]
    exact List.mem_flatMap.mpr ⟨g, hg, hf⟩

/-- A tree in which every instance is mounted is closed. -/
theorem closed_of_mounted : ∀ t : Outline, (∀ f ∈ t.footprints, f.phase = .mounted) → t.Closed
  | .node fp gs, h => by
    rw [footprints] at h
    refine ⟨fun hfp => absurd (h fp List.mem_cons_self) hfp,
      (closedAll_iff gs).mpr fun g hg => closed_of_mounted g fun f hf => h f ?_⟩
    refine List.mem_cons_of_mem _ ?_
    rw [footprintsOf_eq_flatMap]
    exact List.mem_flatMap.mpr ⟨g, hg, hf⟩

end Outline

mutual
/-- The outline of an instance tree. -/
def Instance.outline : Instance → Outline
  | .node s gs => .node s.footprint (Instance.outlines gs)

/-- The outlines of instance trees. -/
def Instance.outlines : List Instance → List Outline
  | [] => []
  | g :: gs => g.outline :: Instance.outlines gs
end

theorem Instance.outlines_eq_map : ∀ gs : List Instance, Instance.outlines gs = gs.map Instance.outline
  | [] => rfl
  | g :: gs => by rw [Instance.outlines, Instance.outlines_eq_map gs, List.map_cons]

/-- The footprints of an instance tree: its own, then those of each nested tree in order. -/
theorem Instance.footprints_node (s : InstanceState) (gs : List Instance) :
    (Instance.node s gs).outline.footprints = s.footprint :: gs.flatMap (·.outline.footprints) := by
  rw [Instance.outline, Outline.footprints, Outline.footprintsOf_eq_flatMap,
    Instance.outlines_eq_map, List.flatMap_map]

/-! ## Operations on a nested instance -/

/-- The tree with the instance at a path replaced; a path that leads nowhere changes nothing. -/
def Instance.setAt : Instance → List Nat → Instance → Instance
  | _, [], g' => g'
  | .node s cs, k :: ks, g' =>
    match cs[k]? with
    | some c => .node s (cs.set k (c.setAt ks g'))
    | none => .node s cs

/-- Running an operation at a path runs it on the instance there and puts back what it leaves. -/
theorem runAtPath_eq {α : Type} (a : Act α) : ∀ (path : List Nat) (root : Instance) (scene : Scene),
    runAtPath a path root scene = (root.at? path).map fun g =>
      ((Act.runOn a g scene).1, root.setAt path (Act.runOn a g scene).2.1,
        (Act.runOn a g scene).2.2)
  | [], root, scene => rfl
  | k :: ks, .node s cs, scene => by
    simp only [runAtPath, Instance.at?, Instance.children, Instance.setAt]
    cases cs[k]? with
    | none => rfl
    | some c =>
      simp only [runAtPath_eq a ks c scene, Option.map_map]
      rfl

/-- Setting an element of a list to the one it holds keeps the list. -/
theorem set_self_of_getElem? {α : Type} {l : List α} {i : Nat} {a : α} (h : l[i]? = some a) :
    l.set i a = l := by
  obtain ⟨hlt, rfl⟩ := List.getElem?_eq_some_iff.mp h
  exact List.set_getElem_self hlt

/-- Replacing the instance at a path replaces its footprints in the list of the tree's. -/
theorem Instance.footprints_setAt : ∀ (path : List Nat) (root g : Instance), root.at? path = some g →
    ∃ A B, root.outline.footprints = A ++ g.outline.footprints ++ B ∧
      ∀ g', (root.setAt path g').outline.footprints = A ++ g'.outline.footprints ++ B
  | [], root, g, h => by
    cases h
    exact ⟨[], [], by simp, fun g' => by simp [Instance.setAt]⟩
  | k :: ks, .node s cs, g, h => by
    simp only [Instance.at?, Instance.children] at h
    cases hk : cs[k]? with
    | none => rw [hk] at h; cases h
    | some c =>
      rw [hk] at h
      obtain ⟨A, B, hc, hset⟩ := Instance.footprints_setAt ks c g h
      have hlt : k < cs.length := (List.getElem?_eq_some_iff.mp hk).1
      -- the trees before and after index `k` keep their footprints
      have hsplit : ∀ x : Instance, (cs.set k x).flatMap (·.outline.footprints) =
          (cs.take k).flatMap (·.outline.footprints) ++ x.outline.footprints ++
            (cs.drop (k + 1)).flatMap (·.outline.footprints) := by
        intro x
        rw [List.set_eq_take_append_cons_drop, if_pos hlt]
        simp
      have hfull := hsplit c
      rw [set_self_of_getElem? hk] at hfull
      refine ⟨s.footprint :: ((cs.take k).flatMap (·.outline.footprints) ++ A),
        B ++ (cs.drop (k + 1)).flatMap (·.outline.footprints), ?_, fun g' => ?_⟩
      · rw [Instance.footprints_node, hfull, hc]
        simp
      · simp only [Instance.setAt, hk]
        rw [Instance.footprints_node, hsplit, hset]
        simp

/-- Replacing the instance at a path by one of the same outline keeps the tree's outline. -/
theorem Instance.outline_setAt : ∀ (path : List Nat) (root g g' : Instance), root.at? path = some g →
    g'.outline = g.outline → (root.setAt path g').outline = root.outline
  | [], root, g, g', h, hg => by
    cases h
    exact hg
  | k :: ks, .node s cs, g, g', h, hg => by
    simp only [Instance.at?, Instance.children] at h
    cases hk : cs[k]? with
    | none => rw [hk] at h; cases h
    | some c =>
      rw [hk] at h
      have hc := Instance.outline_setAt ks c g g' h hg
      have hmap : (cs.map Instance.outline)[k]? = some c.outline := by simp [hk]
      simp only [Instance.setAt, hk, Instance.outline, Instance.outlines_eq_map, List.map_set, hc,
        set_self_of_getElem? hmap]


/-- The instance at a path has its footprint among the tree's. -/
theorem Instance.mem_footprints_of_at {path : List Nat} {root g : Instance}
    (h : root.at? path = some g) : g.state.footprint ∈ root.outline.footprints := by
  obtain ⟨A, B, hfp, -⟩ := Instance.footprints_setAt path root g h
  obtain ⟨st, gs⟩ := g
  rw [hfp, Instance.footprints_node]
  simp [Instance.state]

/-- The instance at a path of a closed tree is closed. -/
theorem Instance.closed_of_at : ∀ (path : List Nat) (root g : Instance), root.at? path = some g →
    root.outline.Closed → g.outline.Closed
  | [], _, _, h, hc => by cases h; exact hc
  | k :: ks, .node s cs, g, h, hc => by
    simp only [Instance.at?, Instance.children] at h
    cases hk : cs[k]? with
    | none => rw [hk] at h; cases h
    | some c =>
      rw [hk] at h
      simp only [Instance.outline, Outline.Closed, Outline.closedAll_iff,
        Instance.outlines_eq_map] at hc
      exact Instance.closed_of_at ks c g h (hc.2 _ (List.mem_map_of_mem (List.mem_of_getElem? hk)))

/-- Replacing a mounted instance of a closed tree by a closed tree keeps it closed: every instance
above a mounted one is mounted, so the replacement lies under no unmounted instance. -/
theorem Instance.closed_setAt : ∀ (path : List Nat) (root g g' : Instance), root.at? path = some g →
    g.state.phase = .mounted → root.outline.Closed → g'.outline.Closed →
      (root.setAt path g').outline.Closed
  | [], _, _, _, _, _, _, hg' => hg'
  | k :: ks, .node s cs, g, g', h, hmounted, hclosed, hg' => by
    simp only [Instance.at?, Instance.children] at h
    cases hk : cs[k]? with
    | none => rw [hk] at h; cases h
    | some c =>
      rw [hk] at h
      simp only [Instance.outline, Outline.Closed, Outline.closedAll_iff] at hclosed
      simp only [Instance.setAt, hk, Instance.outline, Outline.Closed, Outline.closedAll_iff]
      refine ⟨fun hs => ?_, fun t ht => ?_⟩
      · -- the mounted instance lies under this one, which is therefore mounted
        have hunder : g.state.footprint ∈ Outline.footprintsOf (Instance.outlines cs) := by
          rw [Outline.footprintsOf_eq_flatMap, Instance.outlines_eq_map, List.flatMap_map]
          exact List.mem_flatMap.mpr ⟨c, List.mem_of_getElem? hk, Instance.mem_footprints_of_at h⟩
        exact absurd hmounted (hclosed.1 hs _ hunder)
      · rw [Instance.outlines_eq_map] at ht hclosed
        rcases List.mem_map.mp ht with ⟨x, hx, rfl⟩
        rcases List.mem_or_eq_of_mem_set hx with hx | rfl
        · exact hclosed.2 _ (List.mem_map_of_mem hx)
        · exact Instance.closed_setAt ks c g g' h hmounted
            (hclosed.2 _ (List.mem_map_of_mem (List.mem_of_getElem? hk))) hg'

end Reactive
