import Reactive.Component.Plan
import Reactive.Proofs.StateRun

/-!
# Where a plan's nested instances come from

The plan of a component is built by a walk over its template. This file proves what the walk
keeps of the builder (`Builder.FromTemplate`): every nested instance of the plan is an instance
of the template, naming the same component and passing the same props in the same order, each
with its name and its kind (callback or value); and every placement points at a node or instance
that exists. `planComponent_children` states the result for a compiled plan, together with the
name, props and callbacks it copies from the component.
-/

namespace Reactive.Component

/-! ## Lists related pointwise -/

section
variable {α β : Type} {R : α → β → Prop}

/-- Each element on the left of a pointwise relation is related to one on the right. -/
theorem exists_rel_of_mem_left :
    ∀ {l₁ : List α} {l₂ : List β}, List.Forall₂ R l₁ l₂ → ∀ {a}, a ∈ l₁ → ∃ b ∈ l₂, R a b
  | _, _, .nil, _, ha => absurd ha List.not_mem_nil
  | _, b :: _, .cons hab hrest, _, ha => by
    rcases List.mem_cons.mp ha with rfl | ha
    · exact ⟨b, List.mem_cons_self, hab⟩
    · obtain ⟨b', hb', h⟩ := exists_rel_of_mem_left hrest ha
      exact ⟨b', List.mem_cons_of_mem _ hb', h⟩

/-- Each element on the right of a pointwise relation is related to one on the left. -/
theorem exists_rel_of_mem_right {l₁ : List α} {l₂ : List β} (h : List.Forall₂ R l₁ l₂) {b : β}
    (hb : b ∈ l₂) : ∃ a ∈ l₁, R a b :=
  exists_rel_of_mem_left (List.Forall₂.flip (R := flip R) h) hb

end

/-! ## Instances of a template -/

mutual
/-- The components the instances of nodes name are the nested components of the nodes. -/
theorem instancesInNodes_map_fst :
    ∀ nodes : List TemplateNode, (instancesInNodes nodes).map Prod.fst = nestedInNodes nodes
  | [] => rfl
  | n :: rest => by
    rw [instancesInNodes, nestedInNodes, List.map_append, instancesInNode_map_fst n,
      instancesInNodes_map_fst rest]

/-- The components the instances of a node name are the nested components of the node. -/
theorem instancesInNode_map_fst :
    ∀ n : TemplateNode, (instancesInNode n).map Prod.fst = nestedInNode n
  | .element _ _ _ children => by
    rw [instancesInNode, nestedInNode]
    exact instancesInNodes_map_fst children
  | .text _ => rfl
  | .expression _ => rfl
  | .component _ _ => rfl
end

/-- Whether a prop passes a callback. -/
def PropSource.isCallback : PropSource → Bool
  | .callback _ => true
  | _ => false

/-- Whether a prop of a nested instance passes a callback. -/
def ChildPropValue.isCallback : ChildPropValue → Bool
  | .callback _ => true
  | .expression .. => false

/-- A prop of a nested instance made from a prop of the template: the same name and kind. -/
def PropFrom (cp : ChildProp) (pb : PropBinding) : Prop :=
  cp.name = pb.name ∧ cp.value.isCallback = pb.value.isCallback

/-- A placement that points at one of `n` nodes or `k` nested instances. -/
def Placement.Within (n k : Nat) : Placement → Prop
  | .node i => i < n
  | .child i => i < k

theorem Placement.Within.mono {n k n' k' : Nat} {pl : Placement} (h : pl.Within n k)
    (hn : n ≤ n') (hk : k ≤ k') : pl.Within n' k' := by
  cases pl with
  | node i => exact Nat.lt_of_lt_of_le h hn
  | child i => exact Nat.lt_of_lt_of_le h hk

/-- What the template walk keeps of its builder, given the instances of the template: each nested
instance built so far is one of them, with its props made in order from theirs, and each
placement points at a node or instance that exists. -/
structure Builder.FromTemplate (insts : List (String × List PropBinding)) (b : Builder) : Prop where
  children : ∀ ch ∈ b.children.toList, ∃ props, (ch.component, props) ∈ insts ∧
    List.Forall₂ PropFrom ch.props props
  placements : ∀ pl ∈ b.placements.toList, pl.Within b.nodes.size b.children.size

namespace Builder.FromTemplate

variable {insts : List (String × List PropBinding)}

/-- A builder change that keeps nodes, nested instances and placements keeps what the walk
keeps. -/
theorem of_shape {b b' : Builder} (h : b.FromTemplate insts) (hn : b'.nodes = b.nodes)
    (hc : b'.children = b.children) (hp : b'.placements = b.placements) : b'.FromTemplate insts := by
  refine ⟨fun ch hch => ?_, fun pl hpl => ?_⟩
  · rw [hc] at hch
    exact h.children ch hch
  · rw [hp] at hpl
    rw [hn, hc]
    exact h.placements pl hpl

/-- Adding a node and its placement. -/
theorem pushNode {b : Builder} (h : b.FromTemplate insts) (n : NodePlan) :
    ({ b with nodes := b.nodes.push n, placements := b.placements.push (.node b.nodes.size) } :
      Builder).FromTemplate insts := by
  refine ⟨h.children, fun pl hpl => ?_⟩
  simp only [Array.toList_push, List.mem_append, List.mem_singleton] at hpl
  simp only [Array.size_push]
  rcases hpl with hpl | rfl
  · exact (h.placements pl hpl).mono (Nat.le_succ _) (Nat.le_refl _)
  · exact Nat.lt_succ_self _

/-- Adding a nested instance made from an instance of the template, and its placement. -/
theorem pushChild {b : Builder} (h : b.FromTemplate insts) {var name : String}
    {parent : Option Nat} {out : List ChildProp} {props : List PropBinding}
    (hinst : (name, props) ∈ insts) (hout : List.Forall₂ PropFrom out props) :
    ({ b with children := b.children.push ⟨var, name, parent, out⟩,
               placements := b.placements.push (.child b.children.size) } : Builder).FromTemplate
      insts := by
  refine ⟨fun ch hch => ?_, fun pl hpl => ?_⟩
  · simp only [Array.toList_push, List.mem_append, List.mem_singleton] at hch
    rcases hch with hch | rfl
    · exact h.children ch hch
    · exact ⟨props, hinst, hout⟩
  · simp only [Array.toList_push, List.mem_append, List.mem_singleton] at hpl
    simp only [Array.size_push]
    rcases hpl with hpl | rfl
    · exact (h.placements pl hpl).mono (Nat.le_refl _) (Nat.le_succ _)
    · exact Nat.lt_succ_self _

end Builder.FromTemplate

/-! ## The steps of the walk -/

section
variable {insts : List (String × List PropBinding)}

/-- A check lifted into the walk changes nothing. -/
theorem liftCheck_spec {α : Type} (x : Except CompileError α) {P : Builder → Prop} :
    Spec P (liftCheck x) (fun _ => P) (fun _ => True) := by
  intro s hs
  cases x with
  | ok a => exact hs
  | error e => trivial

theorem nextVar_spec (stem : String) :
    Spec (Builder.FromTemplate insts) (nextVar stem) (fun _ => Builder.FromTemplate insts)
      (fun _ => True) := by
  unfold nextVar
  refine Spec.bind Spec.get fun b => Spec.bind (Spec.set _) fun _ => Spec.pure _ ?_
  rintro s ⟨rfl, s₀, hs₀, rfl⟩
  exact hs₀.of_shape rfl rfl rfl

theorem pushNode_spec (var : String) (kind : NodeKind) :
    Spec (Builder.FromTemplate insts) (pushNode var kind) (fun _ => Builder.FromTemplate insts)
      (fun _ => True) := by
  unfold pushNode
  refine Spec.bind Spec.get fun b => Spec.bind (Spec.set _) fun _ => Spec.pure _ ?_
  rintro s ⟨rfl, s₀, hs₀, rfl⟩
  exact hs₀.pushNode _

theorem bindExpr_spec (scope : Scope) (node : Nat) (target : BindingTarget) (code origin : String) :
    Spec (Builder.FromTemplate insts) (bindExpr scope node target code origin)
      (fun _ => Builder.FromTemplate insts) (fun _ => True) := by
  unfold bindExpr
  refine Spec.bind (liftCheck_spec _) fun _ => Spec.bind (liftCheck_spec _) fun _ =>
    Spec.mono (Spec.change _) (fun _ h => h) ?_ (fun _ h => h)
  rintro _ s ⟨s₀, hs₀, rfl⟩
  exact hs₀.of_shape rfl rfl rfl

theorem addElement_spec (scope : Scope) (m : Model) (tag : String) (attrs : List Attribute)
    (events : List EventSource) :
    Spec (Builder.FromTemplate insts) (addElement scope m tag attrs events)
      (fun _ => Builder.FromTemplate insts) (fun _ => True) := by
  unfold addElement
  refine Spec.bind (nextVar_spec _) fun _ => Spec.bind (pushNode_spec _ _) fun _ => ?_
  -- dynamic attributes add bindings, events add subscriptions: neither touches the shape
  refine Spec.bind (Spec.forIn_yield (fun _ _ => Builder.FromTemplate insts)
    fun _ a _ _ _ => ?_) fun _ => Spec.bind (Spec.forIn_yield (fun _ _ => Builder.FromTemplate insts)
      fun _ e _ _ _ => ?_) fun _ => Spec.pure _ fun _ h => h
  · split
    · exact Spec.bind (bindExpr_spec scope _ _ _ _) fun _ => Spec.pure _ fun _ h => ⟨_, rfl, h⟩
    · exact Spec.pure _ fun _ h => ⟨_, rfl, h⟩
  · refine Spec.bind (liftCheck_spec _) fun _ => Spec.bind (Spec.change _) fun _ =>
      Spec.pure _ ?_
    rintro s ⟨s₀, hs₀, rfl⟩
    exact ⟨_, rfl, hs₀.of_shape rfl rfl rfl⟩

/-- The props of a nested instance are made in order from those of the template instance, each
with its name and kind; the instance is added with its placement. -/
theorem addChild_spec (scope : Scope) (m : Model) {name : String} {props : List PropBinding}
    (hinst : (name, props) ∈ insts) :
    Spec (Builder.FromTemplate insts) (addChild scope m name props)
      (fun _ => Builder.FromTemplate insts) (fun _ => True) := by
  unfold addChild
  refine Spec.bind (nextVar_spec _) fun var => ?_
  refine Spec.bind (Spec.mono (Spec.forIn_yield
    (fun pre (out : Array ChildProp) (b : Builder) =>
      b.FromTemplate insts ∧ List.Forall₂ PropFrom out.toList pre)
    fun pre p post hps out => ?_) (fun b hb => ⟨hb, List.Forall₂.nil⟩) (fun _ _ h => h)
    (fun _ h => h)) fun out => ?_
  · -- each prop keeps its name and kind
    have hpush : ∀ (value : ChildPropValue), value.isCallback = p.value.isCallback →
        Spec (fun (b : Builder) => b.FromTemplate insts ∧ List.Forall₂ PropFrom out.toList pre)
          (pure (ForInStep.yield (out.push { name := p.name, value := value })) : Build _)
          (fun r (s : Builder) => ∃ b', r = .yield b' ∧ s.FromTemplate insts ∧
            List.Forall₂ PropFrom b'.toList (pre ++ [p])) (fun _ => True) := by
      intro value hv
      refine Spec.pure _ fun s hs => ⟨_, rfl, hs.1, ?_⟩
      rw [Array.toList_push]
      exact List.rel_append hs.2 (List.Forall₂.cons ⟨rfl, hv⟩ List.Forall₂.nil)
    simp only
    split
    · rename_i code hval
      simp only [pure_bind]
      refine Spec.bind (liftCheck_spec _) fun _ => Spec.bind (liftCheck_spec _) fun _ =>
        hpush _ (by rw [hval]; rfl)
    · rename_i text hval
      simp only [pure_bind]
      exact hpush _ (by rw [hval]; rfl)
    · rename_i h hval
      simp only [pure_bind]
      exact Spec.bind (liftCheck_spec _) fun _ => hpush _ (by rw [hval]; rfl)
  · refine Spec.mono (Spec.change _) (fun _ h => h) ?_ (fun _ h => h)
    rintro _ s ⟨s₀, ⟨hs₀, hout⟩, rfl⟩
    exact hs₀.pushChild hinst hout

mutual
/-- Walking a node keeps the builder made from the template's instances. -/
theorem walkNode_spec (scope : Scope) (m : Model) : ∀ n : TemplateNode, instancesInNode n ⊆ insts →
    Spec (Builder.FromTemplate insts) (walkNode scope m n) (fun _ => Builder.FromTemplate insts)
      (fun _ => True)
  | .element tag attrs events children, hn => by
    -- an element: its children are walked under it
    rw [walkNode]
    have hchildren : instancesInNodes children ⊆ insts := by
      rw [instancesInNode] at hn
      exact hn
    refine Spec.bind (addElement_spec scope m tag attrs events) fun _ => Spec.bind Spec.get fun _ =>
      Spec.bind (Spec.mono (Spec.change _) (fun _ h => h.1) (fun _ _ h => h) (fun _ h => h))
        fun _ => ?_
    refine Spec.bind (Spec.mono (walkNodes_spec scope m children hchildren) ?_
      (fun _ _ h => h) (fun _ h => h)) fun _ => Spec.mono (Spec.change _) (fun _ h => h) ?_
        (fun _ h => h)
    · rintro s ⟨s₀, hs₀, rfl⟩
      exact hs₀.of_shape rfl rfl rfl
    · rintro _ s ⟨s₀, hs₀, rfl⟩
      exact hs₀.of_shape rfl rfl rfl
  | .component name props, hn => by
    rw [walkNode]
    exact addChild_spec scope m (hn (by simp [instancesInNode]))
  | .text value, _ => by
    rw [walkNode]
    exact Spec.bind (nextVar_spec _) fun _ => Spec.bind (pushNode_spec _ _) fun _ =>
      Spec.pure _ fun _ h => h
  | .expression code, _ => by
    rw [walkNode]
    exact Spec.bind (nextVar_spec _) fun _ => Spec.bind (pushNode_spec _ _) fun _ =>
      bindExpr_spec scope _ _ _ _

/-- The template walk keeps its builder made from the template's instances. -/
theorem walkNodes_spec (scope : Scope) (m : Model) : ∀ nodes : List TemplateNode,
    instancesInNodes nodes ⊆ insts →
      Spec (Builder.FromTemplate insts) (walkNodes scope m nodes)
        (fun _ => Builder.FromTemplate insts) (fun _ => True)
  | [], _ => by
    rw [walkNodes]
    exact Spec.pure _ fun _ h => h
  | n :: rest, hsub => by
    rw [walkNodes, instancesInNodes] at *
    exact Spec.bind (walkNode_spec scope m n (List.Subset.trans (List.subset_append_left _ _) hsub))
      fun _ => walkNodes_spec scope m rest (List.Subset.trans (List.subset_append_right _ _) hsub)
end

end

/-- Marking a prop reactive or not keeps its name and kind. -/
theorem propFrom_reflag {cp : ChildProp} {pb : PropBinding} (h : PropFrom cp pb)
    (reactive : List String → Bool) :
    PropFrom (match cp.value with
      | .expression e deps _ => { cp with value := .expression e deps (reactive deps) }
      | .callback _ => cp) pb := by
  obtain ⟨hname, hkind⟩ := h
  cases hv : cp.value with
  | expression e deps r =>
    refine ⟨hname, ?_⟩
    rw [← hkind, hv]
    rfl
  | callback href => exact ⟨hname, hkind⟩

/-- What a compiled plan is made of: the component's declarations built into a model and
scheduled, its template walked from an empty builder, and the plan assembled from these, with the
reactive flags of the names that can change and each handler followed by one request for what it
mutates. -/
theorem planComponent_ok {c : ComponentSource} {plan : ComponentPlan}
    (h : planComponent c = .ok plan) :
    ∃ m order b, Model.build c (Scope.ofSource c) = .ok m ∧ schedule m = .ok order ∧
      (walkNodes (Scope.ofSource c) m c.nodes).run
        ⟨1, takenNames c, none, #[], #[], #[], #[], #[]⟩ = .ok ((), b) ∧
      plan = {
        name := c.name
        states := m.states.map fun s => ⟨s.name, s.init⟩
        derived := order.filterMap fun i => (m.derived[i]?).map fun d =>
          ({ name := d.name, body := d.body, dependencies := d.dependencies,
             reactive := (volatileNames m).contains d.name } : DerivedStep)
        nodes := b.nodes.toList
        bindings := b.bindings.toList.map fun bp =>
          { bp with reactive := bp.dependencies.any (volatileNames m).contains }
        events := b.events.toList
        handlers := m.handlers.map fun h =>
          ({ name := h.name,
             body := if h.mutates.isEmpty then h.body else h.body ++ [.requestUpdate h.mutates],
             mutates := h.mutates } : HandlerPlan)
        children := b.children.toList.map fun ch =>
          { ch with props := ch.props.map fun p =>
              match p.value with
              | .expression e deps _ =>
                { p with value := .expression e deps (deps.any (volatileNames m).contains) }
              | .callback _ => p }
        placements := b.placements.toList
        props := c.props
        callbacks := c.callbacks } := by
  unfold planComponent at h
  simp only [bind, Except.bind] at h
  split at h
  · cases h
  split at h
  · cases h
  rename_i m hm
  split at h
  · cases h
  rename_i order horder
  split at h
  · cases h
  rename_i hwalk
  cases h
  exact ⟨m, order, _, hm, horder, hwalk, rfl⟩

/-- A compile that succeeds gives a plan. -/
theorem exists_planComponent_eq_ok (c : ComponentSource) (h : (planComponent c).isOk = true) :
    ∃ plan, planComponent c = .ok plan := by
  cases hc : planComponent c with
  | error e =>
    rw [hc] at h
    exact absurd h Bool.false_ne_true
  | ok plan => exact ⟨plan, rfl⟩

/-- A component compiles only once its description passes the structural checks. -/
theorem planComponent_validate {c : ComponentSource} {plan : ComponentPlan}
    (h : planComponent c = .ok plan) : validate c = .ok () := by
  unfold planComponent at h
  simp only [bind, Except.bind] at h
  split at h
  · cases h
  · assumption

/-- A compiled plan keeps the component's name, props and callbacks; each of its nested
instances is an instance of the template, naming the same component and passing the same props
in order, each with its name and kind; each placement points at a node or instance of the plan. -/
theorem planComponent_children {c : ComponentSource} {plan : ComponentPlan}
    (h : planComponent c = .ok plan) :
    plan.name = c.name ∧ plan.props = c.props ∧ plan.callbacks = c.callbacks ∧
      (∀ ch ∈ plan.children, ∃ props, (ch.component, props) ∈ instancesInNodes c.nodes ∧
        List.Forall₂ PropFrom ch.props props) ∧
      ∀ pl ∈ plan.placements, pl.Within plan.nodes.length plan.children.length := by
  obtain ⟨m, order, b, -, -, hwalk, rfl⟩ := planComponent_ok h
  -- the walk starts from an empty builder and keeps it made from the template
  have hstart : Builder.FromTemplate (instancesInNodes c.nodes)
      ⟨1, takenNames c, none, #[], #[], #[], #[], #[]⟩ :=
    ⟨fun _ h => absurd h List.not_mem_nil, fun _ h => absurd h List.not_mem_nil⟩
  have hb := (walkNodes_spec _ _ c.nodes (List.Subset.refl _)).of_ok hstart hwalk
  refine ⟨rfl, rfl, rfl, fun ch hch => ?_, fun pl hpl => ?_⟩
  · obtain ⟨ch₀, hch₀, rfl⟩ := List.mem_map.mp hch
    obtain ⟨props, hinst, hprops⟩ := hb.children ch₀ hch₀
    refine ⟨props, hinst, ?_⟩
    rw [List.forall₂_map_left_iff]
    exact hprops.imp fun cp pb hcp => propFrom_reflag hcp _
  · simpa using hb.placements pl hpl

end Reactive.Component
