import Reactive.Proofs.Scope.Dependencies
import Reactive.Proofs.Eval.Handlers
import Reactive.Proofs.Compose.Layout

/-!
# Compiled plans are coherent

`ComponentPlan.Coherent` is what the runtime's passes and handlers need of a plan to keep every
instance agreeing with a full render. This file proves it of every plan the compiler produces,
given two things the compiler leaves to the author:

* `ComponentSource.AnnotationsCover`: a derived declaration with a written dependency list lists
  in it every state and derived name its body reads. Without a written list the compiler resolves
  the dependencies from the body, and they cover it.
* no two bindings of a plan write one target of one node.

The proof follows the compiler. Scheduling puts the dependencies of every derived step before it
(`readsEarlier_of_depsBefore`). Resolving an expression lists every state and derived name it
reads (`Scope.mem_dependencies`), so an expression reads within its dependencies
(`ReadsWithin.of_freeNames`). The template walk resolves the dependencies of each binding from its
expression (`walkNodes_resolved`) and binds only nodes of the plan (`planComponent_wellFormed`). A
handler passes its check only when it assigns states (`checkStmts_assigned`), and its one request
at the end lists every name it assigns (`planComponent_handlersRequest`).
-/

namespace Reactive

open Component Script

/-- An expression whose free names among `names` are dependencies reads within them. -/
theorem ReadsWithin.of_freeNames {names deps : List String} {e : Expr}
    (h : ∀ n ∈ names, n ∈ e.freeNames → n ∈ deps) : ReadsWithin names e deps := by
  intro vs n v hn hd
  -- the two stores differ only at `n`, a name the expression does not read
  refine Eval.evalExpr_congr (vs.set n v) vs e [] [] [] (fun _ h => absurd h List.not_mem_nil)
    fun m hm => ?_
  rw [Store.get?_set]
  split
  · rename_i hmn
    subst hmn
    exact absurd (h m hn hm) hd
  · rfl

namespace Component

/-! ## Names a component declares -/

/-- Every derived declaration with a written dependency list lists in it every state and derived
name its body reads. -/
def ComponentSource.AnnotationsCover (c : ComponentSource) : Prop :=
  ∀ d ∈ c.derived, ∀ written, d.dependencies = some written →
    ∀ body origin, compileExpr d.body origin = .ok body →
      ∀ n ∈ body.freeNames, n ∈ c.states.map (·.name) ++ c.derived.map (·.name) → n ∈ written

/-- In a component that declares each name once, every state and derived name is reactive. -/
theorem Scope.isReactive_ofSource {c : ComponentSource} (hnd : c.declared.Nodup) {n : String}
    (hn : n ∈ c.states.map (·.name) ++ c.derived.map (·.name)) :
    (Scope.ofSource c).isReactive n = true := by
  -- a value is neither a handler nor a callback, so the scope's entry for it is a value's
  have hvalue : n ∉ c.handlers.map (·.name) ++ c.callbacks := fun hhc => by
    unfold ComponentSource.declared at hnd
    rw [List.append_assoc] at hnd
    exact (List.nodup_append.mp hnd).2.2 n hn n hhc rfl
  have hentry : ∃ k, (n, k) ∈ (Scope.ofSource c).names := by
    rcases List.mem_append.mp hn with hs | hds
    · obtain ⟨st, hst, rfl⟩ := List.mem_map.mp hs
      exact ⟨.state, by
        simp only [Scope.ofSource, List.mem_append, List.mem_map]; exact .inr ⟨st, hst, rfl⟩⟩
    · obtain ⟨d, hd, rfl⟩ := List.mem_map.mp hds
      exact ⟨.derived, by
        simp only [Scope.ofSource, List.mem_append, List.mem_map]; exact .inl (.inr ⟨d, hd, rfl⟩)⟩
  obtain ⟨k, hk⟩ := hentry
  have hsome : ((Scope.ofSource c).names.find? (·.1 == n)).isSome :=
    List.find?_isSome.mpr ⟨(n, k), hk, by simp⟩
  obtain ⟨⟨x, k'⟩, hf⟩ := Option.isSome_iff_exists.mp hsome
  have hx : x = n := by simpa using List.find?_some hf
  subst hx
  have hmem := List.mem_of_find?_eq_some hf
  have hreactive : k'.isReactive = true := by
    simp only [Scope.ofSource, List.mem_append, List.mem_map, Prod.mk.injEq] at hmem
    rcases hmem with ((⟨cb, hcb, rfl, rfl⟩ | ⟨hd, hhd, rfl, rfl⟩) | ⟨-, -, -, rfl⟩) | ⟨-, -, -, rfl⟩
    · exact absurd (List.mem_append_right _ hcb) hvalue
    · exact absurd (List.mem_append_left _ (List.mem_map_of_mem hhd)) hvalue
    · rfl
    · rfl
  simp [Scope.isReactive, Scope.classify, hf, hreactive]

/-- A name the scope of a component classifies as a state is one of its states. -/
theorem Scope.mem_states_of_classify {c : ComponentSource} {n : String}
    (h : (Scope.ofSource c).classify n = some .state) : n ∈ c.states.map (·.name) := by
  unfold Scope.classify at h
  split at h
  · rename_i x k hfind
    cases h
    have hmem := List.mem_of_find?_eq_some hfind
    have hname : x = n := by simpa using List.find?_some hfind
    subst hname
    simpa [Scope.ofSource] using hmem
  · split at h <;> cases h

/-- Dependencies resolved from an expression list every reactive name it reads. -/
theorem Scope.mem_dependencies {s : Scope} {e : Expr} {declaration : String}
    {deps : List String} (h : s.dependencies e declaration = .ok deps) {n : String}
    (hn : n ∈ e.freeNames) (hr : s.isReactive n = true) : n ∈ deps := by
  obtain ⟨-, -, rfl⟩ := (Scope.dependencies_eq_ok_iff s _ _ _).mp h
  rw [freeNames_eq_eraseDups] at hn
  exact List.mem_eraseDups.mpr (List.mem_filter.mpr ⟨List.mem_eraseDups.mp hn, hr⟩)

/-- A checked dependency list holds what it started with and every name written in it. -/
theorem Scope.mem_annotated (s : Scope) (declaration : String) :
    ∀ (ns acc out : List String), s.annotated declaration ns acc = .ok out →
      ∀ n, n ∈ acc ∨ n ∈ ns → n ∈ out
  | [], acc, out, h, n, hn => by
    simp only [Scope.annotated, pure, Except.pure, Except.ok.injEq] at h
    subst h
    exact hn.resolve_right List.not_mem_nil
  | m :: rest, acc, out, h, n, hn => by
    unfold Scope.annotated at h
    split at h
    · refine mem_annotated s declaration rest _ out h n ?_
      rcases hn with hn | hn
      · exact .inl (mem_addName.mpr (.inl hn))
      · rcases List.mem_cons.mp hn with rfl | hn
        · exact .inl (mem_addName.mpr (.inr rfl))
        · exact .inr hn
    · exact absurd h (Scope.throw_ne_ok _ _)

/-- Props pass the check only when each is a state. -/
theorem checkProps_states {c : ComponentSource} :
    ∀ (ps seen : List String), checkProps c ps seen = .ok () → ∀ p ∈ ps, p ∈ c.states.map (·.name)
  | [], _, _ => fun _ h => absurd h List.not_mem_nil
  | p :: rest, seen, h => by
    simp only [checkProps, bind, Except.bind] at h
    split at h
    · cases h
    rename_i hstate
    split at h
    · cases h
    intro q hq
    rcases List.mem_cons.mp hq with rfl | hq
    · -- the check found a state of that name
      have hany : c.states.any (·.name == q) = true := by
        revert hstate
        cases c.states.any (·.name == q) <;> simp
      obtain ⟨st, hst, hname⟩ := List.any_eq_true.mp hany
      exact List.mem_map.mpr ⟨st, hst, beq_iff_eq.mp hname⟩
    · exact checkProps_states rest (p :: seen) h q hq

/-- A validated component exports only states as props. -/
theorem validate_props {c : ComponentSource} (h : validate c = .ok ()) :
    ∀ p ∈ c.props, p ∈ c.states.map (·.name) := by
  unfold validate at h
  simp only [bind, Except.bind] at h
  split at h
  · cases h
  split at h
  · cases h
  split at h
  · cases h
  rename_i hprops
  exact checkProps_states _ _ hprops

/-! ## Derived steps -/

/-- Steps whose dependencies come before them, under distinct names none of which is available at
the start, read only earlier steps. -/
theorem readsEarlier_of_depsBefore : ∀ (steps : List DerivedStep) (available : List String),
    DepsBefore available steps → (∀ e ∈ steps, e.name ∉ available) →
    (steps.map (·.name)).Nodup → ReadsEarlier steps
  | [], _, _, _, _ => ⟨fun _ h => absurd h List.not_mem_nil, .nil⟩
  | d :: rest, available, hdeps, hfresh, hnd => by
    rw [List.map_cons, List.nodup_cons] at hnd
    -- a dependency of the first step is available, so it names no step
    have hfirst : ∀ e ∈ d :: rest, e.name ∉ d.dependencies := fun e he hdep =>
      hfresh e he (hdeps.1 _ hdep)
    have hrest := readsEarlier_of_depsBefore rest (available ++ [d.name]) hdeps.2
      (fun e he hmem => (List.mem_append.mp hmem).elim (hfresh e (List.mem_cons_of_mem _ he))
        fun h => hnd.1 (List.mem_singleton.mp h ▸ List.mem_map_of_mem he)) hnd.2
    refine ⟨fun e he => ?_, List.pairwise_cons.mpr
      ⟨fun e he => hfirst e (List.mem_cons_of_mem _ he), hrest.2⟩⟩
    rcases List.mem_cons.mp he with rfl | he
    · exact hfirst e List.mem_cons_self
    · exact hrest.1 e he

/-- A compiled derived declaration lists every state and derived name its body reads: the body
resolved them, or its written list covers them. -/
theorem buildDerived_covers {c : ComponentSource} (hnd : c.declared.Nodup)
    (hann : c.AnnotationsCover) {d : DerivedSource} (hd : d ∈ c.derived) {e : DerivedDecl}
    (h : buildDerived (Scope.ofSource c) d = .ok e) :
    ∀ n ∈ e.body.freeNames, n ∈ c.states.map (·.name) ++ c.derived.map (·.name) →
      n ∈ e.dependencies := by
  unfold buildDerived at h
  simp only [bind, Except.bind] at h
  split at h
  · cases h
  rename_i body hbody
  split at h
  · cases h
  rename_i inferred hinferred
  intro n hn hdecl
  cases hdeps : d.dependencies with
  | none =>
    simp only [hdeps, pure, Except.pure, Except.ok.injEq] at h
    subst h
    exact Scope.mem_dependencies hinferred hn (Scope.isReactive_ofSource hnd hdecl)
  | some written =>
    simp only [hdeps] at h
    split at h
    · cases h
    rename_i deps hchecked
    simp only [pure, Except.pure, Except.ok.injEq] at h
    subst h
    exact Scope.mem_annotated _ _ written [] deps hchecked n
      (.inr (hann d hd written hdeps body _ hbody n hn hdecl))

/-! ## Bindings of the template walk -/

/-- A binding whose dependencies are those its expression resolves to in a scope. -/
def BindingPlan.Resolved (scope : Scope) (bp : BindingPlan) : Prop :=
  ∃ origin, scope.dependencies bp.expr origin = .ok bp.dependencies

/-- A builder every binding of which is resolved in a scope. -/
def Builder.Resolved (scope : Scope) (b : Builder) : Prop :=
  ∀ bp ∈ b.bindings.toList, bp.Resolved scope

theorem Builder.Resolved.of_bindings {scope : Scope} {b b' : Builder} (h : b.Resolved scope)
    (hb : b'.bindings = b.bindings) : b'.Resolved scope :=
  fun bp hbp => h bp (hb ▸ hbp)

theorem nextVar_resolved (scope : Scope) (stem : String) :
    Spec (Builder.Resolved scope) (nextVar stem) (fun _ => Builder.Resolved scope)
      (fun _ => True) := by
  unfold nextVar
  refine Spec.bind Spec.get fun b => Spec.bind (Spec.set _) fun _ => Spec.pure _ ?_
  rintro s ⟨rfl, s₀, hs₀, rfl⟩
  exact hs₀.of_bindings rfl

theorem pushNode_resolved (scope : Scope) (var : String) (kind : NodeKind) :
    Spec (Builder.Resolved scope) (pushNode var kind) (fun _ => Builder.Resolved scope)
      (fun _ => True) := by
  unfold pushNode
  refine Spec.bind Spec.get fun b => Spec.bind (Spec.set _) fun _ => Spec.pure _ ?_
  rintro s ⟨rfl, s₀, hs₀, rfl⟩
  exact hs₀.of_bindings rfl

/-- A binding the walk adds has the dependencies its expression resolves to. -/
theorem bindExpr_resolved (scope : Scope) (node : Nat) (target : BindingTarget)
    (code origin : String) :
    Spec (Builder.Resolved scope) (bindExpr scope node target code origin)
      (fun _ => Builder.Resolved scope) (fun _ => True) := by
  unfold bindExpr
  refine Spec.bind (liftCheck_spec _) fun _ => Spec.bind (liftCheck_ok _) fun _ =>
    Spec.mono (Spec.change _) (fun _ h => h) ?_ (fun _ h => h)
  rintro _ s ⟨s₀, ⟨hs₀, hdeps⟩, rfl⟩ bp hbp
  rw [Array.toList_push] at hbp
  rcases List.mem_append.mp hbp with hbp | hbp
  · exact hs₀ bp hbp
  · rw [List.mem_singleton.mp hbp]
    exact ⟨origin, hdeps⟩

theorem addElement_resolved (scope : Scope) (m : Model) (tag : String) (attrs : List Attribute)
    (events : List EventSource) :
    Spec (Builder.Resolved scope) (addElement scope m tag attrs events)
      (fun _ => Builder.Resolved scope) (fun _ => True) := by
  unfold addElement
  refine Spec.bind (nextVar_resolved scope _) fun _ => Spec.bind (pushNode_resolved scope _ _)
    fun _ => ?_
  -- dynamic attributes add resolved bindings; events add none
  refine Spec.bind (Spec.forIn_yield (fun _ _ => Builder.Resolved scope) fun _ a _ _ _ => ?_)
    fun _ => Spec.bind (Spec.forIn_yield (fun _ _ => Builder.Resolved scope) fun _ e _ _ _ => ?_)
      fun _ => Spec.pure _ fun _ h => h
  · split
    · exact Spec.bind (bindExpr_resolved scope _ _ _ _) fun _ => Spec.pure _ fun _ h => ⟨_, rfl, h⟩
    · exact Spec.pure _ fun _ h => ⟨_, rfl, h⟩
  · refine Spec.bind (liftCheck_spec _) fun _ => Spec.bind (Spec.change _) fun _ =>
      Spec.pure _ ?_
    rintro s ⟨s₀, hs₀, rfl⟩
    exact ⟨_, rfl, hs₀.of_bindings rfl⟩

theorem addChild_resolved (scope : Scope) (m : Model) (name : String) (props : List PropBinding) :
    Spec (Builder.Resolved scope) (addChild scope m name props)
      (fun _ => Builder.Resolved scope) (fun _ => True) := by
  unfold addChild
  refine Spec.bind (nextVar_resolved scope _) fun _ => ?_
  -- the props are made without touching the builder
  refine Spec.bind (Spec.forIn_yield (fun _ _ => Builder.Resolved scope) fun _ p _ _ _ => ?_)
    fun _ => ?_
  · simp only
    split
    · simp only [pure_bind]
      exact Spec.bind (liftCheck_spec _) fun _ => Spec.bind (liftCheck_spec _) fun _ =>
        Spec.pure _ fun _ h => ⟨_, rfl, h⟩
    · simp only [pure_bind]
      exact Spec.pure _ fun _ h => ⟨_, rfl, h⟩
    · simp only [pure_bind]
      exact Spec.bind (liftCheck_spec _) fun _ => Spec.pure _ fun _ h => ⟨_, rfl, h⟩
  · refine Spec.mono (Spec.change _) (fun _ h => h) ?_ (fun _ h => h)
    rintro _ s ⟨s₀, hs₀, rfl⟩
    exact hs₀.of_bindings rfl

mutual
/-- Walking a node adds only bindings resolved from their expressions. -/
theorem walkNode_resolved (scope : Scope) (m : Model) : ∀ n : TemplateNode,
    Spec (Builder.Resolved scope) (walkNode scope m n) (fun _ => Builder.Resolved scope)
      (fun _ => True)
  | .element tag attrs events children => by
    rw [walkNode]
    refine Spec.bind (addElement_resolved scope m tag attrs events) fun _ =>
      Spec.bind Spec.get fun _ =>
        Spec.bind (Spec.mono (Spec.change _) (fun _ h => h.1) (fun _ _ h => h) (fun _ h => h))
          fun _ => ?_
    refine Spec.bind (Spec.mono (walkNodes_resolved scope m children) ?_
      (fun _ _ h => h) (fun _ h => h)) fun _ => Spec.mono (Spec.change _) (fun _ h => h) ?_
        (fun _ h => h)
    · rintro s ⟨s₀, hs₀, rfl⟩
      exact hs₀.of_bindings rfl
    · rintro _ s ⟨s₀, hs₀, rfl⟩
      exact hs₀.of_bindings rfl
  | .component name props => by
    rw [walkNode]
    exact addChild_resolved scope m name props
  | .text value => by
    rw [walkNode]
    exact Spec.bind (nextVar_resolved scope _) fun _ => Spec.bind (pushNode_resolved scope _ _)
      fun _ => Spec.pure _ fun _ h => h
  | .expression code => by
    rw [walkNode]
    exact Spec.bind (nextVar_resolved scope _) fun _ => Spec.bind (pushNode_resolved scope _ _)
      fun _ => bindExpr_resolved scope _ _ _ _

/-- Walking nodes adds only bindings resolved from their expressions. -/
theorem walkNodes_resolved (scope : Scope) (m : Model) : ∀ nodes : List TemplateNode,
    Spec (Builder.Resolved scope) (walkNodes scope m nodes) (fun _ => Builder.Resolved scope)
      (fun _ => True)
  | [] => by
    rw [walkNodes]
    exact Spec.pure _ fun _ h => h
  | n :: rest => by
    rw [walkNodes]
    exact Spec.bind (walkNode_resolved scope m n) fun _ => walkNodes_resolved scope m rest
end

/-! ## Handlers -/

/-- A name a handler may assign is a state of the scope. -/
theorem Scope.checkAssignable_state {s : Scope} {t handler : String}
    (h : s.checkAssignable t handler = .ok ()) : s.classify t = some .state := by
  unfold Scope.checkAssignable at h
  split at h
  · assumption
  · cases h
  · cases h

/-- A statement that assigns one name passes the check only when that name is a state. -/
theorem Scope.addName_assignable {s : Scope} {t handler : String} {acc : List String}
    (h : s.checkAssignable t handler = .ok ()) :
    ∀ n ∈ addName acc t, n ∈ acc ∨ s.classify n = some .state := fun n hn => by
  rcases mem_addName.mp hn with hn | rfl
  · exact .inl hn
  · exact .inr (Scope.checkAssignable_state h)

-- The names `acc` are those assigned before the statements; each name the statements assign is
-- a state.
mutual
theorem checkStmts_assigned {s : Scope} {handler : String} :
    ∀ (b : List Stmt) (acc : List String), s.checkStmts handler b = .ok () →
      ∀ n ∈ assignedInto acc b, n ∈ acc ∨ s.classify n = some .state
  | [], _, _ => fun _ hn => .inl hn
  | st :: rest, acc, h => by
    simp only [Scope.checkStmts, bind, Except.bind] at h
    split at h
    · cases h
    rename_i hst
    intro n hn
    rcases checkStmts_assigned rest (assignedOne acc st) h n hn with hn | hn
    · exact checkStmt_assigned st acc hst n hn
    · exact .inr hn

theorem checkStmt_assigned {s : Scope} {handler : String} :
    ∀ (st : Stmt) (acc : List String), s.checkStmt handler st = .ok () →
      ∀ n ∈ assignedOne acc st, n ∈ acc ∨ s.classify n = some .state
  | .assign t _ _, _, h => by
    simp only [Scope.checkStmt, bind, Except.bind] at h
    split at h
    · cases h
    exact Scope.addName_assignable h
  | .update t _, _, h => by
    simp only [Scope.checkStmt, bind, Except.bind] at h
    split at h
    · cases h
    exact Scope.addName_assignable h
  | .cond _ a b, acc, h => by
    simp only [Scope.checkStmt, bind, Except.bind] at h
    split at h
    · cases h
    split at h
    · cases h
    rename_i ha
    intro n hn
    rcases checkStmts_assigned b (assignedInto acc a) h n hn with hn | hn
    · exact checkStmts_assigned a acc ha n hn
    · exact .inr hn
  | .requestUpdate _, _, _ => fun _ hn => .inl hn
  | .eval _, _, _ => fun _ hn => .inl hn
end

/-- A built handler assigns only states of its scope. -/
theorem buildHandler_assigns_states {scope : Scope} {h : HandlerSource} {hd : HandlerDecl}
    (hb : buildHandler scope h = .ok hd) :
    ∀ n ∈ assignedInto [] hd.body, scope.classify n = some .state := by
  unfold buildHandler at hb
  simp only [bind, Except.bind] at hb
  split at hb
  · cases hb
  rename_i lowered _
  split at hb
  · cases hb
  rename_i hcheck
  cases hb
  intro n hn
  rw [assignedInto_withoutRequests] at hn
  exact (checkStmts_assigned lowered [] hcheck n hn).resolve_left List.not_mem_nil

/-! ## Compiled plans -/

section
variable {c : ComponentSource} {plan : ComponentPlan}

/-- The names a compiled plan holds: its states are the component's, its props are states of the
component, and its derived steps are declarations of the component. -/
theorem planComponent_names (h : planComponent c = .ok plan) :
    plan.states.map (·.name) = c.states.map (·.name) ∧
      (∀ p ∈ plan.props, p ∈ c.states.map (·.name)) ∧
      ∀ d ∈ plan.derived, d.name ∈ c.derived.map (·.name) := by
  have hprops := validate_props (planComponent_validate h)
  have hderived := (planComponent_derived h).2.2
  obtain ⟨m, order, b, hm, -, -, rfl⟩ := planComponent_ok h
  obtain ⟨hstates, -, -⟩ := build_derived hm
  refine ⟨?_, hprops, fun d hd => ?_⟩
  · rw [List.map_map]
    exact hstates
  · obtain ⟨e, he, hb⟩ := hderived d hd
    rw [show d.name = e.name from (buildDerived_ok hb).1]
    exact List.mem_map_of_mem he

/-- Every name a compiled plan holds a value for is a state or derived name of its component. -/
theorem planComponent_declared (h : planComponent c = .ok plan) :
    ∀ n ∈ plan.declared, n ∈ c.states.map (·.name) ++ c.derived.map (·.name) := by
  obtain ⟨hstates, hprops, hnames⟩ := planComponent_names h
  intro n hn
  unfold ComponentPlan.declared at hn
  rw [hstates] at hn
  rcases List.mem_append.mp hn with hn | hn
  · rcases List.mem_append.mp hn with hn | hn
    · exact List.mem_append_left _ hn
    · obtain ⟨d, hd, rfl⟩ := List.mem_map.mp hn
      exact List.mem_append_right _ (hnames d hd)
  · exact List.mem_append_left _ (hprops n hn)

/-- Every binding of a compiled plan has the dependencies its expression resolves to in the
component's scope. -/
theorem planComponent_bindings_resolved (h : planComponent c = .ok plan) :
    ∀ bp ∈ plan.bindings, bp.Resolved (Scope.ofSource c) := by
  obtain ⟨m, order, b, -, -, hwalk, rfl⟩ := planComponent_ok h
  have hb := (walkNodes_resolved (Scope.ofSource c) m c.nodes).of_ok
    (fun _ h => absurd h List.not_mem_nil) hwalk
  intro bp hbp
  obtain ⟨bp₀, hbp₀, rfl⟩ := List.mem_map.mp hbp
  exact hb bp₀ hbp₀

/-- The handlers of a compiled plan set, one after another, only states, and request each name
they set. -/
theorem planComponent_handlersRequest (h : planComponent c = .ok plan) : plan.HandlersRequest := by
  obtain ⟨hstates, -, -⟩ := planComponent_names h
  intro hp hmem vs
  have hrequested := execAll_handler_requested h hmem vs
  obtain ⟨m, order, b, hm, -, -, rfl⟩ := planComponent_ok h
  obtain ⟨-, -, hhandlers, -⟩ := Model.build_ok hm
  obtain ⟨hd, hhd, rfl⟩ := List.mem_map.mp hmem
  obtain ⟨hs, -, hb⟩ := exists_rel_of_mem_right hhandlers hhd
  obtain ⟨lowered, hbody, hmut⟩ := buildHandler_lowered hb
  -- the run sets, one after another, names the body assigns; the request at its end sets none
  obtain ⟨us, hus, hset⟩ := Eval.execAll_sets hd.body vs [] []
  refine ⟨us, fun u hu => ⟨?_, ?_⟩, (Eval.execAll_request_ite_fst _ _ _ _ _).trans hset⟩
  · rw [hstates]
    exact Scope.mem_states_of_classify (buildHandler_assigns_states hb u.1 (hus u hu))
  · have hassigned := hus u hu
    rw [hbody, assignedInto_withoutRequests] at hassigned
    rw [hrequested, hmut]
    exact mem_addNames.mpr (.inl hassigned)

/-- Every plan the compiler produces is coherent when the written dependency lists of its
component cover what their bodies read and no two of its bindings write one target. -/
theorem planComponent_coherent (h : planComponent c = .ok plan) (hann : c.AnnotationsCover)
    (htargets : (plan.bindings.map fun b => (b.node, b.target)).Nodup) : plan.Coherent := by
  have hnd := validate_declared_nodup (planComponent_validate h)
  obtain ⟨hstates, hprops, hnames⟩ := planComponent_names h
  obtain ⟨hdeps, hdistinct, hbuilt⟩ := planComponent_derived h
  -- no state or prop of the component is a derived name
  have hapart := (declared_nodup_derived hnd).2
  refine ⟨?order, hdistinct, ?inputs, ?derivedReads, ?bindingReads,
    planComponent_handlersRequest h, ?bindingNodes, htargets⟩
  case order =>
    exact readsEarlier_of_depsBefore _ _ hdeps (fun e he hs => hapart _ (hnames e he) hs)
      hdistinct
  case inputs =>
    intro n hn hder
    obtain ⟨d, hd, rfl⟩ := List.mem_map.mp hder
    have hstate : d.name ∈ c.states.map (·.name) := by
      rcases List.mem_append.mp hn with hn | hn
      · rwa [hstates] at hn
      · exact hprops _ hn
    exact hapart _ (hnames d hd) hstate
  case derivedReads =>
    intro d hd
    obtain ⟨e, he, hb⟩ := hbuilt d hd
    exact ReadsWithin.of_freeNames fun n hn hread =>
      buildDerived_covers hnd hann he hb n hread (planComponent_declared h n hn)
  case bindingReads =>
    intro bp hbp
    obtain ⟨origin, hresolved⟩ := planComponent_bindings_resolved h bp hbp
    exact ReadsWithin.of_freeNames fun n hn hread => Scope.mem_dependencies hresolved hread
      (Scope.isReactive_ofSource hnd (planComponent_declared h n hn))
  case bindingNodes =>
    intro bp hbp
    exact writableAt_lt ((planComponent_wellFormed h).bindings bp hbp)

end

/-- Every plan of a compiled program is coherent when the written dependency lists of its
components cover what their bodies read and no plan has two bindings on one target. -/
theorem compiled_coherent {cs : List ComponentSource} {o : CompileOptions}
    {rs : List CompileResult} (h : compileProgram cs o = .ok rs)
    (hann : ∀ c ∈ cs, c.AnnotationsCover)
    (htargets : ∀ p ∈ rs.map (·.plan), (p.bindings.map fun b => (b.node, b.target)).Nodup) :
    ∀ p ∈ rs.map (·.plan), p.Coherent := fun p hp => by
  obtain ⟨c, hc, hplan⟩ := plan_of_compiled h hp
  exact planComponent_coherent hplan (hann c hc) (htargets p hp)

end Component

end Reactive
