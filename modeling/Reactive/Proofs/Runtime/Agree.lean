import Mathlib.Data.List.Nodup
import Reactive.Proofs.Runtime.Exec
import Reactive.Proofs.Runtime.Pass

/-!
# Agreeing with a full render

A full render computes every derived value from its body and writes every binding. After mount
an instance only recomputes and rewrites what its pending names reach, so at best it agrees with
a full render everywhere else. This module says what that means and proves what one pass does
to it:

* `Host.slot`: what a binding target of a host node shows, its text or a named attribute;
* `InstanceState.Fresh`, `InstanceState.Shown`: a derived value equal to its body's value, a
  binding target showing its expression's text;
* `InstanceState.Agrees s h pending`: every binding has its host node, and every derived step and
  every binding with no dependency that a pending name reaches is fresh, or shown;
* `InstanceState.Coherent`: what the plan and the nodes need for passes and handlers to keep
  agreement: derived steps reading only earlier ones, under distinct names that no state or prop
  takes, dependencies covering every declared name an expression reads, handlers that set only
  states they request, and bindings on distinct targets;
* `Instance.Writes`, `Instance.Sound`: the host nodes the bindings of a tree write, and a tree
  whose instances are coherent, agree with the host and write apart from one another.

A pass from the pending names leaves every derived value fresh and every binding it does not
rewrite shown (`Agrees.derivedPass`); rewriting the others then shows all (`shown_writeAll`).
-/

namespace Reactive

open Component

/-! ## Stores and host nodes -/

namespace Store

private theorem find?_replace (n m : String) (v : Value) : ∀ es : List (String × Value),
    ((es.map fun p => if p.1 == n then (n, v) else p).find? (·.1 == m)).map (·.2) =
      if m = n ∧ es.any (·.1 == n) then some v else (es.find? (·.1 == m)).map (·.2)
  | [] => by simp
  | p :: rest => by
    have ih := find?_replace n m v rest
    simp only [List.map_cons, List.find?_cons, List.any_cons]
    by_cases hp : p.1 = n
    · have hpn : (p.1 == n) = true := beq_iff_eq.mpr hp
      by_cases hm : m = n
      · subst hm
        simp [hpn]
      · have hnm : (n == m) = false := beq_eq_false_iff_ne.mpr (Ne.symm hm)
        have hpm : (p.1 == m) = false := beq_eq_false_iff_ne.mpr (hp ▸ Ne.symm hm)
        simp only [hpn, if_true, hnm, hpm, ih, hm, false_and, if_false]
    · have hpn : (p.1 == n) = false := beq_eq_false_iff_ne.mpr hp
      by_cases hpm : p.1 = m
      · have hm : ¬m = n := fun h => hp (hpm.trans h)
        simp [hpm, hm]
      · have hpm' : (p.1 == m) = false := beq_eq_false_iff_ne.mpr hpm
        simp only [hpn, hpm', Bool.false_eq_true, if_false, Bool.false_or, ih]

/-- Binding a name changes the value of that name only. -/
theorem get?_set (s : Store) (n m : String) (v : Value) :
    (s.set n v).get? m = if m = n then some v else s.get? m := by
  obtain ⟨es⟩ := s
  unfold set get? contains
  split
  · rename_i hc
    rw [find?_replace]
    by_cases hm : m = n <;> simp [hm, hc]
  · rename_i hc
    rw [List.find?_append]
    by_cases hm : m = n
    · subst hm
      -- the name was unbound, so the appended entry is the first one found
      have hnone : es.find? (·.1 == m) = none := by
        rw [List.find?_eq_none]
        intro p hp
        simp only [List.any_eq_true, not_exists, not_and] at hc
        exact hc p hp
      simp [hnone]
    · cases h : es.find? (·.1 == m) with
      | some p => simp [hm]
      | none =>
        have hnm : (n == m) = false := beq_eq_false_iff_ne.mpr (Ne.symm hm)
        simp [hm, hnm]

end Store

private theorem lookup_cons_of_ne {α β : Type} [BEq α] [LawfulBEq α] {k a : α} {b : β}
    {l : List (α × β)} (h : a ≠ k) : ((k, b) :: l).lookup a = l.lookup a := by
  rw [List.lookup_cons, beq_eq_false_iff_ne.mpr h]

/-- Sets a value in a sorted attribute list: the value of that name only changes. -/
theorem lookup_setSorted (k v k' : String) : ∀ l : List (String × String),
    (setSorted k v l).lookup k' = if k' = k then some v else l.lookup k'
  | [] => by
    by_cases hk : k' = k
    · subst hk
      simp [setSorted]
    · simp [setSorted, lookup_cons_of_ne hk, List.lookup_nil, hk]
  | (k₀, v₀) :: rest => by
    unfold setSorted
    by_cases hk : k' = k
    · subst hk
      rw [if_pos rfl]
      by_cases hlt : k' < k₀
      · simp [hlt]
      · by_cases heq : k' = k₀
        · simp [heq]
        · rw [if_neg hlt, if_neg heq, lookup_cons_of_ne heq, lookup_setSorted k' v k' rest, if_pos rfl]
    · rw [if_neg hk]
      by_cases hlt : k < k₀
      · rw [if_pos hlt, lookup_cons_of_ne hk]
      · by_cases heq : k = k₀
        · subst heq
          rw [if_neg hlt, if_pos rfl, lookup_cons_of_ne hk, lookup_cons_of_ne hk]
        · rw [if_neg hlt, if_neg heq]
          by_cases hk₀ : k' = k₀
          · subst hk₀
            simp
          · rw [lookup_cons_of_ne hk₀, lookup_cons_of_ne hk₀, lookup_setSorted k v k' rest, if_neg hk]

namespace Host

private theorem lookup_updateAt (id : Nat) (f : HostNode → HostNode) (id' : Nat) :
    ∀ l : List (Nat × HostNode),
      (l.map fun p => if p.1 == id then (p.1, f p.2) else p).lookup id' =
        if id' = id then (l.lookup id').map f else l.lookup id'
  | [] => by by_cases h : id' = id <;> simp [List.lookup_nil, h]
  | (k, n) :: rest => by
    have ih := lookup_updateAt id f id' rest
    rw [List.map_cons]
    by_cases hk : k = id
    · subst hk
      rw [if_pos (beq_self_eq_true k)]
      by_cases h : id' = k
      · subst h
        simp
      · rw [lookup_cons_of_ne h, ih, if_neg h, if_neg h, lookup_cons_of_ne h]
    · rw [if_neg (by simpa using hk)]
      by_cases h : id' = k
      · subst h
        rw [if_neg hk]
        simp
      · rw [lookup_cons_of_ne h, ih, lookup_cons_of_ne h]

/-- Changing a node changes what that number looks up only. -/
theorem node?_modifyNode (h : Host) (id : Nat) (f : HostNode → HostNode) (id' : Nat) :
    (h.modifyNode id f).node? id' = if id' = id then (h.node? id').map f else h.node? id' :=
  lookup_updateAt id f id' h.nodes

/-- What a binding target of a host node shows: its text, or the attribute of a name. -/
def slot (h : Host) (id : Nat) : BindingTarget → Option String
  | .text => (h.node? id).map (·.text)
  | .attribute name => (h.node? id).bind (·.attributes.lookup name)

theorem slot_congr {h h' : Host} {id : Nat} (heq : h'.node? id = h.node? id) (t : BindingTarget) :
    h'.slot id t = h.slot id t := by
  cases t <;> simp only [slot, heq]

end Host

/-! ## What a binding write does to the host -/

namespace Act

theorem node?_hostWrite (h : Host) (handle : Nat) (target : BindingTarget) (value : String)
    (id : Nat) : (hostWrite h handle target value).node? id =
      if id = handle then (h.node? id).map (fun n => match target with
        | .text => { n with text := value }
        | .attribute name => { n with attributes := setSorted name value n.attributes })
      else h.node? id := by
  cases target
  · exact Host.node?_modifyNode h handle (fun n => { n with text := value }) id
  · rename_i name
    exact Host.node?_modifyNode h handle
      (fun n => { n with attributes := setSorted name value n.attributes }) id

/-- A binding write changes no other host node. -/
theorem node?_hostWrite_of_ne {h : Host} {handle id : Nat} (hne : id ≠ handle)
    (target : BindingTarget) (value : String) :
    (hostWrite h handle target value).node? id = h.node? id := by
  rw [node?_hostWrite, if_neg hne]

/-- A binding write makes and removes no host node. -/
theorem isSome_node?_hostWrite (h : Host) (handle : Nat) (target : BindingTarget) (value : String)
    (id : Nat) : ((hostWrite h handle target value).node? id).isSome = (h.node? id).isSome := by
  rw [node?_hostWrite]
  split <;> simp

/-- A binding write to an existing node shows its value. -/
theorem slot_hostWrite_self {h : Host} {handle : Nat} (hex : (h.node? handle).isSome = true)
    (target : BindingTarget) (value : String) :
    (hostWrite h handle target value).slot handle target = some value := by
  obtain ⟨n, hn⟩ := Option.isSome_iff_exists.mp hex
  cases target <;> simp [Host.slot, node?_hostWrite, hn, lookup_setSorted]

/-- A binding write leaves every other target as it was. -/
theorem slot_hostWrite_of_ne {h : Host} {handle id : Nat} {target target' : BindingTarget}
    (hne : (id, target') ≠ (handle, target)) (value : String) :
    (hostWrite h handle target value).slot id target' = h.slot id target' := by
  by_cases hid : id = handle
  · subst hid
    have ht : target' ≠ target := fun h => hne (h ▸ rfl)
    cases hn : h.node? id with
    | none => cases target' <;> simp [Host.slot, node?_hostWrite, hn]
    | some n =>
      -- the same node: the write and the read are on different targets of it
      cases target <;> cases target'
      · exact absurd rfl ht
      · simp [Host.slot, node?_hostWrite, hn]
      · simp [Host.slot, node?_hostWrite, hn]
      · rename_i name name'
        have hname : name' ≠ name := fun h => ht (h ▸ rfl)
        simp [Host.slot, node?_hostWrite, hn, lookup_setSorted, hname]
  · exact Host.slot_congr (node?_hostWrite_of_ne hid target value) target'

/-- The target a binding of an instance writes: the host node of its planned node. -/
def targetOf (s : InstanceState) (b : BindingPlan) : Nat × BindingTarget :=
  (s.nodes.getD b.node 0, b.target)

theorem writeAll_cons (s : InstanceState) (h : Host) (b : BindingPlan) (bs : List BindingPlan) :
    writeAll s h (b :: bs) =
      writeAll s (hostWrite h (s.nodes.getD b.node 0) b.target (Eval.eval s.values b.expr).toText) bs :=
  rfl

/-- Writing bindings changes no host node that none of them writes. -/
theorem node?_writeAll_of_not_mem (s : InstanceState) {id : Nat} :
    ∀ (h : Host) (bs : List BindingPlan), (∀ b ∈ bs, s.nodes.getD b.node 0 ≠ id) →
      (writeAll s h bs).node? id = h.node? id
  | _, [], _ => rfl
  | h, b :: bs, hbs => by
    have ih := node?_writeAll_of_not_mem s (hostWrite h (s.nodes.getD b.node 0) b.target
      (Eval.eval s.values b.expr).toText) bs (fun b' hb' => hbs b' (List.mem_cons_of_mem _ hb'))
    rw [writeAll_cons, ih, node?_hostWrite_of_ne (Ne.symm (hbs b (List.mem_cons_self ..)))]

theorem isSome_node?_writeAll (s : InstanceState) (id : Nat) :
    ∀ (h : Host) (bs : List BindingPlan),
      ((writeAll s h bs).node? id).isSome = (h.node? id).isSome
  | _, [] => rfl
  | h, b :: bs => by
    have ih := isSome_node?_writeAll s id (hostWrite h (s.nodes.getD b.node 0) b.target
      (Eval.eval s.values b.expr).toText) bs
    rw [writeAll_cons, ih, isSome_node?_hostWrite]

/-- Writing bindings leaves every target none of them writes as it was. -/
theorem slot_writeAll_of_not_mem (s : InstanceState) {id : Nat} {t : BindingTarget} :
    ∀ (h : Host) (bs : List BindingPlan), (∀ b ∈ bs, targetOf s b ≠ (id, t)) →
      (writeAll s h bs).slot id t = h.slot id t
  | _, [], _ => rfl
  | h, b :: bs, hbs => by
    have ih := slot_writeAll_of_not_mem s (hostWrite h (s.nodes.getD b.node 0) b.target
      (Eval.eval s.values b.expr).toText) bs (fun b' hb' => hbs b' (List.mem_cons_of_mem _ hb'))
    rw [writeAll_cons, ih, slot_hostWrite_of_ne (Ne.symm (hbs b (List.mem_cons_self ..)))]

/-- Writing bindings on distinct targets of existing nodes: each shows its value. -/
theorem slot_writeAll_of_mem (s : InstanceState) :
    ∀ (h : Host) (bs : List BindingPlan), (bs.map (targetOf s)).Nodup →
      ∀ b ∈ bs, (h.node? (s.nodes.getD b.node 0)).isSome = true →
        (writeAll s h bs).slot (s.nodes.getD b.node 0) b.target =
          some (Eval.eval s.values b.expr).toText
  | _, [], _, _, hb, _ => absurd hb List.not_mem_nil
  | h, b' :: bs, hnd, b, hb, hex => by
    rw [List.map_cons, List.nodup_cons] at hnd
    rw [writeAll_cons]
    rcases List.mem_cons.mp hb with rfl | hb
    · -- the first write shows the value, and no later one writes its target
      have hrest : ∀ b'' ∈ bs, targetOf s b'' ≠ targetOf s b := fun b'' hb'' heq =>
        hnd.1 (heq ▸ List.mem_map_of_mem hb'')
      rw [slot_writeAll_of_not_mem s _ bs hrest, slot_hostWrite_self hex]
    · have hex' : ((hostWrite h (s.nodes.getD b'.node 0) b'.target
          (Eval.eval s.values b'.expr).toText).node? (s.nodes.getD b.node 0)).isSome = true := by
        rw [isSome_node?_hostWrite]
        exact hex
      exact slot_writeAll_of_mem s _ bs hnd.2 b hb hex'

end Act

/-! ## Agreement with a full render -/

/-- Over the names `names`, an expression reads only its dependencies: binding any other of them
leaves its value unchanged. -/
def ReadsWithin (names : List String) (e : Script.Expr) (deps : List String) : Prop :=
  ∀ (vs : Store) (n : String) (v : Value), n ∈ names → n ∉ deps →
    Eval.eval (vs.set n v) e = Eval.eval vs e

/-- A name reads only itself. -/
theorem ReadsWithin.ident {names deps : List String} {x : String} (hx : x ∈ deps) :
    ReadsWithin names (.ident x) deps := by
  intro vs n v _ hn
  have hne : x ≠ n := fun h => hn (h ▸ hx)
  simp only [Eval.eval, Eval.evalExpr, Eval.lookup, List.find?_nil, Store.get?_set, if_neg hne]

/-- A text literal reads nothing. -/
theorem ReadsWithin.str (names deps : List String) (t : String) :
    ReadsWithin names (.str t) deps :=
  fun _ _ _ _ _ => rfl

/-- A binary operation reads what its operands read. -/
theorem ReadsWithin.binary {names deps : List String} {op : Script.BinaryOp} {l r : Script.Expr}
    (hl : ReadsWithin names l deps) (hr : ReadsWithin names r deps) :
    ReadsWithin names (.binary op l r) deps := by
  intro vs n v hn hd
  have hl' := hl vs n v hn hd
  have hr' := hr vs n v hn hd
  simp only [Eval.eval] at hl' hr' ⊢
  simp only [Eval.evalExpr, hl', hr']

/-- The names an instance holds values for: states, derived declarations and value props. -/
def Component.ComponentPlan.declared (p : ComponentPlan) : List String :=
  p.states.map (·.name) ++ p.derived.map (·.name) ++ p.props

/-- `x` is in the transitive dependency closure of name `y`: `y` itself, or in the closure of a
dependency of a derived step named `y`. -/
inductive Upstream (steps : List DerivedStep) : String → String → Prop
  | refl (y : String) : Upstream steps y y
  | step {d : DerivedStep} {y x : String} : d ∈ steps → y ∈ d.dependencies →
      Upstream steps y x → Upstream steps d.name x

/-- The names a change reaches are exactly those with a changed name in their closure. -/
theorem affected_iff_upstream {steps : List DerivedStep} {changed : List String} {y : String} :
    Affected steps changed y ↔ ∃ x ∈ changed, Upstream steps y x := by
  constructor
  · intro h
    induction h with
    | changed hx => exact ⟨_, hx, .refl _⟩
    | step hd hy _ ih =>
      obtain ⟨x, hx, hup⟩ := ih
      exact ⟨x, hx, .step hd hy hup⟩
  · rintro ⟨x, hx, hup⟩
    induction hup with
    | refl => exact .changed hx
    | step hd hy _ ih => exact .step hd hy (ih hx)

/-- More changed names reach more. -/
theorem Affected.mono {steps : List DerivedStep} {P Q : List String} (hPQ : ∀ x ∈ P, x ∈ Q)
    {y : String} (h : Affected steps P y) : Affected steps Q y := by
  induction h with
  | changed hx => exact .changed (hPQ _ hx)
  | step hd hy _ ih => exact .step hd hy ih

/-- What two lists of changed names reach is what either reaches. -/
theorem Affected.of_append {steps : List DerivedStep} {P A : List String} {y : String}
    (h : Affected steps (P ++ A) y) : Affected steps P y ∨ Affected steps A y := by
  induction h with
  | changed hx =>
    rcases List.mem_append.mp hx with hx | hx
    · exact .inl (.changed hx)
    · exact .inr (.changed hx)
  | step hd hy _ ih =>
    rcases ih with ih | ih
    · exact .inl (.step hd hy ih)
    · exact .inr (.step hd hy ih)

namespace InstanceState

/-- A derived value equal to its body's value over the instance's values. -/
def Fresh (s : InstanceState) (d : DerivedStep) : Prop :=
  s.values.get? d.name = some (Eval.eval s.values d.body)

/-- A binding target showing its expression's text over the instance's values. -/
def Shown (s : InstanceState) (h : Host) (b : BindingPlan) : Prop :=
  h.slot (s.nodes.getD b.node 0) b.target = some (Eval.eval s.values b.expr).toText

/-- The instance agrees with a full render on the host except where the names `pending` reach:
every binding has its host node, and every derived step and every binding none of whose
dependencies is reached is fresh, or shown. -/
structure Agrees (s : InstanceState) (h : Host) (pending : List String) : Prop where
  present : ∀ b ∈ s.plan.bindings, (h.node? (s.nodes.getD b.node 0)).isSome = true
  derived : ∀ d ∈ s.plan.derived,
    (∀ y ∈ d.dependencies, ¬Affected s.plan.derived pending y) → s.Fresh d
  bindings : ∀ b ∈ s.plan.bindings,
    (∀ y ∈ b.dependencies, ¬Affected s.plan.derived pending y) → s.Shown h b

end InstanceState

/-- What the handlers of a plan change: a run of one from any values sets, one after another,
states that it requests. -/
def Component.ComponentPlan.HandlersRequest (p : ComponentPlan) : Prop :=
  ∀ hp ∈ p.handlers, ∀ vs : Store, ∃ us : List (String × Value),
    (∀ u ∈ us, u.1 ∈ p.states.map (·.name) ∧ u.1 ∈ (Eval.execAll vs [] hp.body).2) ∧
      (Eval.execAll vs [] hp.body).1 = us.foldl (fun vs u => vs.set u.1 u.2) vs

namespace InstanceState

/-- What an instance needs for passes and handlers to keep agreement with a full render. -/
structure Coherent (s : InstanceState) : Prop where
  /-- no derived step reads itself or a later one, as scheduling orders them -/
  order : ReadsEarlier s.plan.derived
  distinct : (s.plan.derived.map (·.name)).Nodup
  /-- no state or value prop takes the name of a derived declaration -/
  inputs : ∀ n ∈ s.plan.states.map (·.name) ++ s.plan.props, n ∉ s.plan.derived.map (·.name)
  /-- dependencies list every declared name an expression reads -/
  derivedReads : ∀ d ∈ s.plan.derived, ReadsWithin s.plan.declared d.body d.dependencies
  bindingReads : ∀ b ∈ s.plan.bindings, ReadsWithin s.plan.declared b.expr b.dependencies
  /-- handlers set only states, and request each one they set -/
  handlers : s.plan.HandlersRequest
  /-- no two bindings write one target of one host node -/
  targets : (s.plan.bindings.map (Act.targetOf s)).Nodup

/-- Agreement except for fewer names is agreement except for more. -/
theorem Agrees.mono {s : InstanceState} {h : Host} {P Q : List String} (hPQ : ∀ x ∈ P, x ∈ Q)
    (hag : s.Agrees h P) : s.Agrees h Q where
  present := hag.present
  derived d hd hq := hag.derived d hd fun y hy hP => hq y hy (hP.mono hPQ)
  bindings b hb hq := hag.bindings b hb fun y hy hP => hq y hy (hP.mono hPQ)

/-- Agreement reads the host only at the nodes the instance's bindings write. -/
theorem Agrees.congr {s : InstanceState} {h h' : Host} {P : List String}
    (heq : ∀ b ∈ s.plan.bindings, h'.node? (s.nodes.getD b.node 0) = h.node? (s.nodes.getD b.node 0))
    (hag : s.Agrees h P) : s.Agrees h' P where
  present b hb := (heq b hb).symm ▸ hag.present b hb
  derived := hag.derived
  bindings b hb hq := by
    unfold Shown
    rw [Host.slot_congr (heq b hb)]
    exact hag.bindings b hb hq

/-- Agreement depends on the instance only through its plan, nodes and values. -/
theorem Agrees.of_self {s s' : InstanceState} {h : Host} {P : List String} (hp : s'.plan = s.plan)
    (hn : s'.nodes = s.nodes) (hv : s'.values = s.values) (hag : s.Agrees h P) : s'.Agrees h P where
  present b hb := by
    rw [hn]
    exact hag.present b (hp ▸ hb)
  derived d hd hq := by
    unfold Fresh
    rw [hv]
    exact hag.derived d (hp ▸ hd) (hp ▸ hq)
  bindings b hb hq := by
    unfold Shown
    rw [hv, hn]
    exact hag.bindings b (hp ▸ hb) (hp ▸ hq)

end InstanceState

/-! ## One pass -/

/-- Recomputing steps binds no name other than theirs. -/
theorem recompute_get?_of_not_mem (x : String) :
    ∀ (vs : Store) (steps : List DerivedStep), x ∉ steps.map (·.name) →
      (recompute vs steps).get? x = vs.get? x
  | _, [], _ => rfl
  | vs, d :: rest, hx => by
    rw [List.map_cons, List.mem_cons, not_or] at hx
    unfold recompute
    rw [List.foldl_cons]
    rw [show rest.foldl (fun vs d => vs.set d.name (Eval.eval vs d.body))
        (vs.set d.name (Eval.eval vs d.body)) = recompute (vs.set d.name (Eval.eval vs d.body)) rest
        from rfl, recompute_get?_of_not_mem x _ rest hx.2, Store.get?_set, if_neg hx.1]

/-- Recomputing steps whose names an expression does not read leaves its value unchanged. -/
theorem eval_recompute {names deps : List String} {e : Script.Expr} (he : ReadsWithin names e deps) :
    ∀ (vs : Store) (steps : List DerivedStep), (∀ d ∈ steps, d.name ∈ names ∧ d.name ∉ deps) →
      Eval.eval (recompute vs steps) e = Eval.eval vs e
  | _, [], _ => rfl
  | vs, d :: rest, hsteps => by
    have hd := hsteps d (List.mem_cons_self ..)
    have ih := eval_recompute he (vs.set d.name (Eval.eval vs d.body)) rest
      (fun d' hd' => hsteps d' (List.mem_cons_of_mem _ hd'))
    exact ih.trans (he vs d.name _ hd.1 hd.2)

theorem ReadsEarlier.sublist {steps steps' : List DerivedStep} (hsub : List.Sublist steps' steps)
    (h : ReadsEarlier steps) : ReadsEarlier steps' :=
  ⟨fun d hd => h.1 d (hsub.subset hd), h.2.sublist hsub⟩

/-- Recomputing, in order, steps that read only earlier ones, under distinct names the bodies
read only through their dependencies: each step ends fresh. -/
theorem recompute_fresh {names : List String} :
    ∀ (vs : Store) (steps : List DerivedStep), ReadsEarlier steps → (steps.map (·.name)).Nodup →
      (∀ d ∈ steps, d.name ∈ names ∧ ReadsWithin names d.body d.dependencies) →
      ∀ d ∈ steps, (recompute vs steps).get? d.name = some (Eval.eval (recompute vs steps) d.body)
  | _, [], _, _, _, d, hd => absurd hd List.not_mem_nil
  | vs, e :: rest, hord, hnd, hsteps, d, hd => by
    rw [List.map_cons, List.nodup_cons] at hnd
    have hrec : recompute vs (e :: rest) = recompute (vs.set e.name (Eval.eval vs e.body)) rest := rfl
    rcases List.mem_cons.mp hd with rfl | hd
    · -- the first step: no later step binds its name or a name it reads
      have he := hsteps d (List.mem_cons_self ..)
      have hlater : ∀ d' ∈ rest, d'.name ∈ names ∧ d'.name ∉ d.dependencies := fun d' hd' =>
        ⟨(hsteps d' (List.mem_cons_of_mem _ hd')).1, (List.pairwise_cons.mp hord.2).1 d' hd'⟩
      rw [hrec, recompute_get?_of_not_mem _ _ rest hnd.1, Store.get?_set, if_pos rfl,
        eval_recompute he.2 _ rest hlater, he.2 vs d.name _ he.1 (hord.1 d (List.mem_cons_self ..))]
    · rw [hrec]
      exact recompute_fresh _ rest hord.tail hnd.2
        (fun d' hd' => hsteps d' (List.mem_cons_of_mem _ hd')) d hd

namespace InstanceState

theorem Coherent.derived_declared {s : InstanceState} {d : DerivedStep}
    (hd : d ∈ s.plan.derived) : d.name ∈ s.plan.declared := by
  unfold ComponentPlan.declared
  exact List.mem_append_left _ (List.mem_append_right _ (List.mem_map_of_mem hd))

/-- A pass from the pending names `P`, when the instance agreed except where `P` and other names
`A` reach: every step it recomputes ends fresh, and every other derived step and every binding
that reads no changed name still agree unless `A` reaches them. -/
theorem Agrees.derivedPass {s : InstanceState} {h : Host} {P A : List String} (hcoh : s.Coherent)
    (hag : s.Agrees h (P ++ A)) :
    (∀ d ∈ s.plan.derived, (∀ y ∈ d.dependencies, ¬Affected s.plan.derived A y) →
        (s.derivedPass P).1.Fresh d) ∧
      ∀ b ∈ s.plan.bindings, b.dependencies.any (s.derivedPass P).2.contains = false →
        (∀ y ∈ b.dependencies, ¬Affected s.plan.derived A y) → (s.derivedPass P).1.Shown h b := by
  obtain ⟨hmem, hvals⟩ := derivedPass_spec s P hcoh.order
  generalize (s.derivedPass P).2 = changed at hmem hvals ⊢
  generalize hFdef : s.plan.derived.filter (fun d => d.dependencies.any changed.contains) = F at hvals
  have hFmem : ∀ e, e ∈ F ↔ e ∈ s.plan.derived ∧ e.dependencies.any changed.contains = true := by
    intro e
    rw [← hFdef, List.mem_filter]
  have hF : List.Sublist F s.plan.derived := hFdef ▸ List.filter_sublist
  -- every recomputed step is declared and its name is reached
  have hFname : ∀ e ∈ F, e.name ∈ s.plan.declared ∧ Affected s.plan.derived P e.name := by
    intro e he
    obtain ⟨he, hreads⟩ := (hFmem e).mp he
    obtain ⟨y, hy, hyc⟩ := any_contains_iff.mp hreads
    exact ⟨Coherent.derived_declared he, .step he hy ((hmem y).mp hyc)⟩
  -- an expression none of whose dependencies is reached keeps its value
  have hkeep : ∀ (e : Script.Expr) (deps : List String), ReadsWithin s.plan.declared e deps →
      (∀ y ∈ deps, ¬Affected s.plan.derived P y) →
      Eval.eval (recompute s.values F) e = Eval.eval s.values e := by
    intro e deps he hdeps
    apply eval_recompute he
    intro e' he'
    refine ⟨(hFname e' he').1, fun hin => hdeps _ hin (hFname e' he').2⟩
  have hunreached : ∀ deps : List String, deps.any changed.contains = false →
      ∀ y ∈ deps, ¬Affected s.plan.derived P y := by
    intro deps hno y hy hA
    have hyes : deps.any changed.contains = true := any_contains_iff.mpr ⟨y, hy, (hmem y).mpr hA⟩
    rw [hno] at hyes
    exact Bool.false_ne_true hyes
  -- reached by neither list, so not by both
  have hboth : ∀ deps : List String, (∀ y ∈ deps, ¬Affected s.plan.derived P y) →
      (∀ y ∈ deps, ¬Affected s.plan.derived A y) → ∀ y ∈ deps, ¬Affected s.plan.derived (P ++ A) y :=
    fun deps hP hA y hy hPA => (hPA.of_append).elim (hP y hy) (hA y hy)
  refine ⟨fun d hd hA => ?_, fun b hb hno hA => ?_⟩
  · unfold Fresh
    rw [hvals]
    by_cases hdF : d ∈ F
    · -- recomputed: fresh after the pass
      exact recompute_fresh s.values F (hcoh.order.sublist hF) (hcoh.distinct.sublist (hF.map _))
        (fun e he => ⟨(hFname e he).1, hcoh.derivedReads e (hF.subset he)⟩) d hdF
    · -- left alone: fresh before, and nothing it reads or its name was rebound
      have hno : d.dependencies.any changed.contains = false := by
        cases hc : d.dependencies.any changed.contains with
        | false => rfl
        | true => exact absurd ((hFmem d).mpr ⟨hd, hc⟩) hdF
      have hdeps := hunreached _ hno
      have hname : d.name ∉ F.map (·.name) := by
        intro hin
        obtain ⟨e, he, hename⟩ := List.mem_map.mp hin
        have hed : e = d := List.inj_on_of_nodup_map hcoh.distinct (hF.subset he) hd hename
        exact hdF (hed ▸ he)
      rw [recompute_get?_of_not_mem _ _ F hname, hkeep _ _ (hcoh.derivedReads d hd) hdeps]
      exact hag.derived d hd (hboth _ hdeps hA)
  · unfold Shown
    rw [hvals]
    show h.slot (s.nodes.getD b.node 0) b.target = some (Eval.eval (recompute s.values F) b.expr).toText
    rw [hkeep _ _ (hcoh.bindingReads b hb) (hunreached _ hno)]
    exact hag.bindings b hb (hboth _ (hunreached _ hno) hA)

/-- Binding a state or a prop to a new value: the instance agrees except where that name
reaches as well. -/
theorem Agrees.setInput {s : InstanceState} {h : Host} {P Q : List String} {n : String}
    (hcoh : s.Coherent) (hn : n ∈ s.plan.states.map (·.name) ++ s.plan.props) (hQ : n ∈ Q)
    (hPQ : ∀ x ∈ P, x ∈ Q) (hag : s.Agrees h P) (v : Value) :
    { s with values := s.values.set n v }.Agrees h Q := by
  have hdecl : n ∈ s.plan.declared := by
    unfold ComponentPlan.declared
    rcases List.mem_append.mp hn with hn | hn
    · exact List.mem_append_left _ (List.mem_append_left _ hn)
    · exact List.mem_append_right _ hn
  -- whatever reads `n` is reached, so what is not reached does not read it
  have hunread : ∀ deps : List String, (∀ y ∈ deps, ¬Affected s.plan.derived Q y) → n ∉ deps :=
    fun deps hdeps hin => hdeps n hin (.changed hQ)
  have hfewer : ∀ deps : List String, (∀ y ∈ deps, ¬Affected s.plan.derived Q y) →
      ∀ y ∈ deps, ¬Affected s.plan.derived P y :=
    fun deps hdeps y hy hP => hdeps y hy (hP.mono hPQ)
  refine ⟨hag.present, fun d hd hq => ?_, fun b hb hq => ?_⟩
  · have hname : d.name ≠ n := fun heq =>
      hcoh.inputs n hn (heq ▸ List.mem_map_of_mem hd)
    unfold Fresh
    show (s.values.set n v).get? d.name = some (Eval.eval (s.values.set n v) d.body)
    rw [Store.get?_set, if_neg hname, hcoh.derivedReads d hd s.values n v hdecl (hunread _ hq)]
    exact hag.derived d hd (hfewer _ hq)
  · unfold Shown
    show h.slot (s.nodes.getD b.node 0) b.target = some (Eval.eval (s.values.set n v) b.expr).toText
    rw [hcoh.bindingReads b hb s.values n v hdecl (hunread _ hq)]
    exact hag.bindings b hb (hfewer _ hq)

theorem Coherent.congr {s s' : InstanceState} (hp : s'.plan = s.plan) (hn : s'.nodes = s.nodes)
    (h : s.Coherent) : s'.Coherent := by
  have ht : Act.targetOf s' = Act.targetOf s := by
    funext b
    simp only [Act.targetOf, hn]
  exact ⟨hp ▸ h.order, hp ▸ h.distinct, hp ▸ h.inputs, hp ▸ h.derivedReads, hp ▸ h.bindingReads,
    hp ▸ h.handlers, by rw [ht, hp]; exact h.targets⟩

end InstanceState

/-- What a plan needs for every instance of it to be coherent once its nodes are made: the
plan's part of `InstanceState.Coherent`, with each binding on a planned node and no two bindings
on one target of one planned node. -/
structure Component.ComponentPlan.Coherent (p : ComponentPlan) : Prop where
  order : ReadsEarlier p.derived
  distinct : (p.derived.map (·.name)).Nodup
  inputs : ∀ n ∈ p.states.map (·.name) ++ p.props, n ∉ p.derived.map (·.name)
  derivedReads : ∀ d ∈ p.derived, ReadsWithin p.declared d.body d.dependencies
  bindingReads : ∀ b ∈ p.bindings, ReadsWithin p.declared b.expr b.dependencies
  handlers : p.HandlersRequest
  bindingNodes : ∀ b ∈ p.bindings, b.node < p.nodes.length
  targets : (p.bindings.map fun b => (b.node, b.target)).Nodup

namespace InstanceState

/-- An instance of a coherent plan whose planned nodes have distinct host nodes is coherent. -/
theorem Coherent.of_plan {s : InstanceState} (hp : s.plan.Coherent)
    (hlen : s.plan.nodes.length ≤ s.nodes.length) (hnd : s.nodes.Nodup) : s.Coherent := by
  refine ⟨hp.order, hp.distinct, hp.inputs, hp.derivedReads, hp.bindingReads, hp.handlers, ?_⟩
  -- distinct planned targets stay distinct: the planned nodes of bindings have distinct handles
  have hmap : s.plan.bindings.map (Act.targetOf s) =
      (s.plan.bindings.map fun b => (b.node, b.target)).map fun q => (s.nodes.getD q.1 0, q.2) := by
    rw [List.map_map]
    rfl
  rw [hmap]
  refine hp.targets.map_on fun q hq q' hq' heq => ?_
  obtain ⟨b, hb, rfl⟩ := List.mem_map.mp hq
  obtain ⟨b', hb', rfl⟩ := List.mem_map.mp hq'
  obtain ⟨hnode, htarget⟩ := Prod.mk.inj heq
  have hi : b.node < s.nodes.length := Nat.lt_of_lt_of_le (hp.bindingNodes b hb) hlen
  have hi' : b'.node < s.nodes.length := Nat.lt_of_lt_of_le (hp.bindingNodes b' hb') hlen
  simp only [List.getD_eq_getElem?_getD, List.getElem?_eq_getElem hi, List.getElem?_eq_getElem hi',
    Option.getD_some] at hnode
  exact Prod.ext ((List.Nodup.getElem_inj_iff hnd).mp hnode) htarget

/-- Taking value props binds only the names taken, each a prop of the plan: the instance agrees
except where those names reach as well. -/
theorem Agrees.takeValueProps {s : InstanceState} {h : Host} {P : List String} (hcoh : s.Coherent)
    (hag : s.Agrees h P) (props : Props) :
    (s.takeValueProps props).1.Agrees h (P ++ (s.takeValueProps props).2) := by
  -- the fold keeps the plan and the nodes, and agreement except for the names taken so far
  suffices hfold : ∀ (ps : Props) (acc : InstanceState × List String), acc.1.plan = s.plan →
      acc.1.nodes = s.nodes → acc.1.Agrees h (P ++ acc.2) →
      (ps.foldl takeStep acc).1.Agrees h (P ++ (ps.foldl takeStep acc).2) by
    exact hfold props (s, []) rfl rfl (by rw [List.append_nil]; exact hag)
  intro ps
  induction ps with
  | nil => exact fun acc _ _ hacc => hacc
  | cons prop rest ih =>
    intro acc hp hn hacc
    rw [List.foldl_cons]
    obtain ⟨name, p⟩ := prop
    cases p with
    | callback _ => exact ih acc hp hn hacc
    | value v =>
      unfold takeStep
      by_cases htake : acc.1.plan.props.contains name = true
      · -- a prop of the plan is bound and listed as taken
        simp only [htake, if_true]
        have hprop : name ∈ acc.1.plan.states.map (·.name) ++ acc.1.plan.props :=
          List.mem_append_right _ (List.contains_iff_mem.mp htake)
        refine ih _ hp hn ?_
        exact Agrees.setInput (Coherent.congr hp hn hcoh) hprop (by simp)
          (fun x hx => by rw [← List.append_assoc]; exact List.mem_append_left _ hx) hacc v
      · simp only [htake, Bool.false_eq_true, if_false]
        exact ih acc hp hn hacc

/-- Rewriting the bindings that read a changed name, every binding having its node: a rewritten
binding shows its value, and any other one shows what it showed before. -/
theorem shown_writeAll {s : InstanceState} {h : Host} {changed : List String} (hcoh : s.Coherent)
    (hpresent : ∀ b ∈ s.plan.bindings, (h.node? (s.nodes.getD b.node 0)).isSome = true)
    {b : BindingPlan} (hb : b ∈ s.plan.bindings)
    (hrest : b.dependencies.any changed.contains = false → s.Shown h b) :
    s.Shown (Act.writeAll s h (Act.readersOf changed s.plan.bindings)) b := by
  have hsub : List.Sublist (Act.readersOf changed s.plan.bindings) s.plan.bindings :=
    List.filter_sublist
  unfold Shown
  by_cases hread : b.dependencies.any changed.contains = true
  · -- rewritten
    exact Act.slot_writeAll_of_mem s h _ (hcoh.targets.sublist (hsub.map _)) b
      (List.mem_filter.mpr ⟨hb, hread⟩) (hpresent b hb)
  · -- not rewritten, and no rewritten binding shares its target
    have hother : ∀ b' ∈ Act.readersOf changed s.plan.bindings,
        Act.targetOf s b' ≠ (s.nodes.getD b.node 0, b.target) := by
      intro b' hb' heq
      have hbb : b' = b :=
        List.inj_on_of_nodup_map hcoh.targets (hsub.subset hb') hb heq
      exact hread (hbb ▸ (List.mem_filter.mp hb').2)
    rw [Act.slot_writeAll_of_not_mem s h _ hother]
    exact hrest (Bool.eq_false_iff.mpr hread)

end InstanceState

/-! ## Trees -/

/-- The host nodes that the bindings of a tree write. -/
inductive Instance.Writes : Instance → Nat → Prop
  | own {s : InstanceState} {cs : List Instance} {b : BindingPlan} :
      b ∈ s.plan.bindings → Writes (.node s cs) (s.nodes.getD b.node 0)
  | nested {s : InstanceState} {cs : List Instance} {c : Instance} {id : Nat} :
      c ∈ cs → Writes c id → Writes (.node s cs) id

/-- The nodes a tree writes depend on the instance only through its plan and its nodes. -/
theorem Instance.Writes.of_self {s s' : InstanceState} {cs : List Instance} {id : Nat}
    (hp : s'.plan = s.plan) (hn : s'.nodes = s.nodes) (h : (Instance.node s' cs).Writes id) :
    (Instance.node s cs).Writes id := by
  cases h with
  | own hb =>
    rw [hn]
    exact .own (hp ▸ hb)
  | nested hc hw => exact .nested hc hw

/-- Nested instances that write apart: no host node that the instance's bindings write is
written by a nested instance, and none is written by two of them. -/
structure InstanceState.WritesApart (s : InstanceState) (cs : List Instance) : Prop where
  own : ∀ b ∈ s.plan.bindings, ∀ c ∈ cs, ¬c.Writes (s.nodes.getD b.node 0)
  nested : ∀ (i j : Nat) (a b : Instance) (id : Nat), cs[i]? = some a → cs[j]? = some b →
    a.Writes id → b.Writes id → i = j

/-- Writing apart depends on the instance only through its plan and its nodes. -/
theorem InstanceState.WritesApart.of_self {s s' : InstanceState} {cs : List Instance}
    (hp : s'.plan = s.plan) (hn : s'.nodes = s.nodes) (h : s.WritesApart cs) : s'.WritesApart cs :=
  ⟨fun b hb c hc hw => h.own b (hp ▸ hb) c hc (hn ▸ hw), h.nested⟩

/-- A tree whose instances are coherent, write apart from one another, and agree with a full
render on the host except where their pending names reach. -/
inductive Instance.Sound (h : Host) : Instance → Prop
  | node {s : InstanceState} {cs : List Instance} : s.Coherent → s.Agrees h s.pending →
      s.WritesApart cs → (∀ c ∈ cs, Sound h c) → Sound h (.node s cs)

theorem Instance.Sound.inv {h : Host} {s : InstanceState} {cs : List Instance}
    (hs : (Instance.node s cs).Sound h) :
    s.Coherent ∧ s.Agrees h s.pending ∧ s.WritesApart cs ∧ ∀ c ∈ cs, c.Sound h := by
  cases hs with
  | node hcoh hag hap hcs => exact ⟨hcoh, hag, hap, hcs⟩

/-- Soundness depends on the instance only through its plan, nodes, values and pending names. -/
theorem Instance.Sound.of_self {h : Host} {s s' : InstanceState} {cs : List Instance}
    (hs : (Instance.node s cs).Sound h) (hp : s'.plan = s.plan) (hn : s'.nodes = s.nodes)
    (hv : s'.values = s.values) (hpend : s'.pending = s.pending) : (Instance.node s' cs).Sound h := by
  obtain ⟨hcoh, hag, hap, hcs⟩ := hs.inv
  exact .node (hcoh.congr hp hn) (hpend ▸ hag.of_self hp hn hv) (hap.of_self hp hn) hcs

/-- Soundness reads the host only at the nodes the tree's bindings write. -/
theorem Instance.Sound.congr {h h' : Host} {t : Instance} (hs : t.Sound h)
    (heq : ∀ id, t.Writes id → h'.node? id = h.node? id) : t.Sound h' := by
  induction hs with
  | node hcoh hag hap _ ih =>
    refine .node hcoh (hag.congr fun b hb => heq _ (.own hb)) hap fun c hc => ?_
    exact ih c hc fun id hw => heq id (.nested hc hw)

/-- A sound tree, except that its instance may also disagree where the names `A` reach: names
set since the last request, not pending yet. -/
def Instance.SoundExcept (h : Host) (A : List String) : Instance → Prop
  | .node s cs => s.Coherent ∧ s.Agrees h (s.pending ++ A) ∧ s.WritesApart cs ∧ ∀ c ∈ cs, c.Sound h

theorem Instance.soundExcept_nil_iff {h : Host} {s : InstanceState} {cs : List Instance} :
    (Instance.node s cs).SoundExcept h [] ↔ (Instance.node s cs).Sound h := by
  simp only [Instance.SoundExcept, List.append_nil]
  constructor
  · rintro ⟨hcoh, hag, hap, hcs⟩
    exact .node hcoh hag hap hcs
  · exact fun hs => hs.inv

end Reactive
