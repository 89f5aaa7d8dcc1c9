import Reactive.Proofs.Compose.Instances

/-!
# Variable names of nodes and nested instances

The emitted module declares one variable for every host node and every nested instance of a
plan, all in one `let`. The template walk names them with `nextVar`: `<base>_<n>`, where the base
is the tag or component name with every character other than an ASCII letter, digit, `_` or `$`
replaced by `_` and lowercased, and `n` the first number from a counter shared by all of them
whose name is not taken yet. The walk starts with every name the module binds before them taken:
the declared names, the nested components, the reserved names and the module globals.

Main results:
* `nextVar_name_fresh`: the name `nextVar` picks is never taken. It tries one more number than
  there are taken names, and the names it tries are pairwise distinct.
* `isValidIdentifier_varName`: a name `<base>_<n>` is a valid identifier exactly when the stem it
  is made from does not start with a digit. The base keeps a leading digit, and nothing else in
  the name can make it invalid: every character is an identifier character and no reserved word
  has an underscore.
* `planComponent_vars`: the variables of a compiled plan are pairwise distinct and none is a
  declared name, a nested component, a reserved name or a module global; the variable of a node
  is a valid identifier exactly when the node is not an element whose tag starts with a digit,
  and the variable of a nested instance always is.
-/

namespace Reactive.Component

/-! ## Characters of a variable name -/

/-- How `varBase` writes one character of its stem. -/
def baseChar (c : Char) : Char :=
  if identPartChar c then (if 'A' ≤ c && c ≤ 'Z' then Char.ofNat (c.toNat + 32) else c) else '_'

theorem varBase_toList (stem : String) : (varBase stem).toList = stem.toList.map baseChar := by
  simp [varBase, baseChar]

theorem char_le_iff {a b : Char} : a ≤ b ↔ a.toNat ≤ b.toNat := by
  rw [Char.le_def, UInt32.le_iff_toNat_le]
  rfl

/-- Identifier characters are ASCII. -/
theorem toNat_lt_of_identPartChar {c : Char} (h : identPartChar c = true) : c.toNat < 128 := by
  simp only [identPartChar, identStartChar, Bool.or_eq_true, Bool.and_eq_true, decide_eq_true_eq,
    beq_iff_eq, char_le_iff, Char.reduceToNat] at h
  rcases h with ((h | rfl) | rfl) | h
  · omega
  · decide
  · decide
  · omega

/-- A character that is no identifier character is no digit either. -/
theorem isDigit_eq_false_of_not_identPartChar {c : Char} (h : ¬identPartChar c = true) :
    c.isDigit = false := by
  simp only [identPartChar, identStartChar, Bool.or_eq_true, Bool.and_eq_true, decide_eq_true_eq,
    beq_iff_eq, char_le_iff, Char.reduceToNat, not_or] at h
  rw [Bool.eq_false_iff, ne_eq, Char.isDigit_iff_toNat]
  simp only [Char.reduceToNat]
  exact h.2

/-- What `baseChar` does on the ASCII characters, checked one by one. -/
theorem baseChar_ascii : ∀ n < 128, identPartChar (baseChar (Char.ofNat n)) = true ∧
    identStartChar (baseChar (Char.ofNat n)) = !(Char.ofNat n).isDigit := by
  decide

/-- `baseChar` writes an identifier character, which may start an identifier exactly when the
character it was made from is no digit. -/
theorem baseChar_spec (c : Char) :
    identPartChar (baseChar c) = true ∧ identStartChar (baseChar c) = !c.isDigit := by
  by_cases h : identPartChar c = true
  · have hc := baseChar_ascii c.toNat (toNat_lt_of_identPartChar h)
    rwa [Char.ofNat_toNat] at hc
  · -- any other character becomes an underscore
    have hc : baseChar c = '_' := by simp [baseChar, h]
    rw [hc, isDigit_eq_false_of_not_identPartChar h]
    decide

/-- The digits of a number are identifier characters. -/
theorem identPartChar_of_mem_natText {n : Nat} {c : Char} (h : c ∈ (Number.natText n).toList) :
    identPartChar c = true := by
  rw [Number.natText, Nat.toList_repr] at h
  have hd := Char.isDigit_iff_toNat.mp (Nat.isDigit_of_mem_toDigits (by decide) (by decide) h)
  simp only [identPartChar, identStartChar, Bool.or_eq_true, Bool.and_eq_true, decide_eq_true_eq,
    char_le_iff]
  exact Or.inr hd

/-! ## Variable names -/

/-- A variable name made from `stem`: its base, an underscore and a number. -/
def VarOf (stem var : String) : Prop :=
  ∃ n, var = varBase stem ++ "_" ++ Number.natText n

/-- Whether a text starts with an ASCII digit. -/
def startsWithDigit (s : String) : Bool :=
  match s.toList with
  | c :: _ => c.isDigit
  | [] => false

theorem toList_varName (stem : String) (n : Nat) :
    (varBase stem ++ "_" ++ Number.natText n).toList =
      stem.toList.map baseChar ++ '_' :: (Number.natText n).toList := by
  simp [varBase_toList]

/-- No reserved word has an underscore. -/
theorem reserved_contains_eq_false {name : String} (h : '_' ∈ name.toList) :
    scriptReservedWords.contains name = false := by
  have hno : ∀ w ∈ scriptReservedWords, '_' ∉ w.toList := by decide
  rw [Bool.eq_false_iff]
  intro hc
  exact hno name (List.contains_iff_mem.mp hc) h

/-- A name `<base>_<n>` is a valid identifier exactly when its stem does not start with a
digit. -/
theorem isValidIdentifier_varName (stem : String) (n : Nat) :
    isValidIdentifier (varBase stem ++ "_" ++ Number.natText n) = !startsWithDigit stem := by
  have hreserved : scriptReservedWords.contains (varBase stem ++ "_" ++ Number.natText n) = false :=
    reserved_contains_eq_false (by rw [toList_varName]; simp)
  have hdigits : (Number.natText n).toList.all identPartChar = true :=
    List.all_eq_true.mpr fun _ hc => identPartChar_of_mem_natText hc
  unfold isValidIdentifier
  rw [hreserved, toList_varName]
  cases hs : stem.toList with
  | nil =>
    -- the name starts with the underscore
    simp [startsWithDigit, hs, identStartChar, hdigits]
  | cons c cs =>
    -- the name starts with the base of the stem's first character
    have hrest : (cs.map baseChar).all identPartChar = true :=
      List.all_eq_true.mpr fun d hd => by
        obtain ⟨e, -, rfl⟩ := List.mem_map.mp hd
        exact (baseChar_spec e).1
    simp only [List.map_cons, List.cons_append, startsWithDigit, hs]
    rw [(baseChar_spec c).2]
    simp [List.all_append, hrest, hdigits, identPartChar, identStartChar]

/-- Names made from one base with different numbers differ. -/
theorem varName_injective {base : String} {m n : Nat}
    (h : base ++ "_" ++ Number.natText m = base ++ "_" ++ Number.natText n) : m = n := by
  have hl := congrArg String.toList h
  simp only [String.toList_append, List.append_assoc, List.append_cancel_left_eq] at hl
  have hd : Nat.toDigits 10 m = Nat.toDigits 10 n := by
    simpa [Number.natText, Nat.toList_repr] using hl
  have := congrArg (fun ds => Nat.ofDigitChars 10 ds 0) hd
  simpa using this

/-! ## The name `nextVar` picks -/

/-- If the name `nextVar` settles on is taken, so is every name it tried before. -/
theorem nextVar.find_taken (b : Builder) (base : String) : ∀ (fuel n : Nat),
    base ++ "_" ++ Number.natText (nextVar.find b base fuel n) ∈ b.taken →
      ∀ i ≤ fuel, base ++ "_" ++ Number.natText (n + i) ∈ b.taken
  | 0, n, h, i, hi => by
    obtain rfl : i = 0 := by omega
    simpa [nextVar.find] using h
  | fuel + 1, n, h, i, hi => by
    rw [nextVar.find] at h
    split at h
    · -- the name numbered `n` is taken: the search went on from `n + 1`
      rename_i hn
      rcases i with _ | i
      · exact List.contains_iff_mem.mp hn
      · have := nextVar.find_taken b base fuel (n + 1) h i (by omega)
        rwa [Nat.add_right_comm] at this
    · rename_i hn
      exact absurd (List.contains_iff_mem.mpr h) hn

/-- The name `nextVar` picks is not taken: it tries one more number than there are taken names,
and the names it tries are pairwise distinct. -/
theorem nextVar_name_fresh (b : Builder) (base : String) :
    base ++ "_" ++ Number.natText (nextVar.find b base (b.taken.length + 1) b.counter) ∉
      b.taken := by
  intro h
  let tried := (List.range (b.taken.length + 2)).map fun i =>
    base ++ "_" ++ Number.natText (b.counter + i)
  have hnodup : tried.Nodup :=
    List.Pairwise.map _ (fun i j hij heq => hij (by have := varName_injective heq; omega))
      List.nodup_range
  have hsub : tried ⊆ b.taken := by
    intro x hx
    obtain ⟨i, hi, rfl⟩ := List.mem_map.mp hx
    exact nextVar.find_taken b base _ _ h i (by simp at hi; omega)
  have hlen := hnodup.length_le_of_subset hsub
  simp only [tried, List.length_map, List.length_range] at hlen
  omega

/-! ## What the walk keeps of the variables -/

/-- The variables a builder has given out: its nodes', then its nested instances'. -/
def Builder.vars (b : Builder) : List String :=
  b.nodes.toList.map (·.var) ++ b.children.toList.map (·.var)

/-- The stem a node's variable is made from: an element's tag, `txt` for a text node. -/
def NodeKind.stem : NodeKind → String
  | .element tag _ => tag
  | .text _ => "txt"

/-- What the template walk keeps of the variable names, with `declared` the names the module
binds before them: those are taken, and so is every variable given out; the variables are
pairwise distinct, none is one of `declared`, and each is made from its node's stem or its
instance's component. -/
structure Builder.FreshVars (declared : List String) (b : Builder) : Prop where
  declared_taken : ∀ v ∈ declared, v ∈ b.taken
  vars_taken : ∀ v ∈ b.vars, v ∈ b.taken
  nodup : b.vars.Nodup
  apart : ∀ v ∈ b.vars, v ∉ declared
  nodes : ∀ nd ∈ b.nodes.toList, VarOf nd.kind.stem nd.var
  children : ∀ ch ∈ b.children.toList, VarOf ch.component ch.var

/-- A name the builder may give to its next node or instance: taken already, but neither
declared nor given out. -/
def Builder.Reserves (declared : List String) (b : Builder) (var : String) : Prop :=
  b.FreshVars declared ∧ var ∈ b.taken ∧ var ∉ declared ∧ var ∉ b.vars

/-- The variables after adding a node: the new one and the old ones. -/
theorem Builder.vars_pushNode (b : Builder) (nd : NodePlan) (pls : Array Placement) :
    ({ b with nodes := b.nodes.push nd, placements := pls } : Builder).vars.Perm
      (nd.var :: b.vars) := by
  simp [Builder.vars]

/-- The variables after adding a nested instance: the new one and the old ones. -/
theorem Builder.vars_pushChild (b : Builder) (ch : ChildPlan) (pls : Array Placement) :
    ({ b with children := b.children.push ch, placements := pls } : Builder).vars.Perm
      (ch.var :: b.vars) := by
  simpa [Builder.vars] using List.perm_append_singleton ch.var b.vars

namespace Builder.FreshVars

variable {declared : List String}

/-- A builder change that keeps nodes and nested instances and only adds taken names keeps the
variables fresh. -/
theorem of_shape {b b' : Builder} (h : b.FreshVars declared) (hn : b'.nodes = b.nodes)
    (hc : b'.children = b.children) (ht : ∀ v ∈ b.taken, v ∈ b'.taken) :
    b'.FreshVars declared := by
  have hvars : b'.vars = b.vars := by rw [Builder.vars, Builder.vars, hn, hc]
  refine ⟨fun v hv => ht v (h.declared_taken v hv), fun v hv => ht v (h.vars_taken v (hvars ▸ hv)),
    hvars ▸ h.nodup, fun v hv => h.apart v (hvars ▸ hv), fun nd hnd => ?_, fun ch hch => ?_⟩
  · rw [hn] at hnd
    exact h.nodes nd hnd
  · rw [hc] at hch
    exact h.children ch hch

/-- Giving out a reserved name keeps the variables taken, pairwise distinct and apart from the
declared names. -/
theorem give {b : Builder} {var : String} {vars : List String} (h : b.Reserves declared var)
    (hperm : vars.Perm (var :: b.vars)) :
    (∀ v ∈ vars, v ∈ b.taken) ∧ vars.Nodup ∧ ∀ v ∈ vars, v ∉ declared := by
  obtain ⟨hb, htaken, hdecl, hfresh⟩ := h
  refine ⟨fun v hv => ?_, hperm.nodup_iff.mpr (List.nodup_cons.mpr ⟨hfresh, hb.nodup⟩),
    fun v hv => ?_⟩
  · rcases List.mem_cons.mp (hperm.mem_iff.mp hv) with rfl | hv
    · exact htaken
    · exact hb.vars_taken v hv
  · rcases List.mem_cons.mp (hperm.mem_iff.mp hv) with rfl | hv
    · exact hdecl
    · exact hb.apart v hv

/-- Adding a node with a reserved name made from its stem. -/
theorem pushNode {b : Builder} {var : String} {kind : NodeKind} (h : b.Reserves declared var)
    (hv : VarOf kind.stem var) :
    ({ b with nodes := b.nodes.push ⟨var, kind, b.parent⟩,
               placements := b.placements.push (.node b.nodes.size) } : Builder).FreshVars
      declared := by
  obtain ⟨htaken, hnodup, hapart⟩ :=
    give h (b.vars_pushNode ⟨var, kind, b.parent⟩ (b.placements.push (.node b.nodes.size)))
  refine ⟨h.1.declared_taken, htaken, hnodup, hapart, fun nd hnd => ?_, h.1.children⟩
  simp only [Array.toList_push, List.mem_append, List.mem_singleton] at hnd
  rcases hnd with hnd | rfl
  · exact h.1.nodes nd hnd
  · exact hv

/-- Adding a nested instance with a reserved name made from its component. -/
theorem pushChild {b : Builder} {var name : String} {parent : Option Nat} {props : List ChildProp}
    (h : b.Reserves declared var) (hv : VarOf name var) :
    ({ b with children := b.children.push ⟨var, name, parent, props⟩,
               placements := b.placements.push (.child b.children.size) } : Builder).FreshVars
      declared := by
  obtain ⟨htaken, hnodup, hapart⟩ := give h
    (b.vars_pushChild ⟨var, name, parent, props⟩ (b.placements.push (.child b.children.size)))
  refine ⟨h.1.declared_taken, htaken, hnodup, hapart, h.1.nodes, fun ch hch => ?_⟩
  simp only [Array.toList_push, List.mem_append, List.mem_singleton] at hch
  rcases hch with hch | rfl
  · exact h.1.children ch hch
  · exact hv

end Builder.FreshVars

/-! ## The steps of the walk -/

section
variable {declared : List String}

/-- `nextVar` gives out a reserved name made from its stem. -/
theorem nextVar_reserves (stem : String) :
    Spec (Builder.FreshVars declared) (nextVar stem)
      (fun var b => b.Reserves declared var ∧ VarOf stem var) (fun _ => True) := by
  unfold nextVar
  refine Spec.bind Spec.get fun b => Spec.bind (Spec.set _) fun _ => Spec.pure _ ?_
  rintro s ⟨rfl, s₀, hs₀, rfl⟩
  -- the name picked was not taken, so it is neither declared nor given out
  exact ⟨⟨hs₀.of_shape rfl rfl fun _ hv => List.mem_cons_of_mem _ hv, List.mem_cons_self,
    fun hd => nextVar_name_fresh _ _ (hs₀.declared_taken _ hd),
    fun hv => nextVar_name_fresh _ _ (hs₀.vars_taken _ hv)⟩, _, rfl⟩

theorem pushNode_vars (var : String) (kind : NodeKind) :
    Spec (fun b => b.Reserves declared var ∧ VarOf kind.stem var) (pushNode var kind)
      (fun _ => Builder.FreshVars declared) (fun _ => True) := by
  unfold pushNode
  refine Spec.bind Spec.get fun b => Spec.bind (Spec.set _) fun _ => Spec.pure _ ?_
  rintro s ⟨rfl, s₀, ⟨hs₀, hv⟩, rfl⟩
  exact Builder.FreshVars.pushNode hs₀ hv

theorem bindExpr_vars (scope : Scope) (node : Nat) (target : BindingTarget) (code origin : String) :
    Spec (Builder.FreshVars declared) (bindExpr scope node target code origin)
      (fun _ => Builder.FreshVars declared) (fun _ => True) := by
  unfold bindExpr
  refine Spec.bind (liftCheck_spec _) fun _ => Spec.bind (liftCheck_spec _) fun _ =>
    Spec.mono (Spec.change _) (fun _ h => h) ?_ (fun _ h => h)
  rintro _ s ⟨s₀, hs₀, rfl⟩
  exact hs₀.of_shape rfl rfl fun _ h => h

theorem addElement_vars (scope : Scope) (m : Model) (tag : String) (attrs : List Attribute)
    (events : List EventSource) :
    Spec (Builder.FreshVars declared) (addElement scope m tag attrs events)
      (fun _ => Builder.FreshVars declared) (fun _ => True) := by
  unfold addElement
  refine Spec.bind (nextVar_reserves tag) fun var =>
    Spec.bind (pushNode_vars var (.element tag _)) fun _ => ?_
  -- dynamic attributes add bindings, events add subscriptions: neither touches the variables
  refine Spec.bind (Spec.forIn_yield (fun _ _ => Builder.FreshVars declared)
    fun _ a _ _ _ => ?_) fun _ => Spec.bind (Spec.forIn_yield (fun _ _ => Builder.FreshVars declared)
      fun _ e _ _ _ => ?_) fun _ => Spec.pure _ fun _ h => h
  · split
    · exact Spec.bind (bindExpr_vars scope _ _ _ _) fun _ => Spec.pure _ fun _ h => ⟨_, rfl, h⟩
    · exact Spec.pure _ fun _ h => ⟨_, rfl, h⟩
  · refine Spec.bind (liftCheck_spec _) fun _ => Spec.bind (Spec.change _) fun _ =>
      Spec.pure _ ?_
    rintro s ⟨s₀, hs₀, rfl⟩
    exact ⟨_, rfl, hs₀.of_shape rfl rfl fun _ h => h⟩

theorem addChild_vars (scope : Scope) (m : Model) (name : String) (props : List PropBinding) :
    Spec (Builder.FreshVars declared) (addChild scope m name props)
      (fun _ => Builder.FreshVars declared) (fun _ => True) := by
  unfold addChild
  refine Spec.bind (nextVar_reserves _) fun var => ?_
  -- the props are made without touching the builder, which keeps the name reserved
  refine Spec.bind (Spec.forIn_yield
    (fun _ (_ : Array ChildProp) (b : Builder) => b.Reserves declared var ∧ VarOf name var)
    fun pre p post hps out => ?_) fun out => ?_
  · have hpush : ∀ (value : ChildPropValue),
        Spec (fun (b : Builder) => b.Reserves declared var ∧ VarOf name var)
          (pure (ForInStep.yield (out.push { name := p.name, value := value })) : Build _)
          (fun r (s : Builder) => ∃ b', r = .yield b' ∧ s.Reserves declared var ∧ VarOf name var)
          (fun _ => True) :=
      fun _ => Spec.pure _ fun _ hs => ⟨_, rfl, hs⟩
    simp only
    split
    · simp only [pure_bind]
      exact Spec.bind (liftCheck_spec _) fun _ => Spec.bind (liftCheck_spec _) fun _ => hpush _
    · simp only [pure_bind]
      exact hpush _
    · simp only [pure_bind]
      exact Spec.bind (liftCheck_spec _) fun _ => hpush _
  · refine Spec.mono (Spec.change _) (fun _ h => h) ?_ (fun _ h => h)
    rintro _ s ⟨s₀, ⟨hs₀, hv⟩, rfl⟩
    exact Builder.FreshVars.pushChild hs₀ hv

mutual
/-- Walking a node keeps the variables fresh. -/
theorem walkNode_vars (scope : Scope) (m : Model) : ∀ n : TemplateNode,
    Spec (Builder.FreshVars declared) (walkNode scope m n) (fun _ => Builder.FreshVars declared)
      (fun _ => True)
  | .element tag attrs events children => by
    -- an element: its children are walked under it
    rw [walkNode]
    refine Spec.bind (addElement_vars scope m tag attrs events) fun _ => Spec.bind Spec.get fun _ =>
      Spec.bind (Spec.mono (Spec.change _) (fun _ h => h.1) (fun _ _ h => h) (fun _ h => h))
        fun _ => ?_
    refine Spec.bind (Spec.mono (walkNodes_vars scope m children) ?_
      (fun _ _ h => h) (fun _ h => h)) fun _ => Spec.mono (Spec.change _) (fun _ h => h) ?_
        (fun _ h => h)
    · rintro s ⟨s₀, hs₀, rfl⟩
      exact hs₀.of_shape rfl rfl fun _ h => h
    · rintro _ s ⟨s₀, hs₀, rfl⟩
      exact hs₀.of_shape rfl rfl fun _ h => h
  | .component name props => by
    rw [walkNode]
    exact addChild_vars scope m name props
  | .text value => by
    rw [walkNode]
    exact Spec.bind (nextVar_reserves "txt") fun var =>
      Spec.bind (pushNode_vars var (.text value)) fun _ => Spec.pure _ fun _ h => h
  | .expression code => by
    rw [walkNode]
    exact Spec.bind (nextVar_reserves "txt") fun var =>
      Spec.bind (pushNode_vars var (.text "")) fun _ => bindExpr_vars scope _ _ _ _

/-- The template walk keeps the variables fresh. -/
theorem walkNodes_vars (scope : Scope) (m : Model) : ∀ nodes : List TemplateNode,
    Spec (Builder.FreshVars declared) (walkNodes scope m nodes)
      (fun _ => Builder.FreshVars declared) (fun _ => True)
  | [] => by
    rw [walkNodes]
    exact Spec.pure _ fun _ h => h
  | n :: rest => by
    rw [walkNodes]
    exact Spec.bind (walkNode_vars scope m n) fun _ => walkNodes_vars scope m rest
end

end

/-! ## Compiled plans -/

/-- An identifier does not start with a digit. -/
theorem startsWithDigit_eq_false_of_valid {name : String} (h : isValidIdentifier name = true) :
    startsWithDigit name = false := by
  unfold isValidIdentifier at h
  unfold startsWithDigit
  cases hs : name.toList with
  | nil => rfl
  | cons c cs =>
    rw [hs] at h
    simp only [Bool.and_eq_true] at h
    have hc := h.1.1
    simp only [identStartChar, Bool.or_eq_true, Bool.and_eq_true, decide_eq_true_eq, beq_iff_eq,
      char_le_iff, Char.reduceToNat] at hc
    rw [Bool.eq_false_iff, ne_eq, Char.isDigit_iff_toNat]
    simp only [Char.reduceToNat]
    rcases hc with ((hc | hc) | rfl) | rfl
    · omega
    · omega
    · decide
    · decide

mutual
/-- The nested components of checked nodes have identifier names. -/
theorem instancesInNodes_valid : ∀ nodes : List TemplateNode, checkNodes nodes = .ok () →
    ∀ p ∈ instancesInNodes nodes, isValidIdentifier p.1 = true
  | [], _, _, hp => absurd hp List.not_mem_nil
  | n :: rest, h, p, hp => by
    simp only [checkNodes, bind, Except.bind] at h
    split at h
    · cases h
    rename_i hn
    rw [instancesInNodes, List.mem_append] at hp
    rcases hp with hp | hp
    · exact instancesInNode_valid n hn p hp
    · exact instancesInNodes_valid rest h p hp

/-- The nested components of a checked node have identifier names. -/
theorem instancesInNode_valid : ∀ n : TemplateNode, checkNode n = .ok () →
    ∀ p ∈ instancesInNode n, isValidIdentifier p.1 = true
  | .element tag _ _ children, h, p, hp => by
    rw [checkNode] at h
    split at h
    · cases h
    · exact instancesInNodes_valid children h p hp
  | .component name props, h, p, hp => by
    rw [instancesInNode, List.mem_singleton] at hp
    subst hp
    cases hc : checkIdentifier name with
    | error e => simp [checkNode, hc, bind, Except.bind] at h
    | ok u =>
      unfold checkIdentifier at hc
      split at hc
      · assumption
      · cases hc
  | .text _, _, _, hp => absurd hp List.not_mem_nil
  | .expression _, _, _, hp => absurd hp List.not_mem_nil
end

/-- A validated component's nested instances name components with identifier names. -/
theorem validate_instances_valid {c : ComponentSource} (h : validate c = .ok ()) :
    ∀ p ∈ instancesInNodes c.nodes, isValidIdentifier p.1 = true := by
  unfold validate at h
  simp only [bind, Except.bind] at h
  split at h
  · cases h
  split at h
  · cases h
  split at h
  · cases h
  exact instancesInNodes_valid c.nodes h

/-- The names taken before the walk: the declared names, the nested components, the reserved
names and the module globals. -/
theorem mem_takenNames {c : ComponentSource} {v : String} :
    v ∈ takenNames c ↔ v ∈ c.declared ∨ v ∈ c.nested ∨ v ∈ reservedNames ∨ v ∈ moduleGlobals := by
  simp only [takenNames, ComponentSource.declared, List.mem_append, or_assoc]

/-- The variables the emitted module declares for a plan's nodes and nested instances, in the
order of its `let`. -/
def ComponentPlan.vars (p : ComponentPlan) : List String :=
  p.nodes.map (·.var) ++ p.children.map (·.var)

/-- The variables of a compiled plan can be declared together: they are pairwise distinct, and
none is a declared name, a nested component, a reserved name or a module global. Each is an
identifier that is no reserved word, with one exception: the variable of an element whose tag
starts with a digit starts with that digit. -/
theorem planComponent_vars {c : ComponentSource} {plan : ComponentPlan}
    (h : planComponent c = .ok plan) :
    plan.vars.Nodup ∧
      (∀ v ∈ plan.vars, v ∉ c.declared ∧ v ∉ c.nested ∧ v ∉ reservedNames ∧ v ∉ moduleGlobals) ∧
      (∀ nd ∈ plan.nodes, isValidIdentifier nd.var = !startsWithDigit nd.kind.stem) ∧
      ∀ ch ∈ plan.children, isValidIdentifier ch.var = true := by
  obtain ⟨-, -, -, hinsts, -⟩ := planComponent_children h
  have hvalid := validate_instances_valid (planComponent_validate h)
  obtain ⟨m, order, b, -, -, hwalk, hplan⟩ := planComponent_ok h
  -- the walk starts with the names the module binds taken and no variable given out
  have hstart : Builder.FreshVars (takenNames c) ⟨1, takenNames c, none, #[], #[], #[], #[], #[]⟩ :=
    ⟨fun _ hv => hv, fun _ hv => by simp [Builder.vars] at hv, List.nodup_nil,
      fun _ hv => by simp [Builder.vars] at hv, fun _ hnd => by simp at hnd,
      fun _ hch => by simp at hch⟩
  have hb := (walkNodes_vars _ _ c.nodes).of_ok hstart hwalk
  -- the plan takes the walk's nodes, and its nested instances with their props reflagged
  have hvars : plan.vars = b.vars := by
    rw [hplan]
    simp only [ComponentPlan.vars, Builder.vars, List.map_map]
    rfl
  have hnodes : plan.nodes = b.nodes.toList := by rw [hplan]
  have hchildren : ∀ ch ∈ plan.children, ∃ ch₀ ∈ b.children.toList,
      ch.var = ch₀.var ∧ ch.component = ch₀.component := by
    rw [hplan]
    intro ch hch
    obtain ⟨ch₀, hch₀, rfl⟩ := List.mem_map.mp hch
    exact ⟨ch₀, hch₀, rfl, rfl⟩
  refine ⟨hvars ▸ hb.nodup, fun v hv => ?_, fun nd hnd => ?_, fun ch hch => ?_⟩
  · have hv' := hb.apart v (hvars ▸ hv)
    rw [mem_takenNames] at hv'
    simpa only [not_or] using hv'
  · obtain ⟨n, hn⟩ := hb.nodes nd (hnodes ▸ hnd)
    rw [hn, isValidIdentifier_varName]
  · obtain ⟨ch₀, hch₀, hvar, hcomp⟩ := hchildren ch hch
    obtain ⟨n, hn⟩ := hb.children ch₀ hch₀
    -- a nested instance is named after a component of the template, an identifier
    obtain ⟨props, hinst, -⟩ := hinsts ch hch
    rw [hvar, hn, isValidIdentifier_varName, ← hcomp,
      startsWithDigit_eq_false_of_valid (hvalid _ hinst)]
    rfl

/-- A list item whose tag starts with a digit, holding a text and a nested badge, in a component
with a state named like a text variable. -/
def rankSource : ComponentSource where
  name := "Rank"
  filePath := ""
  states := [⟨"txt_2", "0"⟩]
  derived := []
  handlers := []
  props := []
  callbacks := []
  nodes := [.element "9lives" [] [] [.text "x", .component "Badge" []]]

/-- The variables of the item's plan are distinct and the item's variable is no identifier. -/
theorem rank_vars : ∃ plan, planComponent rankSource = .ok plan ∧ plan.vars.Nodup ∧
    ∃ nd ∈ plan.nodes, isValidIdentifier nd.var = false := by
  obtain ⟨plan, hplan⟩ := exists_planComponent_eq_ok rankSource (by decide +kernel)
  obtain ⟨hnodup, -, hnodes, -⟩ := planComponent_vars hplan
  have hstems : plan.nodes.map (·.kind.stem) = ["9lives", "txt"] := by
    have hrun : (planComponent rankSource).toOption.map (fun p => p.nodes.map (·.kind.stem)) =
        some ["9lives", "txt"] := by decide +kernel
    rw [hplan] at hrun
    exact Option.some.inj hrun
  obtain ⟨nd, hnd, hstem⟩ : ∃ nd ∈ plan.nodes, nd.kind.stem = "9lives" :=
    List.mem_map.mp (hstems ▸ List.mem_cons_self)
  exact ⟨plan, hplan, hnodup, nd, hnd, by rw [hnodes nd hnd, hstem]; rfl⟩

/- The text skips the name the state took. -/
example : (planComponent rankSource).toOption.map ComponentPlan.vars =
    some ["9lives_1", "txt_3", "badge_4"] := by decide +kernel

end Reactive.Component
