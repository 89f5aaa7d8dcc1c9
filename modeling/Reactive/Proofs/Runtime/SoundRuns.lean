import Reactive.Proofs.Runtime.Flushing

/-!
# Every update and event keeps the tree sound

A sound tree agrees with a full render except where the pending names of each instance reach
(`Instance.Sound`). This file proves that every operation that updates a mounted tree keeps it
so when it succeeds, whatever keys the host fires and whatever the outboxes hold: a handler run
by its key, a key routed from an outbox or from the host, props taken, a request and the flush it
runs, with every pass the reentrancy policy allows.

* `Cursor.Confined c c'`: the run kept the instance's plan and node handles, and changed only host
  nodes that the bindings of the tree write, which it leaves writing no others. The ancestors and
  siblings of the instance keep their agreement through such a run.
* `Act.KeepsSound A B a`: every successful run of `a` from a tree sound except where the names `A`
  reach is confined, and ends sound except where the names `B` reach. The names `A` are those set
  on the instance from outside and not requested yet.
* A handler sets only states it requests (`Coherent.handlers`): after it runs, the instance agrees
  except where the requested names reach as well, and the request makes them pending
  (`InstanceState.Agrees.runHandler`).
* A pass recomputes the derived values and empties the pending names; once the bindings that read
  a changed name are written the instance agrees again (`Cursor.SoundExcept.afterPass`). A handler that
  runs during the pass, routed from an outbox or from the host's fired keys, only adds pending
  names, since its instance is flushing.

`soundAt` proves it of every update operation at every depth bound, by induction on the bound with
one case per operation.
-/

namespace Reactive

open Component

/-! ## Runs confined to the nodes of the tree -/

/-- A run that keeps the instance's plan and node handles, changes only host nodes that the
bindings of the tree write, and leaves the tree writing no others. -/
structure Cursor.Confined (c c' : Cursor) : Prop where
  plan : c'.self.plan = c.self.plan
  nodes : c'.self.nodes = c.self.nodes
  keeps : ∀ id, (Instance.node c'.self c'.children).Writes id →
    (Instance.node c.self c.children).Writes id
  frame : ∀ id, ¬(Instance.node c.self c.children).Writes id →
    c'.scene.host.node? id = c.scene.host.node? id

namespace Cursor.Confined

variable {c c₁ c₂ : Cursor}

theorem refl (c : Cursor) : Confined c c := ⟨rfl, rfl, fun _ h => h, fun _ _ => rfl⟩

theorem trans (h₁ : Confined c c₁) (h₂ : Confined c₁ c₂) : Confined c c₂ :=
  ⟨h₂.plan.trans h₁.plan, h₂.nodes.trans h₁.nodes, fun id h => h₁.keeps id (h₂.keeps id h),
    fun id h => (h₂.frame id fun h' => h (h₁.keeps id h')).trans (h₁.frame id h)⟩

/-- Changing what the instance holds but its plan and node handles. -/
theorem of_self {s : InstanceState} (hp : s.plan = c.self.plan) (hn : s.nodes = c.self.nodes) :
    Confined c { c with self := s } :=
  ⟨hp, hn, fun _ h => h.of_self hp hn, fun _ _ => rfl⟩

/-- Changing the host but none of its nodes. -/
theorem of_host {h : Host} (hn : h.nodes = c.scene.host.nodes) :
    Confined c { c with scene := { c.scene with host := h } } :=
  ⟨rfl, rfl, fun _ h => h, fun _ _ => by simp only [Host.node?, hn]⟩

end Cursor.Confined

/-- A tree with nested instance `i` replaced writes only where the old tree did, when the new
nested instance writes only where the old one did. -/
theorem Instance.Writes.of_set {s : InstanceState} {cs : List Instance} {i id : Nat}
    {old new : Instance} (hold : cs[i]? = some old) (hkeeps : ∀ id, new.Writes id → old.Writes id)
    (h : (Instance.node s (cs.set i new)).Writes id) : (Instance.node s cs).Writes id := by
  cases h with
  | own hb => exact .own hb
  | nested hmem hw =>
    rcases List.mem_or_eq_of_mem_set hmem with hmem | rfl
    · exact .nested hmem hw
    · exact .nested (List.mem_of_getElem? hold) (hkeeps id hw)

/-! ## Sound cursors -/

/-- The tree at a cursor is sound, except that its instance may also disagree where the names
`A` reach. -/
def Cursor.SoundExcept (A : List String) (c : Cursor) : Prop :=
  (Instance.node c.self c.children).SoundExcept c.scene.host A

namespace Cursor.SoundExcept

variable {A : List String} {c : Cursor}

/-- Soundness depends on the instance only through its plan, nodes, values and pending names. -/
theorem of_self (hs : c.SoundExcept A) {s : InstanceState} (hp : s.plan = c.self.plan)
    (hn : s.nodes = c.self.nodes) (hv : s.values = c.self.values)
    (hpend : s.pending = c.self.pending) : Cursor.SoundExcept A { c with self := s } := by
  obtain ⟨hcoh, hag, hap, hns⟩ := hs
  exact ⟨hcoh.congr hp hn, by rw [hpend]; exact hag.of_self hp hn hv, hap.of_self hp hn, hns⟩

/-- Soundness reads the host only through its nodes. -/
theorem of_host (hs : c.SoundExcept A) {h : Host} (hn : h.nodes = c.scene.host.nodes) :
    Cursor.SoundExcept A { c with scene := { c.scene with host := h } } := by
  obtain ⟨hcoh, hag, hap, hns⟩ := hs
  have heq : ∀ id, h.node? id = c.scene.host.node? id := fun id => by simp only [Host.node?, hn]
  exact ⟨hcoh, hag.congr fun _ _ => heq _, hap, fun ch hch => (hns ch hch).congr fun id _ => heq id⟩

/-- Disagreeing where fewer names reach is disagreeing where more do. -/
theorem mono (hs : c.SoundExcept A) {B : List String} (hAB : ∀ x ∈ A, x ∈ B) :
    c.SoundExcept B := by
  obtain ⟨hcoh, hag, hap, hns⟩ := hs
  refine ⟨hcoh, hag.mono fun x hx => ?_, hap, hns⟩
  rcases List.mem_append.mp hx with hx | hx
  · exact List.mem_append_left _ hx
  · exact List.mem_append_right _ (hAB x hx)

end Cursor.SoundExcept

/-! ## What runs keep the tree sound -/

namespace Act

/-- A run whose outcome is known, with the cursor it leaves. -/
theorem exec_eq_of_fst {α : Type} {a : Act α} {c : Cursor} {r : Except InstanceError α}
    (h : (exec a c).1 = r) : exec a c = (r, (exec a c).2) :=
  Prod.ext h rfl

/-- Every successful run of `a` from a cursor sound except where the names `A` reach is confined
to the nodes of the tree, and ends sound except where the names `B` reach. -/
def KeepsSound {α : Type} (A B : List String) (a : Act α) : Prop :=
  ∀ c c' v, exec a c = (.ok v, c') → c.SoundExcept A → c'.SoundExcept B ∧ c.Confined c'

namespace KeepsSound

variable {α β γ : Type} {A B C : List String}

theorem pure (x : α) : KeepsSound A A (Pure.pure x : Act α) := by
  intro c c' v h hs
  simp only [exec_pure, Prod.mk.injEq] at h
  obtain ⟨-, rfl⟩ := h
  exact ⟨hs, .refl c⟩

theorem throw (e : InstanceError) : KeepsSound A B (MonadExcept.throw e : Act α) := by
  intro c c' v h
  simp [exec_throw] at h

theorem self : KeepsSound A A Act.self := by
  intro c c' v h hs
  simp only [exec_self, Prod.mk.injEq] at h
  obtain ⟨-, rfl⟩ := h
  exact ⟨hs, .refl c⟩

theorem get : KeepsSound A A (MonadState.get : Act Cursor) := by
  intro c c' v h hs
  simp only [exec_get, Prod.mk.injEq] at h
  obtain ⟨-, rfl⟩ := h
  exact ⟨hs, .refl c⟩

theorem bind {x : Act α} {f : α → Act β} (hx : KeepsSound A B x) (hf : ∀ v, KeepsSound B C (f v)) :
    KeepsSound A C (x >>= f) := by
  intro c c' v h hs
  rw [exec_bind] at h
  split at h
  · rename_i w c₁ hrun
    obtain ⟨hs₁, hc₁⟩ := hx c c₁ w hrun hs
    obtain ⟨hs', hc'⟩ := hf w c₁ c' v h hs₁
    exact ⟨hs', hc₁.trans hc'⟩
  · cases h

/-- Reading the instance, then going on with what was read: the rest need keep the tree sound
only from the cursor it was read from. -/
theorem self_bind {k : InstanceState → Act β}
    (hk : ∀ c c' v, exec (k c.self) c = (.ok v, c') → c.SoundExcept A →
      c'.SoundExcept B ∧ c.Confined c') :
    KeepsSound A B (Act.self >>= k) :=
  fun c c' v h hs => hk c c' v (by rwa [exec_self_bind] at h) hs

/-- Reading the cursor, then going on with what was read. -/
theorem get_bind {k : Cursor → Act β}
    (hk : ∀ c c' v, exec (k c) c = (.ok v, c') → c.SoundExcept A →
      c'.SoundExcept B ∧ c.Confined c') :
    KeepsSound A B ((MonadState.get : Act Cursor) >>= k) :=
  fun c c' v h hs => hk c c' v (by rwa [exec_get_bind] at h) hs

theorem ite {p : Prop} [Decidable p] {x y : Act α} (hx : KeepsSound A B x)
    (hy : KeepsSound A B y) : KeepsSound A B (if p then x else y) := by
  split
  · exact hx
  · exact hy

/-- Changing what the instance holds but its plan, nodes, values and pending names. -/
theorem modifySelf {f : InstanceState → InstanceState}
    (hf : ∀ s, (f s).plan = s.plan ∧ (f s).nodes = s.nodes ∧ (f s).values = s.values ∧
      (f s).pending = s.pending) :
    KeepsSound A A (Act.modifySelf f) := by
  intro c c' v h hs
  simp only [exec_modifySelf, Prod.mk.injEq] at h
  obtain ⟨-, rfl⟩ := h
  obtain ⟨hp, hn, hv, hpend⟩ := hf c.self
  exact ⟨hs.of_self hp hn hv hpend, .of_self hp hn⟩

/-- A host operation that changes none of its nodes. -/
theorem host {f : Host → γ × Host} (hf : ∀ h, (f h).2.nodes = h.nodes) :
    KeepsSound A A (Act.host f) := by
  intro c c' v h hs
  simp only [exec_host, Prod.mk.injEq] at h
  obtain ⟨-, rfl⟩ := h
  exact ⟨hs.of_host (hf _), .of_host (hf _)⟩

theorem ensureMounted : KeepsSound A A Act.ensureMounted :=
  bind self fun _ => ite (throw _) (pure _)

theorem tooDeep : KeepsSound A B Act.tooDeep := bind self fun _ => throw _

theorem forIn {xs : List γ} {b : β} {body : γ → β → Act (ForInStep β)}
    (hbody : ∀ x b, KeepsSound A A (body x b)) : KeepsSound A A (forIn xs b body) := by
  induction xs generalizing b with
  | nil => exact pure b
  | cons x xs ih =>
    rw [List.forIn_cons]
    refine bind (hbody x b) fun step => ?_
    cases step with
    | done b' => exact pure b'
    | yield b' => exact ih

/-- Work on a nested instance that keeps it sound keeps the tree sound: the instance's own
agreement, and that of the other nested instances, read no node the work changes. -/
theorem onChild {a : Act Unit} (ha : KeepsSound [] [] a) (index : Nat) :
    KeepsSound A A (Act.onChild index a) := by
  intro c c' v h hs
  cases hg : c.children[index]? with
  | none =>
    rw [Act.onChild, exec_get_bind] at h
    simp only [hg] at h
    exact pure () c c' v h hs
  | some g =>
    obtain ⟨gs, gcs⟩ := g
    rw [exec_onChild_some hg] at h
    simp only [Instance.state, Instance.children, Prod.mk.injEq] at h
    obtain ⟨hr, rfl⟩ := h
    have hrun : exec a ⟨gs, gcs, c.scene⟩ = (.ok (), (exec a ⟨gs, gcs, c.scene⟩).2) := by
      rw [← hr]
    obtain ⟨hcoh, hag, hap, hns⟩ := hs
    have hmem : Instance.node gs gcs ∈ c.children := List.mem_of_getElem? hg
    have hgs : Cursor.SoundExcept [] ⟨gs, gcs, c.scene⟩ :=
      Instance.soundExcept_nil_iff.mpr (hns _ hmem)
    obtain ⟨hs₁, hconf⟩ := ha _ _ () hrun hgs
    obtain ⟨hap', hns'⟩ := sound_set_child hg hconf.keeps hconf.frame
      (fun _ => Instance.soundExcept_nil_iff.mp hs₁) hap hns
    refine ⟨⟨hcoh, hag.congr fun b hb => hconf.frame _ (hap.own b hb _ hmem), hap', hns'⟩,
      ⟨rfl, rfl, fun id hw => hw.of_set hg hconf.keeps, fun id hw => ?_⟩⟩
    exact hconf.frame id fun hw' => hw (.nested hmem hw')

theorem repeatPass {pass : Act Bool} (hpass : KeepsSound A A pass) (component : String)
    (limit : UInt32) : ∀ k, KeepsSound A A (Act.repeatPass component limit pass k)
  | 0 => bind hpass fun _ => ite (throw _) (pure _)
  | k + 1 => bind hpass fun _ => ite (repeatPass hpass component limit k) (pure _)

/-- Forwarding props keeps the tree sound when each update of a nested instance keeps it sound
and each handling of an outbox keeps the tree sound. -/
theorem forwardProps (changed : List String) {update : Props → Act Unit}
    {collect : Nat → Act Unit} (hupdate : ∀ props, KeepsSound [] [] (update props))
    (hcollect : ∀ i, KeepsSound A A (collect i)) :
    ∀ is, KeepsSound A A (Act.forwardProps changed update collect is)
  | [] => pure _
  | i :: is => by
    rw [Act.forwardProps]
    exact bind self fun _ => bind get fun _ =>
      ite (bind (onChild (hupdate _) i) fun _ => bind (hcollect i) fun _ =>
        forwardProps changed hupdate hcollect is) (forwardProps changed hupdate hcollect is)

end KeepsSound

end Act

/-! ## Handlers, requests and passes -/

/-- Running a handler of a coherent instance: it sets, one after another, states that it
requests, so the instance agrees except where the requested names reach as well. -/
theorem InstanceState.Agrees.runHandler {s : InstanceState} {h : Host} {P : List String}
    (hcoh : s.Coherent) {hp : HandlerPlan} (hmem : hp ∈ s.plan.handlers) (hag : s.Agrees h P) :
    { s with values := (Eval.execAll s.values [] hp.body).1 }.Agrees h
      (P ++ (Eval.execAll s.values [] hp.body).2) := by
  obtain ⟨us, hus, heq⟩ := hcoh.handlers hp hmem s.values
  rw [heq]
  generalize (Eval.execAll s.values [] hp.body).2 = req at hus ⊢
  -- the sets one by one, each of a requested state
  suffices hsets : ∀ (us : List (String × Value)) (vs : Store),
      (∀ u ∈ us, u.1 ∈ s.plan.states.map (·.name) ∧ u.1 ∈ req) →
      { s with values := vs }.Agrees h (P ++ req) →
      { s with values := us.foldl (fun vs (u : String × Value) => vs.set u.1 u.2) vs }.Agrees h (P ++ req) from
    hsets us s.values hus (hag.mono fun x hx => List.mem_append_left _ hx)
  intro us
  induction us with
  | nil => exact fun _ _ hvs => hvs
  | cons u us ih =>
    intro vs hus hvs
    rw [List.foldl_cons]
    have hu := hus u List.mem_cons_self
    refine ih _ (fun u' hu' => hus u' (List.mem_cons_of_mem _ hu')) ?_
    exact InstanceState.Agrees.setInput (s := { s with values := vs }) (hcoh.congr (by rfl) (by rfl))
      (List.mem_append_left _ hu.1) (List.mem_append_right _ hu.2) (fun x hx => hx) hvs u.2

namespace Cursor.SoundExcept

variable {A : List String} {c : Cursor}

/-- A handler of the instance run from a sound cursor: the tree is sound except where the names
the handler requests reach as well. -/
theorem runHandler (hs : c.SoundExcept A) {hp : HandlerPlan} (hmem : hp ∈ c.self.plan.handlers) :
    Cursor.SoundExcept ((Eval.execAll c.self.values [] hp.body).2 ++ A)
      { c with self := { c.self with values := (Eval.execAll c.self.values [] hp.body).1 } } := by
  obtain ⟨hcoh, hag, hap, hns⟩ := hs
  refine ⟨hcoh.congr (by rfl) (by rfl), (hag.runHandler hcoh hmem).mono fun x hx => ?_, hap.of_self (by rfl) (by rfl),
    hns⟩
  simp only [List.mem_append] at hx ⊢
  rcases hx with (hx | hx) | hx
  · exact .inl hx
  · exact .inr (.inr hx)
  · exact .inr (.inl hx)

/-- Requested names made pending: what they reach is no longer set aside. -/
theorem request {names : List String} (hs : c.SoundExcept (names ++ A)) :
    Cursor.SoundExcept A
      { c with self := { c.self with pending := insertNames names c.self.pending } } := by
  obtain ⟨hcoh, hag, hap, hns⟩ := hs
  refine ⟨hcoh.congr (by rfl) (by rfl), (hag.mono fun x hx => ?_).of_self (by rfl) (by rfl) (by rfl),
    hap.of_self (by rfl) (by rfl), hns⟩
  simp only [List.mem_append, mem_insertNames] at hx ⊢
  rcases hx with hx | hx | hx
  · exact .inl (.inr hx)
  · exact .inl (.inl hx)
  · exact .inr hx

end Cursor.SoundExcept

/-- Writing the bindings that read a changed name changes only nodes the instance's bindings
write. -/
theorem Cursor.Confined.afterWrites (changed : List String) (c : Cursor) :
    c.Confined (Act.afterWrites changed c.self.plan.bindings c) := by
  refine ⟨rfl, rfl, fun _ hw => hw.of_self (by rfl) (by rfl), fun id hid => ?_⟩
  refine Act.node?_writeAll_of_not_mem _ _ _ fun b hb heq => hid ?_
  rw [← heq]
  exact .own (List.mem_filter.mp hb).1

/-- Once the bindings that read a changed name are written, an instance whose derived values are
fresh and whose other bindings are shown, except where its pending names and the names `A`
reach, agrees except there; the nested instances read none of the nodes written. -/
theorem soundExcept_afterWrites {c : Cursor} {A changed : List String} (hcoh : c.self.Coherent)
    (hpresent : ∀ b ∈ c.self.plan.bindings,
      (c.scene.host.node? (c.self.nodes.getD b.node 0)).isSome = true)
    (hderived : ∀ d ∈ c.self.plan.derived,
      (∀ y ∈ d.dependencies, ¬Affected c.self.plan.derived (c.self.pending ++ A) y) →
        c.self.Fresh d)
    (hbindings : ∀ b ∈ c.self.plan.bindings, b.dependencies.any changed.contains = false →
      (∀ y ∈ b.dependencies, ¬Affected c.self.plan.derived (c.self.pending ++ A) y) →
        c.self.Shown c.scene.host b)
    (hap : c.self.WritesApart c.children) (hns : ∀ ch ∈ c.children, ch.Sound c.scene.host) :
    (Act.afterWrites changed c.self.plan.bindings c).SoundExcept A := by
  refine ⟨hcoh.congr (by rfl) (by rfl), ⟨fun b hb => ?_, hderived, fun b hb hq => ?_⟩, hap.of_self (by rfl) (by rfl),
    fun ch hch => (hns ch hch).congr fun id hw => ?_⟩
  · rw [Act.afterWrites_host, Act.isSome_node?_writeAll]
    exact hpresent b hb
  · exact InstanceState.shown_writeAll hcoh hpresent hb fun hno => hbindings b hb hno hq
  · -- a nested instance writes none of the instance's binding nodes
    refine Act.node?_writeAll_of_not_mem _ _ _ fun b hb heq => ?_
    exact hap.own b (List.mem_filter.mp hb).1 ch hch (heq ▸ hw)

namespace Cursor.SoundExcept

variable {A : List String} {c : Cursor}

/-- From a sound cursor, writing the bindings that read any names keeps the tree sound. -/
theorem afterWrites (hs : c.SoundExcept A) (changed : List String) :
    (Act.afterWrites changed c.self.plan.bindings c).SoundExcept A :=
  soundExcept_afterWrites hs.1 hs.2.1.present hs.2.1.derived
    (fun b hb _ hq => hs.2.1.bindings b hb hq) hs.2.2.1 hs.2.2.2

/-- A pass from a sound cursor: with the derived values recomputed from the pending names and
none pending, once the bindings that read a changed name are written the tree is sound again,
except where the names `A` reach. -/
theorem afterPass (hs : c.SoundExcept A) :
    (Act.afterWrites (c.self.derivedPass c.self.pending).2
      (Instance.afterRecompute c).self.plan.bindings (Instance.afterRecompute c)).SoundExcept A := by
  obtain ⟨hcoh, hag, hap, hns⟩ := hs
  -- the pass changes the values only, and empties the pending names
  have hframe := InstanceState.derivedPass_frame c.self c.self.pending
  have hplan : (Instance.afterRecompute c).self.plan = c.self.plan := by
    simp only [Instance.afterRecompute]
    rw [hframe]
  have hnodes : (Instance.afterRecompute c).self.nodes = c.self.nodes := by
    simp only [Instance.afterRecompute]
    rw [hframe]
  obtain ⟨hfresh, hshown⟩ := InstanceState.Agrees.derivedPass hcoh hag
  refine soundExcept_afterWrites (hcoh.congr hplan hnodes) (fun b hb => ?_) (fun d hd hq => ?_)
    (fun b hb hno hq => ?_) (hap.of_self hplan hnodes) hns
  · rw [hplan] at hb
    rw [hnodes]
    exact hag.present b hb
  · rw [hplan] at hd hq
    exact hfresh d hd hq
  · rw [hplan] at hb hq
    exact hshown b hb hno hq

end Cursor.SoundExcept

/-- Recomputing the derived values keeps the instance's plan and node handles. -/
theorem Cursor.Confined.afterRecompute (c : Cursor) : c.Confined (Instance.afterRecompute c) := by
  have hframe := InstanceState.derivedPass_frame c.self c.self.pending
  refine .of_self ?_ ?_ <;> (simp only; rw [hframe])

namespace Act.KeepsSound

variable {A : List String}

/-- Names requested from a cursor sound except where they reach, made pending. -/
theorem request (names : List String) :
    KeepsSound (names ++ A) A
      (Act.modifySelf fun s => { s with pending := insertNames names s.pending }) := by
  intro c c' v h hs
  simp only [exec_modifySelf, Prod.mk.injEq] at h
  obtain ⟨-, rfl⟩ := h
  exact ⟨hs.request, .of_self (by rfl) (by rfl)⟩

/-- A pass keeps the tree sound when applying the changed names keeps it sound from where the
bindings that read them are written, and draining keeps it sound. -/
theorem passWith {apply : List String → Act Unit} {drain : Act Unit} (redrain : Bool)
    (happly : ∀ (changed : List String) (c c' : Cursor), exec (apply changed) c = (.ok (), c') →
      (Act.afterWrites changed c.self.plan.bindings c).SoundExcept A →
        c'.SoundExcept A ∧ c.Confined c')
    (hdrain : KeepsSound A A drain) : KeepsSound A A (Act.passWith apply drain redrain) := by
  intro c c' v h hs
  rw [exec_passWith_eq, exec_bind] at h
  split at h
  · rename_i u c₁ happ
    obtain ⟨hs₁, hc₁⟩ := happly _ _ _ happ hs.afterPass
    obtain ⟨hs', hc'⟩ := (bind hdrain fun _ => bind self fun _ => pure _) c₁ c' v h hs₁
    exact ⟨hs', ((Cursor.Confined.afterRecompute c).trans hc₁).trans hc'⟩
  · cases h

end Act.KeepsSound

/-! ## Every update operation -/

open Act

namespace Instance

/-- Every update operation at depth bound `d` keeps the tree sound when it succeeds. Applying
changes starts where the bindings that read a changed name are about to be written; a request
starts with the requested names not pending yet. -/
structure SoundAt (prog : Program) (d : Nat) : Prop where
  applyChanges : ∀ (A changed : List String) (c c' : Cursor),
    exec (applyChanges prog d changed) c = (.ok (), c') →
      (Act.afterWrites changed c.self.plan.bindings c).SoundExcept A →
        c'.SoundExcept A ∧ c.Confined c'
  updateProps : ∀ A props, KeepsSound A A (updateProps prog d props)
  requestUpdate : ∀ A names, KeepsSound (names ++ A) A (requestUpdate prog d names)
  flush : ∀ A, KeepsSound A A (flush prog d)
  dispatch : ∀ A key, KeepsSound A A (dispatch prog d key)
  route : ∀ A key, KeepsSound A A (route prog d key)
  drainFired : ∀ A, KeepsSound A A (drainFired prog d)
  collectOutbox : ∀ A index, KeepsSound A A (collectOutbox prog d index)

theorem soundAt_zero (prog : Program) : SoundAt prog 0 where
  applyChanges _ _ _ _ h := by
    rw [applyChanges] at h
    cases h
  updateProps _ _ := by rw [updateProps]; exact .tooDeep
  requestUpdate _ _ := by rw [requestUpdate]; exact .tooDeep
  flush _ := by rw [flush]; exact .tooDeep
  dispatch _ _ := by rw [dispatch]; exact .tooDeep
  route _ _ := by rw [route]; exact .tooDeep
  drainFired _ := by rw [drainFired]; exact .tooDeep
  collectOutbox _ _ := by rw [collectOutbox]; exact .tooDeep

section
variable {prog : Program} {d : Nat} (ih : SoundAt prog d) (A : List String)
include ih

theorem sound_applyChanges_succ (changed : List String) (c c' : Cursor)
    (h : exec (applyChanges prog (d + 1) changed) c = (.ok (), c'))
    (hs : (Act.afterWrites changed c.self.plan.bindings c).SoundExcept A) :
    c'.SoundExcept A ∧ c.Confined c' := by
  rw [exec_applyChanges, exec_writeBindings] at h
  obtain ⟨hs', hc'⟩ := KeepsSound.forwardProps changed (fun props => ih.updateProps [] props)
    (fun i => ih.collectOutbox A i) _ _ _ _ h hs
  exact ⟨hs', (Cursor.Confined.afterWrites changed c).trans hc'⟩

/-- Taking props sets only props, each listed as taken; the names taken are then requested. -/
theorem sound_updateProps_succ (props : Props) : KeepsSound A A (updateProps prog (d + 1) props) := by
  rw [updateProps]
  refine .bind .ensureMounted fun _ => .bind (.modifySelf fun _ => ⟨rfl, rfl, rfl, rfl⟩) fun _ =>
    .self_bind fun c c' v h hs => ?_
  have hframe := foldl_takeStep_frame props (c.self, [])
  obtain ⟨hcoh, hag, hap, hns⟩ := hs
  have htaken := hag.takeValueProps hcoh props
  unfold InstanceState.takeValueProps at htaken
  rcases ht : props.foldl InstanceState.takeStep (c.self, []) with ⟨s, names⟩
  rw [ht] at hframe htaken
  simp only at hframe htaken
  unfold InstanceState.takeValueProps at h
  rw [ht] at h
  dsimp only at h
  rw [exec_modifySelf_bind] at h
  have hp : s.plan = c.self.plan := by rw [hframe]
  have hn : s.nodes = c.self.nodes := by rw [hframe]
  have hpend : s.pending = c.self.pending := by rw [hframe]
  -- the props taken are set aside until the request makes them pending
  have hs₁ : Cursor.SoundExcept (names ++ A) { c with self := s } := by
    refine ⟨hcoh.congr hp hn, htaken.mono fun x hx => ?_, hap.of_self hp hn, hns⟩
    show x ∈ s.pending ++ (names ++ A)
    rw [hpend]
    simp only [List.mem_append] at hx ⊢
    rcases hx with (hx | hx) | hx
    · exact .inl hx
    · exact .inr (.inr hx)
    · exact .inr (.inl hx)
  have hc₁ : c.Confined { c with self := s } := .of_self hp hn
  split at h
  · obtain ⟨hs', hc'⟩ := ih.requestUpdate A names _ _ _ h hs₁
    exact ⟨hs', hc₁.trans hc'⟩
  · rename_i hempty
    simp only [exec_pure, Prod.mk.injEq] at h
    obtain ⟨-, rfl⟩ := h
    have hnil : names = [] := by simpa using hempty
    rw [hnil] at hs₁
    exact ⟨hs₁, hc₁⟩

theorem sound_requestUpdate_succ (names : List String) :
    KeepsSound (names ++ A) A (requestUpdate prog (d + 1) names) := by
  rw [requestUpdate]
  exact .bind .ensureMounted fun _ => .bind (.request names) fun _ =>
    .bind .self fun _ => .ite (ih.flush A) (.pure _)

/-- A flush runs passes while it is marked as flushing; it succeeds only when they all do. -/
theorem sound_flush_succ : KeepsSound A A (flush prog (d + 1)) := by
  intro c c' v h hs
  rw [exec_flush_succ] at h
  dsimp only at h
  obtain ⟨hr, rfl⟩ := Prod.mk.inj h
  have hrun := Act.exec_eq_of_fst hr
  obtain ⟨hs₁, hc₁⟩ := KeepsSound.repeatPass
    (KeepsSound.passWith _ (ih.applyChanges A) (ih.drainFired A)) _ _ _ _ _ _ hrun
    (hs.of_self (by rfl) (by rfl) (by rfl) (by rfl))
  exact ⟨hs₁.of_self (by rfl) (by rfl) (by rfl) (by rfl),
    ((Cursor.Confined.of_self (by rfl) (by rfl)).trans hc₁).trans (.of_self (by rfl) (by rfl))⟩

/-- A key of this instance runs its handler, which requests what it set; a key of a nested
instance is dispatched there, and the outbox of that instance is handled. -/
theorem sound_dispatch_succ (key : HandlerKey) : KeepsSound A A (dispatch prog (d + 1) key) := by
  rw [dispatch]
  refine .bind .ensureMounted fun _ => .self_bind fun c c' v h hs => ?_
  split at h
  · split at h
    · cases h
    · rename_i hp hhp
      rw [exec_modifySelf_bind] at h
      obtain ⟨hs', hc'⟩ := ih.requestUpdate A _ _ _ _ h (hs.runHandler (List.mem_of_getElem? hhp))
      exact ⟨hs', (Cursor.Confined.of_self (by rfl) (by rfl)).trans hc'⟩
  · rw [exec_get_bind] at h
    split at h
    · cases h
    · exact (KeepsSound.bind (.onChild (ih.dispatch [] key) _) fun _ => ih.collectOutbox A _)
        c c' v h hs

/-- Handling the outbox of a nested instance empties it, which changes nothing soundness reads,
then routes its keys. -/
theorem sound_collectOutbox_succ (index : Nat) :
    KeepsSound A A (collectOutbox prog (d + 1) index) := by
  rw [collectOutbox]
  refine .get_bind fun c c' v h hs => ?_
  split at h
  · exact KeepsSound.pure () c c' v h hs
  · rename_i gs gcs hg
    rw [exec_set_bind] at h
    obtain ⟨hcoh, hag, hap, hns⟩ := hs
    -- the nested instance with its outbox emptied writes the same nodes and is as sound
    have hkeeps : ∀ id, (Instance.node { gs with outbox := [] } gcs).Writes id →
        (Instance.node gs gcs).Writes id := fun _ hw => hw.of_self (by rfl) (by rfl)
    obtain ⟨hap₁, hns₁⟩ := @sound_set_child index c ⟨{ gs with outbox := [] }, gcs, c.scene⟩ gs gcs hg
      hkeeps (fun _ _ => rfl) (fun hsound => hsound.of_self (by rfl) (by rfl) (by rfl) (by rfl)) hap hns
    have hc₁ : c.Confined
        { c with children := c.children.set index (.node { gs with outbox := [] } gcs) } :=
      ⟨rfl, rfl, fun _ hw => hw.of_set hg hkeeps, fun _ _ => rfl⟩
    obtain ⟨hs', hc'⟩ := (KeepsSound.bind (.forIn fun key _ => .bind (ih.route A key) fun _ => .pure _)
      fun _ => .pure _) _ c' v h ⟨hcoh, hag, hap₁, hns₁⟩
    exact ⟨hs', hc₁.trans hc'⟩

end

/-- Every update operation keeps the tree sound when it succeeds, at every depth bound. -/
theorem soundAt (prog : Program) : ∀ d, SoundAt prog d
  | 0 => soundAt_zero prog
  | d + 1 => by
    have ih := soundAt prog d
    exact {
      applyChanges := sound_applyChanges_succ ih
      updateProps := fun A => sound_updateProps_succ ih A
      requestUpdate := fun A => sound_requestUpdate_succ ih A
      flush := sound_flush_succ ih
      dispatch := fun A => sound_dispatch_succ ih A
      route := fun A key => by
        rw [route]
        exact .bind .get fun _ => .ite (ih.dispatch A key) (.modifySelf fun _ => ⟨rfl, rfl, rfl, rfl⟩)
      drainFired := fun A => by
        rw [drainFired]
        exact .bind (.host fun _ => rfl) fun _ =>
          .bind (.forIn fun key _ => .bind (ih.route A key) fun _ => .pure _) fun _ => .pure _
      collectOutbox := fun A => sound_collectOutbox_succ ih A }

/-! ## Operations from outside -/

/-- Running a handler by name keeps the tree sound. -/
theorem keepsSound_fire (prog : Program) (A : List String) (name : String) :
    KeepsSound A A (fire prog name) := by
  rw [fire]
  refine .bind .self fun _ => ?_
  split
  · exact .throw _
  · exact (soundAt prog prog.eventDepth).dispatch A _

/-- Rewriting the bindings and forwarding the props that read some names keeps the tree sound. -/
theorem keepsSound_apply (prog : Program) (A names : List String) :
    KeepsSound A A (apply prog names) := by
  rw [apply]
  refine .bind .ensureMounted fun _ => ?_
  intro c c' v h hs
  exact (soundAt prog prog.eventDepth).applyChanges A _ c c' h (hs.afterWrites _)

theorem keepsSound_takeUnowned (A : List String) : KeepsSound A A takeUnowned :=
  .bind .self fun _ => .bind (.modifySelf fun _ => ⟨rfl, rfl, rfl, rfl⟩) fun _ => .pure _

end Instance

/-- Setting a state from outside: the tree is sound except where that name reaches as well. -/
theorem Cursor.SoundExcept.assign {A : List String} {c : Cursor} (hs : c.SoundExcept A)
    {name : String} (hstate : name ∈ c.self.plan.states.map (·.name)) (v : Value) :
    (Act.exec (Instance.assign name v) c).2.SoundExcept (A ++ [name]) := by
  obtain ⟨hcoh, hag, hap, hns⟩ := hs
  refine ⟨hcoh.congr (by rfl) (by rfl), ?_, hap.of_self (by rfl) (by rfl), hns⟩
  refine InstanceState.Agrees.setInput hcoh (List.mem_append_left _ hstate) (by simp)
    (fun x hx => ?_) hag v
  rw [← List.append_assoc]
  exact List.mem_append_left _ hx

end Reactive
