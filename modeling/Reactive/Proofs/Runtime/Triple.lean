import Reactive.Proofs.Runtime.Exec
import Mathlib.Data.List.Forall2

/-!
# Triples for instance operations

`Act.Triple P a Q E` says what every run of an operation does from a cursor satisfying `P`: it
succeeds with a value and a cursor satisfying `Q`, or fails with an error and a cursor satisfying
`E`. A failure keeps the changes made before it, so `E` speaks of the cursor too; with `E` false
a triple says that the operation does not fail.

The rules carry triples through the monad, the cursor and host primitives and loops over lists,
so that proofs about mount and unmount follow their code line by line with one invariant per loop.
-/

namespace Reactive

open Component

namespace Act

/-- Every run of `a` from a cursor satisfying `P` succeeds with a value and a cursor satisfying
`Q`, or fails with an error and a cursor satisfying `E`. -/
def Triple {α : Type} (P : Cursor → Prop) (a : Act α) (Q : α → Cursor → Prop)
    (E : InstanceError → Cursor → Prop) : Prop :=
  ∀ c, P c → match exec a c with
    | (.ok v, c') => Q v c'
    | (.error e, c') => E e c'

namespace Triple

variable {α β γ : Type} {P P' : Cursor → Prop} {Q Q' : α → Cursor → Prop}
  {E E' : InstanceError → Cursor → Prop}

/-- A successful run of an operation that meets a triple ends as it says. -/
theorem of_ok {a : Act α} (ha : Triple P a Q E) {c c' : Cursor} {v : α} (hc : P c)
    (hrun : exec a c = (.ok v, c')) : Q v c' := by
  have h := ha c hc
  rw [hrun] at h
  exact h

/-- A failed run of an operation that meets a triple fails as it says. -/
theorem of_error {a : Act α} (ha : Triple P a Q E) {c c' : Cursor} {e : InstanceError}
    (hc : P c) (hrun : exec a c = (.error e, c')) : E e c' := by
  have h := ha c hc
  rw [hrun] at h
  exact h

/-- An operation that cannot fail from a cursor succeeds there. -/
theorem exists_ok {a : Act α} (ha : Triple P a Q fun _ _ => False) {c : Cursor} (hc : P c) :
    ∃ v c', exec a c = (.ok v, c') ∧ Q v c' := by
  have h := ha c hc
  revert h
  rcases exec a c with ⟨r, c'⟩
  cases r with
  | ok v => exact fun h => ⟨v, c', rfl, h⟩
  | error e => exact False.elim

theorem mono {a : Act α} (ha : Triple P a Q E) (hP : ∀ c, P' c → P c)
    (hQ : ∀ v c, Q v c → Q' v c) (hE : ∀ e c, E e c → E' e c) : Triple P' a Q' E' := by
  intro c hc
  have h := ha c (hP c hc)
  revert h
  rcases exec a c with ⟨r, c'⟩
  cases r with
  | ok v => exact hQ v c'
  | error e => exact hE e c'

/-- Nothing needs proving of runs from no cursor. -/
theorem of_false {a : Act α} : Triple (fun _ => False) a Q E := fun _ h => h.elim

/-- A triple may be proved one starting cursor at a time. -/
theorem of_forall {a : Act α} (h : ∀ c₀, P c₀ → Triple (fun c => c = c₀) a Q E) :
    Triple P a Q E :=
  fun c hc => h c hc c rfl

/-- A precondition that is a fact apart from the cursor may be taken first. -/
theorem of_imp {a : Act α} {p : Prop} (h : p → Triple P a Q E) :
    Triple (fun c => p ∧ P c) a Q E :=
  fun c hc => h hc.1 c hc.2

theorem pure (v : α) (h : ∀ c, P c → Q v c) : Triple P (Pure.pure v) Q E := h

theorem bind {x : Act α} {f : α → Act β} {R : α → Cursor → Prop} {Q : β → Cursor → Prop}
    (hx : Triple P x R E) (hf : ∀ v, Triple (R v) (f v) Q E) : Triple P (x >>= f) Q E := by
  intro c hc
  have h := hx c hc
  rw [exec_bind]
  revert h
  rcases exec x c with ⟨r, c'⟩
  cases r with
  | ok v => exact hf v c'
  | error e => exact id

/-- A sequence whose first part keeps an invariant and whose second part meets a triple from
it. -/
theorem seq {x : Act PUnit} {y : Act β} {R : Cursor → Prop} {Q : β → Cursor → Prop}
    (hx : Triple P x (fun _ => R) E) (hy : Triple R y Q E) : Triple P (x >>= fun _ => y) Q E :=
  bind hx fun _ => hy

theorem get : Triple P (MonadState.get : Act Cursor) (fun v c => P c ∧ v = c) E :=
  fun _ hc => ⟨hc, rfl⟩

theorem set (c' : Cursor) :
    Triple P (MonadStateOf.set c' : Act PUnit) (fun _ c => c = c' ∧ ∃ c₀, P c₀) E :=
  fun c hc => ⟨rfl, c, hc⟩

theorem change (f : Cursor → Cursor) :
    Triple P (modify f : Act PUnit) (fun _ c' => ∃ c, P c ∧ c' = f c) E :=
  fun c hc => ⟨c, hc, rfl⟩

theorem throw (e : InstanceError) (he : ∀ c, P c → E e c) :
    Triple P (MonadExcept.throw e : Act α) Q E :=
  he

theorem self : Triple P Act.self (fun v c => P c ∧ v = c.self) E :=
  fun _ hc => ⟨hc, rfl⟩

theorem modifySelf (f : InstanceState → InstanceState) :
    Triple P (Act.modifySelf f) (fun _ c' => ∃ c, P c ∧ c' = { c with self := f c.self }) E :=
  fun c hc => ⟨c, hc, rfl⟩

theorem onHost (f : Host → Host) :
    Triple P (Act.onHost f)
      (fun _ c' => ∃ c, P c ∧ c' = { c with scene := { c.scene with host := f c.scene.host } })
      E :=
  fun c hc => ⟨c, hc, rfl⟩

theorem host (f : Host → α × Host) :
    Triple P (Act.host f) (fun v c' => ∃ c, P c ∧ v = (f c.scene.host).1 ∧
      c' = { c with scene := { c.scene with host := (f c.scene.host).2 } }) E :=
  fun c hc => ⟨c, hc, rfl, rfl⟩

theorem freshId : Triple P Act.freshId (fun v c' => ∃ c, P c ∧ v = c.scene.nextInstance ∧
    c' = { c with scene := { c.scene with nextInstance := c.scene.nextInstance + 1 } }) E :=
  fun c hc => ⟨c, hc, rfl, rfl⟩

theorem write (index : Nat) (target : BindingTarget) (value : String) :
    Triple P (Act.write index target value) (fun _ c' => ∃ c, P c ∧ c' =
      { self := { c.self with stats := { c.self.stats with
                    bindingWrites := c.self.stats.bindingWrites + 1 } },
        children := c.children,
        scene := { c.scene with
          host := hostWrite c.scene.host (c.self.nodes.getD index 0) target value } }) E := by
  intro c hc
  rw [exec_write]
  exact ⟨c, hc, rfl⟩

/-- A check that fails with an error only when a condition holds. -/
theorem check {b : Bool} {e : InstanceError} (he : ∀ c, P c → b = true → E e c) :
    Triple P (if b then MonadExcept.throw e else Pure.pure PUnit.unit : Act PUnit)
      (fun _ c => P c ∧ b = false) E := by
  cases b with
  | true => exact throw e fun c hc => he c hc rfl
  | false => exact pure _ fun c hc => ⟨hc, rfl⟩

/-- A loop whose body always goes on: an invariant of the part of the list done so far. -/
theorem forIn_yield {xs : List γ} {b : β} {body : γ → β → Act (ForInStep β)}
    (I : List γ → β → Cursor → Prop)
    (hbody : ∀ pre x post, xs = pre ++ x :: post → ∀ b,
      Triple (I pre b) (body x b) (fun r c => ∃ b', r = .yield b' ∧ I (pre ++ [x]) b' c) E) :
    Triple (I [] b) (forIn xs b body) (I xs) E := by
  -- the loop over the rest of the list, from the part already done
  suffices h : ∀ post pre b, xs = pre ++ post → Triple (I pre b) (forIn post b body) (I xs) E from
    h xs [] b rfl
  intro post
  induction post with
  | nil =>
    intro pre b hxs
    simp only [List.append_nil] at hxs
    subst hxs
    exact pure b fun _ hc => hc
  | cons x post ih =>
    intro pre b hxs
    rw [List.forIn_cons]
    refine bind (hbody pre x post hxs b) fun r => ?_
    intro c ⟨b', hr, hc⟩
    subst hr
    exact ih (pre ++ [x]) b' (by simp [hxs]) c hc

/-- A map whose steps keep an invariant and relate each element to its image. -/
theorem mapM {xs : List γ} {f : γ → Act β} {I : Cursor → Prop} {R : γ → β → Prop}
    (hf : ∀ x ∈ xs, Triple I (f x) (fun y c => I c ∧ R x y) E) :
    Triple I (xs.mapM f) (fun ys c => I c ∧ List.Forall₂ R xs ys) E := by
  induction xs with
  | nil => exact pure [] fun c hc => ⟨hc, List.Forall₂.nil⟩
  | cons x xs ih =>
    rw [List.mapM_cons]
    refine bind (hf x List.mem_cons_self) fun y => ?_
    refine mono (P := fun c => R x y ∧ I c) ?_ (fun c hc => ⟨hc.2, hc.1⟩) (fun _ _ h => h)
      (fun _ _ h => h)
    refine of_imp fun hy => bind (ih fun x hx => hf x (List.mem_cons_of_mem _ hx)) fun ys => ?_
    exact pure _ fun c ⟨hc, hys⟩ => ⟨hc, List.Forall₂.cons hy hys⟩

end Triple

end Act

end Reactive
