import Mathlib.Logic.Basic
import Mathlib.Data.List.Forall2

/-!
# Runs of computations with a state that may fail

Template walks, the composition search and the reachability check of a program all run in a
state monad over `Except`. `Spec P x Q E` says what a run of `x` does from any state satisfying
`P`: it succeeds with a result and a state satisfying `Q`, or it fails with an error satisfying
`E`. The rules below carry such statements through `pure`, `bind`, reading and changing the
state, failures and loops over lists, so that proofs about these walks follow their code step by
step, with an invariant for each loop.
-/

namespace Reactive

/-- Every run of `x` from a state satisfying `P` succeeds with a result and a state satisfying
`Q`, or fails with an error satisfying `E`. -/
def Spec {σ ε α : Type} (P : σ → Prop) (x : StateT σ (Except ε) α) (Q : α → σ → Prop)
    (E : ε → Prop) : Prop :=
  ∀ s, P s → match x.run s with
    | .ok (a, s') => Q a s'
    | .error e => E e

namespace Spec

variable {σ ε α β γ : Type} {P P' : σ → Prop} {Q Q' : α → σ → Prop} {E E' : ε → Prop}

/-- A successful run of a computation that meets a specification ends as it says. -/
theorem of_ok {x : StateT σ (Except ε) α} (hx : Spec P x Q E) {s s' : σ} {a : α} (hs : P s)
    (hrun : x.run s = .ok (a, s')) : Q a s' := by
  have h := hx s hs
  rw [hrun] at h
  exact h

/-- A failed run of a computation that meets a specification fails as it says. -/
theorem of_error {x : StateT σ (Except ε) α} (hx : Spec P x Q E) {s : σ} {e : ε} (hs : P s)
    (hrun : x.run s = .error e) : E e := by
  have h := hx s hs
  rw [hrun] at h
  exact h

theorem mono {x : StateT σ (Except ε) α} (hx : Spec P x Q E) (hP : ∀ s, P' s → P s)
    (hQ : ∀ a s, Q a s → Q' a s) (hE : ∀ e, E e → E' e) : Spec P' x Q' E' := by
  intro s hs
  have h := hx s (hP s hs)
  revert h
  cases x.run s with
  | ok p => exact hQ p.1 p.2
  | error e => exact hE e

/-- Nothing needs proving of runs from no state. -/
theorem of_false {x : StateT σ (Except ε) α} : Spec (fun _ => False) x Q E := fun _ h => h.elim

theorem pure (a : α) (h : ∀ s, P s → Q a s) : Spec P (Pure.pure a) Q E := h

theorem bind {x : StateT σ (Except ε) α} {f : α → StateT σ (Except ε) β} {R : α → σ → Prop}
    {Q : β → σ → Prop} (hx : Spec P x R E) (hf : ∀ a, Spec (R a) (f a) Q E) :
    Spec P (x >>= f) Q E := by
  intro s hs
  have h := hx s hs
  simp only [StateT.run_bind]
  revert h
  cases x.run s with
  | ok p => exact hf p.1 p.2
  | error e => exact id

theorem get : Spec P (MonadState.get : StateT σ (Except ε) σ) (fun a s => P s ∧ a = s) E :=
  fun _ hs => ⟨hs, rfl⟩

theorem change (f : σ → σ) :
    Spec P (modify f : StateT σ (Except ε) PUnit) (fun _ s' => ∃ s, P s ∧ s' = f s) E :=
  fun s hs => ⟨s, hs, rfl⟩

theorem set (s' : σ) :
    Spec P (MonadStateOf.set s' : StateT σ (Except ε) PUnit) (fun _ s => s = s' ∧ ∃ s₀, P s₀) E :=
  fun s hs => ⟨rfl, s, hs⟩

/-- A specification may be proved one starting state at a time. -/
theorem of_forall {x : StateT σ (Except ε) α} (h : ∀ s₀, P s₀ → Spec (fun s => s = s₀) x Q E) :
    Spec P x Q E :=
  fun s hs => h s hs s rfl

theorem throw (e : ε) (he : E e) : Spec P (MonadExcept.throw e : StateT σ (Except ε) α) Q E :=
  fun _ _ => he

/-- A loop whose body always goes on: an invariant of the part of the list done so far. -/
theorem forIn_yield {xs : List γ} {b : β} {body : γ → β → StateT σ (Except ε) (ForInStep β)}
    (I : List γ → β → σ → Prop)
    (hbody : ∀ pre x post, xs = pre ++ x :: post → ∀ b,
      Spec (I pre b) (body x b) (fun r s => ∃ b', r = .yield b' ∧ I (pre ++ [x]) b' s) E) :
    Spec (I [] b) (forIn xs b body) (I xs) E := by
  -- the loop over the rest of the list, from the part already done
  suffices h : ∀ post pre b, xs = pre ++ post → Spec (I pre b) (forIn post b body) (I xs) E from
    h xs [] b rfl
  intro post
  induction post with
  | nil =>
    intro pre b hxs
    simp only [List.append_nil] at hxs
    subst hxs
    exact pure b fun _ hs => hs
  | cons x post ih =>
    intro pre b hxs
    rw [List.forIn_cons]
    refine bind (hbody pre x post hxs b) fun r => ?_
    intro s ⟨b', hr, hs⟩
    subst hr
    exact ih (pre ++ [x]) b' (by simp [hxs]) s hs

end Spec

/-! ## Checks in a loop -/

section
variable {ε α : Type}

/-- A loop of checks succeeds exactly when each check does. -/
theorem forIn_checks_ok {xs : List α} {f : α → Except ε PUnit} :
    forIn xs PUnit.unit (fun x _ => do f x; pure (ForInStep.yield PUnit.unit)) = .ok PUnit.unit ↔
      ∀ x ∈ xs, f x = .ok PUnit.unit := by
  induction xs with
  | nil => exact ⟨fun _ _ h => absurd h List.not_mem_nil, fun _ => rfl⟩
  | cons x xs ih =>
    rw [List.forIn_cons]
    cases hx : f x with
    | error e =>
      refine ⟨fun h => ?_, fun h => ?_⟩
      · cases h
      · rw [h x List.mem_cons_self] at hx
        cases hx
    | ok u =>
      change forIn xs PUnit.unit (fun x _ => do f x; pure (ForInStep.yield PUnit.unit)) =
        .ok PUnit.unit ↔ _
      rw [ih]
      refine ⟨fun h y hy => ?_, fun h y hy => h y (List.mem_cons_of_mem _ hy)⟩
      rcases List.mem_cons.mp hy with rfl | hy
      · exact hx
      · exact h y hy

/-- A loop of checks fails with the failure of one of them. -/
theorem forIn_checks_error {xs : List α} {f : α → Except ε PUnit} {e : ε}
    (h : forIn xs PUnit.unit (fun x _ => do f x; pure (ForInStep.yield PUnit.unit)) = .error e) :
    ∃ x ∈ xs, f x = .error e := by
  induction xs with
  | nil => cases h
  | cons x xs ih =>
    rw [List.forIn_cons] at h
    revert h
    cases hx : f x with
    | error e' =>
      intro h
      cases h
      exact ⟨x, List.mem_cons_self, hx⟩
    | ok u =>
      intro h
      change forIn xs PUnit.unit (fun x _ => do f x; pure (ForInStep.yield PUnit.unit)) = _ at h
      obtain ⟨y, hy, hfy⟩ := ih h
      exact ⟨y, List.mem_cons_of_mem _ hy, hfy⟩

end

end Reactive
