import Reactive.Proofs.Volatile.Plan
import Reactive.Proofs.Runtime.Agree

/-!
# Handlers request exactly what they may change

A compiled handler is its lowered body with every update request taken out, at every depth of
its conditionals, followed by one request for the names it *mutates*: those the body assigns,
then those it requested, each once. Running such a handler from any store with nothing requested
(`handler_requests_exactly_mutates`):

* requests exactly its mutated names, in their order and each once, whichever branches its
  conditionals take: the body left without requests asks for nothing, and the last request adds
  the mutated names, none of them twice;
* changes the value of no name it does not mutate: a statement binds only the name it assigns,
  and the names a body assigns are the same with its requests taken out.
-/

namespace Reactive

open Component

namespace Script

/-! ## Name lists without repeats -/

theorem nodup_addName {acc : List String} (h : acc.Nodup) (n : String) : (addName acc n).Nodup := by
  unfold addName
  split
  · exact h
  · rename_i hn
    have hn' : n ∉ acc := fun hmem => hn (List.contains_iff_mem.mpr hmem)
    exact List.nodup_append.mpr ⟨h, List.nodup_singleton n, fun a ha b hb => by
      rw [List.mem_singleton.mp hb]
      exact fun hab => hn' (hab ▸ ha)⟩

theorem nodup_addNames : ∀ {acc : List String} (ns : List String), acc.Nodup → (addNames acc ns).Nodup
  | _, [], h => h
  | _, n :: ns, h => nodup_addNames ns (nodup_addName h n)

/-- Adding names none of which is listed yet, nor repeated, appends them. -/
theorem addNames_eq_append : ∀ {acc : List String} (ns : List String), (acc ++ ns).Nodup →
    addNames acc ns = acc ++ ns
  | _, [], _ => by simp [addNames]
  | acc, n :: ns, h => by
    have hn : n ∉ acc := fun hmem =>
      (List.nodup_append.mp h).2.2 n hmem n List.mem_cons_self rfl
    have hadd : addName acc n = acc ++ [n] := by
      unfold addName
      rw [if_neg (fun hc => hn (List.contains_iff_mem.mp hc))]
    show addNames (addName acc n) ns = acc ++ n :: ns
    rw [hadd, addNames_eq_append ns (by simpa using h)]
    simp

mutual
theorem nodup_assignedInto : ∀ (b : List Stmt) {acc : List String}, acc.Nodup →
    (assignedInto acc b).Nodup
  | [], _, h => h
  | s :: rest, _, h => nodup_assignedInto rest (nodup_assignedOne s h)

theorem nodup_assignedOne : ∀ (s : Stmt) {acc : List String}, acc.Nodup → (assignedOne acc s).Nodup
  | .assign t _ _, _, h => nodup_addName h t
  | .update t _, _, h => nodup_addName h t
  | .cond _ a b, _, h => nodup_assignedInto b (nodup_assignedInto a h)
  | .eval _, _, h => h
  | .requestUpdate _, _, h => h
end

/-- What a handler mutates is listed without repeats. -/
theorem nodup_mutates (body : List Stmt) :
    (addNames (assignedNames body) (requestedNames body)).Nodup :=
  nodup_addNames _ (nodup_assignedInto body List.nodup_nil)

/-! ## Assigned names -/

mutual
theorem subset_assignedInto : ∀ (b : List Stmt) (acc : List String), acc ⊆ assignedInto acc b
  | [], _ => List.Subset.refl _
  | s :: rest, acc =>
    List.Subset.trans (subset_assignedOne s acc) (subset_assignedInto rest (assignedOne acc s))

theorem subset_assignedOne : ∀ (s : Stmt) (acc : List String), acc ⊆ assignedOne acc s
  | .assign _ _ _, _ => fun _ hx => mem_addName.mpr (.inl hx)
  | .update _ _, _ => fun _ hx => mem_addName.mpr (.inl hx)
  | .cond _ a b, acc =>
    List.Subset.trans (subset_assignedInto a acc) (subset_assignedInto b (assignedInto acc a))
  | .eval _, _ => List.Subset.refl _
  | .requestUpdate _, _ => List.Subset.refl _
end

mutual
/-- Taking the update requests out of a body keeps the names it assigns. -/
theorem assignedInto_withoutRequests : ∀ (b : List Stmt) (acc : List String),
    assignedInto acc (withoutRequests b) = assignedInto acc b
  | [], _ => rfl
  | .requestUpdate _ :: rest, acc => assignedInto_withoutRequests rest acc
  | .cond t a b :: rest, acc => by
    show assignedInto (assignedOne acc (withoutRequestsOne (.cond t a b))) (withoutRequests rest) =
      assignedInto (assignedOne acc (.cond t a b)) rest
    rw [assignedOne_withoutRequestsOne, assignedInto_withoutRequests rest]
  | .assign _ _ _ :: rest, _ => assignedInto_withoutRequests rest _
  | .update _ _ :: rest, _ => assignedInto_withoutRequests rest _
  | .eval _ :: rest, _ => assignedInto_withoutRequests rest _

theorem assignedOne_withoutRequestsOne : ∀ (s : Stmt) (acc : List String),
    assignedOne acc (withoutRequestsOne s) = assignedOne acc s
  | .cond t a b, acc => by
    show assignedInto (assignedInto acc (withoutRequests a)) (withoutRequests b) =
      assignedInto (assignedInto acc a) b
    rw [assignedInto_withoutRequests a, assignedInto_withoutRequests b]
  | .assign _ _ _, _ => rfl
  | .update _ _, _ => rfl
  | .eval _, _ => rfl
  | .requestUpdate _, _ => rfl
end

end Script

open Script

namespace Eval

/-! ## What running a body changes -/

-- The names `acc` are those assigned before the statements; a name outside what they and the
-- statements assign keeps its value.
mutual
theorem execAll_get?_of_not_mem {n : String} : ∀ (b : List Stmt) (store : Store)
    (req acc : List String), n ∉ assignedInto acc b → (execAll store req b).1.get? n = store.get? n
  | [], _, _, _, _ => rfl
  | s :: rest, store, req, acc, hn => by
    show (execAll (execOne store req s).1 (execOne store req s).2 rest).1.get? n = store.get? n
    rw [execAll_get?_of_not_mem rest _ _ (assignedOne acc s) hn,
      execOne_get?_of_not_mem s store req acc fun h => hn (subset_assignedInto rest _ h)]

theorem execOne_get?_of_not_mem {n : String} : ∀ (s : Stmt) (store : Store)
    (req acc : List String), n ∉ assignedOne acc s → (execOne store req s).1.get? n = store.get? n
  | .assign t op v, store, req, acc, hn => by
    have hne : n ≠ t := fun h => hn (mem_addName.mpr (.inr h))
    simp only [execOne]
    rw [Store.get?_set, if_neg hne]
  | .update t op, store, req, acc, hn => by
    have hne : n ≠ t := fun h => hn (mem_addName.mpr (.inr h))
    simp only [execOne]
    rw [Store.get?_set, if_neg hne]
  | .cond c a b, store, req, acc, hn => by
    simp only [execOne]
    split
    · exact execAll_get?_of_not_mem a store req acc fun h => hn (subset_assignedInto b _ h)
    · exact execAll_get?_of_not_mem b store req (assignedInto acc a) hn
  | .eval _, _, _, _, _ => rfl
  | .requestUpdate _, _, _, _, _ => rfl
end

-- A run of statements sets values one after another, each of a name they assign; `acc` holds the
-- names assigned before them.
mutual
theorem execAll_sets : ∀ (b : List Stmt) (store : Store) (req acc : List String),
    ∃ us : List (String × Value), (∀ u ∈ us, u.1 ∈ assignedInto acc b) ∧
      (execAll store req b).1 = us.foldl (fun vs u => vs.set u.1 u.2) store
  | [], _, _, _ => ⟨[], fun _ h => absurd h List.not_mem_nil, rfl⟩
  | s :: rest, store, req, acc => by
    obtain ⟨us₁, hmem₁, h₁⟩ := execOne_sets s store req acc
    obtain ⟨us₂, hmem₂, h₂⟩ :=
      execAll_sets rest (execOne store req s).1 (execOne store req s).2 (assignedOne acc s)
    refine ⟨us₁ ++ us₂, fun u hu => ?_, ?_⟩
    · rcases List.mem_append.mp hu with hu | hu
      · exact subset_assignedInto rest _ (hmem₁ u hu)
      · exact hmem₂ u hu
    · show (execAll (execOne store req s).1 (execOne store req s).2 rest).1 = _
      rw [h₂, h₁, List.foldl_append]

theorem execOne_sets : ∀ (s : Stmt) (store : Store) (req acc : List String),
    ∃ us : List (String × Value), (∀ u ∈ us, u.1 ∈ assignedOne acc s) ∧
      (execOne store req s).1 = us.foldl (fun vs u => vs.set u.1 u.2) store
  | .assign t _ _, _, _, _ =>
    ⟨[(t, _)], fun u hu => by rw [List.mem_singleton.mp hu]; exact mem_addName.mpr (.inr rfl), rfl⟩
  | .update t _, _, _, _ =>
    ⟨[(t, _)], fun u hu => by rw [List.mem_singleton.mp hu]; exact mem_addName.mpr (.inr rfl), rfl⟩
  | .cond c a b, store, req, acc => by
    simp only [execOne]
    split
    · obtain ⟨us, hmem, h⟩ := execAll_sets a store req acc
      exact ⟨us, fun u hu => subset_assignedInto b _ (hmem u hu), h⟩
    · exact execAll_sets b store req (assignedInto acc a)
  | .eval _, _, _, _ => ⟨[], fun _ h => absurd h List.not_mem_nil, rfl⟩
  | .requestUpdate _, _, _, _ => ⟨[], fun _ h => absurd h List.not_mem_nil, rfl⟩
end

/-- A request at the end of a body changes no value. -/
theorem execAll_request_fst (b : List Stmt) (ns : List String) (store : Store)
    (req : List String) :
    (execAll store req (b ++ [.requestUpdate ns])).1 = (execAll store req b).1 := by
  rw [execAll_append]
  rfl

/-- A handler body leaves the same values whether or not a request follows it. -/
theorem execAll_request_ite_fst (p : Bool) (b : List Stmt) (ns : List String) (store : Store)
    (req : List String) :
    (execAll store req (if p then b else b ++ [.requestUpdate ns])).1 = (execAll store req b).1 := by
  split
  · rfl
  · exact execAll_request_fst b ns store req

end Eval

/-! ## Compiled handlers -/

/-- The handlers of a compiled plan: each is a lowered body without its update requests, followed
by one request for what it mutates unless that is nothing, and it mutates what the body assigns
and then what it requests. -/
theorem planComponent_handler {c : ComponentSource} {plan : ComponentPlan}
    (h : planComponent c = .ok plan) {hp : HandlerPlan} (hmem : hp ∈ plan.handlers) :
    ∃ lowered, hp.mutates = addNames (assignedNames lowered) (requestedNames lowered) ∧
      hp.body = if hp.mutates.isEmpty then withoutRequests lowered
        else withoutRequests lowered ++ [.requestUpdate hp.mutates] := by
  obtain ⟨m, order, b, hm, -, -, hplan⟩ := planComponent_ok h
  rw [hplan] at hmem
  obtain ⟨hd, hhd, rfl⟩ := List.mem_map.mp hmem
  obtain ⟨lowered, hbody, hmut⟩ := (build_handlers hm).2 hd hhd
  exact ⟨lowered, hmut, by rw [hbody]⟩

/-- A handler of a compiled plan, run from any store with nothing requested, requests what it
mutates: the one request at its end, or nothing when it mutates nothing. -/
theorem execAll_handler_requested {c : ComponentSource} {plan : ComponentPlan}
    (h : planComponent c = .ok plan) {hp : HandlerPlan} (hmem : hp ∈ plan.handlers)
    (store : Store) : (Eval.execAll store [] hp.body).2 = hp.mutates := by
  obtain ⟨lowered, hmut, hbody⟩ := planComponent_handler h hmem
  have hnodup : hp.mutates.Nodup := hmut ▸ nodup_mutates lowered
  rw [hbody]
  split
  · rename_i hempty
    rw [Eval.execAll_withoutRequests, (List.isEmpty_iff.mp hempty)]
  · rw [Eval.execAll_withoutRequests_request, addNames_eq_append _ (by simpa using hnodup)]
    rfl

/-- Every handler of a compiled plan, run from any store with nothing requested, requests exactly
the names it mutates, in order and each once, whichever branches its conditionals take; and every
name whose value the run changes is one it mutates. -/
theorem handler_requests_exactly_mutates {c : ComponentSource} {plan : ComponentPlan}
    (h : planComponent c = .ok plan) (hp : HandlerPlan) (hmem : hp ∈ plan.handlers)
    (store : Store) :
    hp.mutates.Nodup ∧ (Eval.execAll store [] hp.body).2 = hp.mutates ∧
      ∀ n, (Eval.execAll store [] hp.body).1.get? n ≠ store.get? n → n ∈ hp.mutates := by
  obtain ⟨lowered, hmut, hbody⟩ := planComponent_handler h hmem
  -- whether or not the request is there, the values are those the body without requests leaves
  have hvalues : (Eval.execAll store [] hp.body).1 =
      (Eval.execAll store [] (withoutRequests lowered)).1 := by
    rw [hbody]
    exact Eval.execAll_request_ite_fst _ _ _ _ _
  refine ⟨hmut ▸ nodup_mutates lowered, execAll_handler_requested h hmem store, fun n hn => ?_⟩
  · by_contra hnot
    have hassigned : n ∉ assignedInto [] (withoutRequests lowered) := by
      rw [assignedInto_withoutRequests]
      exact fun ha => hnot (hmut ▸ mem_addNames.mpr (.inl ha))
    exact hn (hvalues ▸ Eval.execAll_get?_of_not_mem _ store [] [] hassigned)

/-- A switch whose handler assigns in both branches of a conditional and, in one of them, also
requests an update for a name it assigns. -/
def switchSource : ComponentSource where
  name := "Switch"
  filePath := "src/Switch.comp"
  states := [⟨"on", "false"⟩, ⟨"flips", "0"⟩]
  derived := []
  handlers := [⟨"flip", "if (on) \x7b on = false; \x7d else \x7b on = true; flips++; requestUpdate(['flips']); \x7d"⟩]
  props := []
  callbacks := []
  nodes := [.element "button" [] [⟨"click", "flip"⟩] [.expression "flips"]]

theorem switch_handler_requests_exactly_mutates :
    ∃ plan, planComponent switchSource = .ok plan ∧ ∃ hp ∈ plan.handlers, ∀ store : Store,
      hp.mutates.Nodup ∧ (Eval.execAll store [] hp.body).2 = hp.mutates ∧
        ∀ n, (Eval.execAll store [] hp.body).1.get? n ≠ store.get? n → n ∈ hp.mutates := by
  have hok : (planComponent switchSource).toOption.map (·.handlers.length) = some 1 := by
    decide +kernel
  cases hc : planComponent switchSource with
  | error e => rw [hc] at hok; cases hok
  | ok plan =>
    rw [hc] at hok
    have hlen : plan.handlers.length = 1 := Option.some.inj hok
    obtain ⟨hp, hmem⟩ : ∃ hp, hp ∈ plan.handlers := by
      cases hs : plan.handlers with
      | nil => rw [hs] at hlen; cases hlen
      | cons hp _ => exact ⟨hp, List.mem_cons_self⟩
    exact ⟨plan, rfl, hp, hmem, handler_requests_exactly_mutates hc hp hmem⟩

/- The handler mutates what it assigns, in order, and requests both names whichever branch runs. -/
example : (planComponent switchSource).toOption.map (·.handlers.map (·.mutates)) =
    some [["on", "flips"]] := by decide +kernel

end Reactive
