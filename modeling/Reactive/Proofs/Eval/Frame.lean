import Reactive.Eval

/-!
# Evaluation reads only free names

An expression's value depends on the store only through the names it reads freely: two stores
that agree on every free name of an expression (each such name unbound in both, or bound to the
same value in both) give it the same value (`eval_eq_of_agree_freeNames`).

The proof walks every form of expression at once, together with lists of arguments, method calls
on an evaluated receiver and lambdas applied to items. It carries the parameters of the lambdas
in scope: the free-name walk skips a name bound by an enclosing lambda, and evaluation finds that
name among the parameters before it looks at the store. `Math` and `console` are free names like
any other, so whether they are bound, which decides a call of `Math.max` or `console.log`, is
the same in both stores.
-/

namespace Reactive

open Script

namespace Store

/-- A name is bound exactly when it has a value. -/
theorem contains_eq_isSome_get? (s : Store) (n : String) : s.contains n = (s.get? n).isSome := by
  unfold contains get?
  rw [Option.isSome_map]
  cases h : s.entries.find? (fun p => p.1 == n) with
  | none =>
    rw [List.find?_eq_none] at h
    simpa using h
  | some p =>
    have hp := List.find?_some h
    have hmem := List.mem_of_find?_eq_some h
    simp only [Option.isSome_some, List.any_eq_true]
    exact ⟨p, hmem, hp⟩

end Store

/-! ## Free names -/

namespace Script

theorem subset_addName (acc : List String) (n : String) : acc ⊆ addName acc n := by
  unfold addName
  split
  · exact List.Subset.refl _
  · exact List.subset_append_left _ _

mutual
/-- The free-name walk only adds to the names it started from. -/
theorem Expr.subset_freeInto : ∀ (e : Expr) (bound acc : List String), acc ⊆ e.freeInto bound acc
  | .undefined, _, _ => List.Subset.refl _
  | .null, _, _ => List.Subset.refl _
  | .bool _, _, _ => List.Subset.refl _
  | .number _, _, _ => List.Subset.refl _
  | .str _, _, _ => List.Subset.refl _
  | .ident n, bound, acc => by
    rw [Expr.freeInto]
    split
    · exact List.Subset.refl _
    · exact subset_addName acc n
  | .template _ es, bound, acc => subset_freeIntoList es bound acc
  | .array es, bound, acc => subset_freeIntoList es bound acc
  | .unary _ a, bound, acc => a.subset_freeInto bound acc
  | .binary _ l r, bound, acc =>
    List.Subset.trans (l.subset_freeInto bound acc) (r.subset_freeInto bound _)
  | .logical _ l r, bound, acc =>
    List.Subset.trans (l.subset_freeInto bound acc) (r.subset_freeInto bound _)
  | .cond c a b, bound, acc =>
    List.Subset.trans (c.subset_freeInto bound acc)
      (List.Subset.trans (a.subset_freeInto bound _) (b.subset_freeInto bound _))
  | .callFn _ args, bound, acc => subset_freeIntoList args bound acc
  | .callMethod recv _ args, bound, acc =>
    List.Subset.trans (recv.subset_freeInto bound acc) (subset_freeIntoList args bound _)
  | .member o _, bound, acc => o.subset_freeInto bound acc
  | .index o i, bound, acc =>
    List.Subset.trans (o.subset_freeInto bound acc) (i.subset_freeInto bound _)
  | .lambda ps body, bound, acc => body.subset_freeInto (bound ++ ps) acc

theorem subset_freeIntoList : ∀ (es : List Expr) (bound acc : List String),
    acc ⊆ freeIntoList bound acc es
  | [], _, _ => List.Subset.refl _
  | e :: es, bound, acc =>
    List.Subset.trans (e.subset_freeInto bound acc) (subset_freeIntoList es bound _)
end

/-- A name read by the walk is either bound by an enclosing lambda or collected. -/
theorem mem_freeInto_ident {n : String} {bound acc : List String} (hn : n ∉ bound) :
    n ∈ (Expr.ident n).freeInto bound acc := by
  rw [Expr.freeInto, if_neg (by simpa using hn), addName]
  split
  · simpa using ‹acc.contains n = true›
  · exact List.mem_append_right _ (List.mem_singleton_self n)

end Script

/-! ## Lambda parameters in scope -/

namespace Eval

/-- Binding parameters keeps the names already bound and binds every parameter. -/
theorem mem_bindParams {n : String} : ∀ (acc : List (String × Value)) (ps : List String)
    (args : List Value), n ∈ acc.map Prod.fst ∨ n ∈ ps → n ∈ (bindParams acc ps args).map Prod.fst
  | _, [], _, h => h.resolve_right List.not_mem_nil
  | acc, p :: ps, [], h => by
    rw [bindParams]
    refine mem_bindParams _ ps [] ?_
    rcases h with h | h
    · exact .inl (List.mem_cons_of_mem _ h)
    · rcases List.mem_cons.mp h with rfl | h
      · exact .inl List.mem_cons_self
      · exact .inr h
  | acc, p :: ps, a :: as, h => by
    rw [bindParams]
    refine mem_bindParams _ ps as ?_
    rcases h with h | h
    · exact .inl (List.mem_cons_of_mem _ h)
    · rcases List.mem_cons.mp h with rfl | h
      · exact .inl List.mem_cons_self
      · exact .inr h

section
variable (s t : Store) {locals : List (String × Value)} {n : String}

/-- A name not among the parameters is looked up in the store; one among them is not. -/
theorem lookup_congr (h : n ∉ locals.map Prod.fst → s.get? n = t.get? n) :
    lookup s locals n = lookup t locals n := by
  unfold lookup
  cases hf : locals.find? (fun p => p.1 == n) with
  | some p => rfl
  | none =>
    have hn : n ∉ locals.map Prod.fst := by
      intro hn
      obtain ⟨p, hp, rfl⟩ := List.mem_map.mp hn
      simpa using List.find?_eq_none.mp hf p hp
    rw [h hn]

theorem isBound_congr (h : n ∉ locals.map Prod.fst → s.get? n = t.get? n) :
    isBound s locals n = isBound t locals n := by
  unfold isBound
  by_cases hn : n ∈ locals.map Prod.fst
  · have hany : locals.any (fun p => p.1 == n) = true := by
      obtain ⟨p, hp, rfl⟩ := List.mem_map.mp hn
      exact List.any_eq_true.mpr ⟨p, hp, beq_self_eq_true _⟩
    rw [hany, Bool.true_or, Bool.true_or]
  · rw [Store.contains_eq_isSome_get?, Store.contains_eq_isSome_get?, h hn]

/-- A method call on a receiver written as a name reads that name like the name itself; on any
other receiver it reads what the receiver reads. -/
theorem evalExpr_callMethod_congr {recv : Expr} {m : String} {args : List Expr}
    (hrecv : evalExpr s locals recv = evalExpr t locals recv)
    (hlist : evalList s locals args = evalList t locals args)
    (hargs : ∀ v, methodOn s locals v m args = methodOn t locals v m args)
    (hname : ∀ n, recv = .ident n → n ∉ locals.map Prod.fst → s.get? n = t.get? n) :
    evalExpr s locals (.callMethod recv m args) = evalExpr t locals (.callMethod recv m args) := by
  by_cases hid : ∃ n, recv = .ident n
  · obtain ⟨n, rfl⟩ := hid
    have hn := hname n rfl
    simp only [evalExpr, isBound_congr s t hn, lookup_congr s t hn, hlist, hargs]
  · rw [evalExpr, evalExpr, hrecv, hargs]
    all_goals exact fun n hn => hid ⟨n, hn⟩

/-- A property of a name reads that name (and `Math` only when it is unbound); of any other
object, what the object reads. -/
theorem evalExpr_member_congr {o : Expr} {p : String}
    (ho : evalExpr s locals o = evalExpr t locals o)
    (hname : ∀ n, o = .ident n → n ∉ locals.map Prod.fst → s.get? n = t.get? n) :
    evalExpr s locals (.member o p) = evalExpr t locals (.member o p) := by
  by_cases hid : ∃ n, o = .ident n
  · obtain ⟨n, rfl⟩ := hid
    have hn := hname n rfl
    simp only [evalExpr, isBound_congr s t hn, lookup_congr s t hn]
  · rw [evalExpr, evalExpr, ho]
    all_goals exact fun n hn => hid ⟨n, hn⟩

/-! ## The frame of evaluation -/

-- Each statement carries the names `bound` that the free-name walk skips, all of them parameters
-- in scope, and the names `acc` the walk has collected before the expression.
mutual
theorem evalExpr_congr : ∀ (e : Expr) (locals : List (String × Value)) (bound acc : List String),
    (∀ n ∈ bound, n ∈ locals.map Prod.fst) → (∀ n ∈ e.freeInto bound acc, s.get? n = t.get? n) →
    evalExpr s locals e = evalExpr t locals e
  | .undefined, _, _, _, _, _ => rfl
  | .null, _, _, _, _, _ => rfl
  | .bool _, _, _, _, _, _ => rfl
  | .number _, _, _, _, _, _ => rfl
  | .str _, _, _, _, _, _ => rfl
  | .ident n, locals, bound, acc, hb, h => by
    rw [evalExpr, evalExpr]
    exact lookup_congr s t fun hn => h n (mem_freeInto_ident fun hb' => hn (hb n hb'))
  | .template qs es, locals, bound, acc, hb, h => by
    rw [evalExpr, evalExpr, evalList_congr es locals bound acc hb h]
  | .array es, locals, bound, acc, hb, h => by
    rw [evalExpr, evalExpr, evalList_congr es locals bound acc hb h]
  | .unary op a, locals, bound, acc, hb, h => by
    rw [evalExpr, evalExpr, evalExpr_congr a locals bound acc hb h]
  | .binary op l r, locals, bound, acc, hb, h => by
    have hl := evalExpr_congr l locals bound acc hb fun n hn => h n (r.subset_freeInto _ _ hn)
    have hr := evalExpr_congr r locals bound _ hb h
    rw [evalExpr, evalExpr, hl, hr]
  | .logical op l r, locals, bound, acc, hb, h => by
    have hl := evalExpr_congr l locals bound acc hb fun n hn => h n (r.subset_freeInto _ _ hn)
    have hr := evalExpr_congr r locals bound _ hb h
    simp only [evalExpr, hl, hr]
  | .cond c a b, locals, bound, acc, hb, h => by
    have hc := evalExpr_congr c locals bound acc hb fun n hn =>
      h n (b.subset_freeInto _ _ (a.subset_freeInto _ _ hn))
    have ha := evalExpr_congr a locals bound _ hb fun n hn => h n (b.subset_freeInto _ _ hn)
    have hb' := evalExpr_congr b locals bound _ hb h
    simp only [evalExpr, hc, ha, hb']
  | .callFn name args, locals, bound, acc, hb, h => by
    rw [evalExpr, evalExpr, evalList_congr args locals bound acc hb h]
  | .callMethod recv m args, locals, bound, acc, hb, h => by
    have hacc : ∀ n ∈ recv.freeInto bound acc, s.get? n = t.get? n := fun n hn =>
      h n (subset_freeIntoList args _ _ hn)
    refine evalExpr_callMethod_congr s t (evalExpr_congr recv locals bound acc hb hacc)
      (evalList_congr args locals bound _ hb h) (fun v => methodOn_congr v m args locals bound _ hb h) ?_
    rintro n rfl hn
    exact hacc n (mem_freeInto_ident fun hb' => hn (hb n hb'))
  | .member o p, locals, bound, acc, hb, h => by
    refine evalExpr_member_congr s t (evalExpr_congr o locals bound acc hb h) ?_
    rintro n rfl hn
    exact h n (mem_freeInto_ident fun hb' => hn (hb n hb'))
  | .index o i, locals, bound, acc, hb, h => by
    have ho := evalExpr_congr o locals bound acc hb fun n hn => h n (i.subset_freeInto _ _ hn)
    have hi := evalExpr_congr i locals bound _ hb h
    rw [evalExpr, evalExpr, ho, hi]
  | .lambda _ _, _, _, _, _, _ => rfl

theorem evalList_congr : ∀ (es : List Expr) (locals : List (String × Value))
    (bound acc : List String), (∀ n ∈ bound, n ∈ locals.map Prod.fst) →
    (∀ n ∈ freeIntoList bound acc es, s.get? n = t.get? n) →
    evalList s locals es = evalList t locals es
  | [], _, _, _, _, _ => rfl
  | e :: es, locals, bound, acc, hb, h => by
    have he := evalExpr_congr e locals bound acc hb fun n hn =>
      h n (subset_freeIntoList es _ _ hn)
    rw [evalList, evalList, he, evalList_congr es locals bound _ hb h]

theorem methodOn_congr (v : Value) (m : String) : ∀ (args : List Expr)
    (locals : List (String × Value)) (bound acc : List String),
    (∀ n ∈ bound, n ∈ locals.map Prod.fst) →
    (∀ n ∈ freeIntoList bound acc args, s.get? n = t.get? n) →
    methodOn s locals v m args = methodOn t locals v m args
  | [], _, _, _, _, _ => rfl
  | a :: rest, locals, bound, acc, hb, h => by
    have hfirst : ∀ n ∈ a.freeInto bound acc, s.get? n = t.get? n := fun n hn =>
      h n (subset_freeIntoList rest _ _ hn)
    have ha := evalExpr_congr a locals bound acc hb hfirst
    have hrest := evalList_congr rest locals bound _ hb h
    have hlam : ∀ args, applyLambda s locals a args = applyLambda t locals a args := fun args =>
      applyLambda_congr a args locals bound acc hb hfirst
    simp only [methodOn, ha, hrest, hlam]

theorem applyLambda_congr : ∀ (a : Expr) (args : List Value) (locals : List (String × Value))
    (bound acc : List String), (∀ n ∈ bound, n ∈ locals.map Prod.fst) →
    (∀ n ∈ a.freeInto bound acc, s.get? n = t.get? n) →
    applyLambda s locals a args = applyLambda t locals a args
  | .lambda ps body, args, locals, bound, acc, hb, h => by
    rw [applyLambda, applyLambda]
    -- the body sees the parameters on top of those already in scope
    refine evalExpr_congr body (bindParams locals ps args) (bound ++ ps) acc (fun n hn => ?_) h
    rcases List.mem_append.mp hn with hn | hn
    · exact mem_bindParams locals ps args (.inl (hb n hn))
    · exact mem_bindParams locals ps args (.inr hn)
  -- anything else is no lambda, and applying it gives `undefined` from either store
  | .undefined, _, _, _, _, _, _ | .null, _, _, _, _, _, _ | .bool _, _, _, _, _, _, _
  | .number _, _, _, _, _, _, _ | .str _, _, _, _, _, _, _ | .ident _, _, _, _, _, _, _
  | .template _ _, _, _, _, _, _, _ | .array _, _, _, _, _, _, _ | .unary _ _, _, _, _, _, _, _
  | .binary _ _ _, _, _, _, _, _, _ | .logical _ _ _, _, _, _, _, _, _
  | .cond _ _ _, _, _, _, _, _, _ | .callFn _ _, _, _, _, _, _, _
  | .callMethod _ _ _, _, _, _, _, _, _ | .member _ _, _, _, _, _, _, _
  | .index _ _, _, _, _, _, _, _ => rfl
end

/-- Two stores that agree on every free name of an expression give it the same value: a name
unbound in one is unbound in the other, and a name bound in both has the same value in both.
This covers lambdas run by `map`, `filter`, `some` and `every`, the `Math` and `console` forms
taken only while those names are unbound, and every method call. -/
theorem eval_eq_of_agree_freeNames (e : Expr) (h : ∀ n ∈ e.freeNames, s.get? n = t.get? n) :
    eval s e = eval t e :=
  evalExpr_congr s t e [] [] [] (fun _ hn => absurd hn List.not_mem_nil) h

end

/-- `items.filter((x) => x > limit).length`: it reads `items` and `limit`, not the `x` its lambda
binds. -/
def countAbove : Expr :=
  .member (.callMethod (.ident "items") "filter"
    [.lambda ["x"] (.binary .gt (.ident "x") (.ident "limit"))]) "length"

/-- Items, a limit, and an `x` that `countAbove` binds itself. -/
def itemsWithX : Store :=
  ⟨[("items", .array [.number 1, .number 5]), ("limit", .number 2), ("x", .number 100)]⟩

/-- The same items and limit in another order, and a `Math` of their own. -/
def itemsWithMath : Store :=
  ⟨[("Math", .str "shadow"), ("limit", .number 2), ("items", .array [.number 1, .number 5])]⟩

/-- The two stores differ on `x` and on `Math`, but agree on the free names of `countAbove`. -/
theorem countAbove_eq_of_agree :
    (∀ n ∈ countAbove.freeNames, itemsWithX.get? n = itemsWithMath.get? n) ∧
      eval itemsWithX countAbove = eval itemsWithMath countAbove := by
  have hfree : countAbove.freeNames = ["items", "limit"] := by decide
  have hagree : ∀ n ∈ countAbove.freeNames, itemsWithX.get? n = itemsWithMath.get? n := by
    rw [hfree]
    intro n hn
    rcases List.mem_cons.mp hn with rfl | hn
    · rfl
    · rw [List.mem_singleton.mp hn]
      rfl
  exact ⟨hagree, eval_eq_of_agree_freeNames _ _ countAbove hagree⟩

end Eval

end Reactive
