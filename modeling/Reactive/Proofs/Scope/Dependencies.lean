import Reactive.Component.Scope
import Reactive.Proofs.Eval.Frame
import Reactive.Proofs.Runtime.Idempotence
import Reactive.Proofs.Schedule.Theorems
import Reactive.Proofs.Volatile.Closure

/-!
# Dependency extraction

Resolving an expression (`Scope.dependencies`) walks it twice with accumulators: once for the
names it calls as functions, once for the names it reads, with the parameters of the enclosing
lambdas on a stack. Each list is kept free of repeats as it grows.

This module states the two walks without accumulators. `Expr.reads` lists the identifiers an
expression reads in a left-to-right pre-order walk, every occurrence kept and those bound by an
enclosing lambda left out; called function names are not reads, member objects and method
receivers are. `Expr.calls` lists the names it calls as functions, lambda bodies included. The
accumulating walks keep the first occurrence of each name of these lists
(`freeNames_eq_eraseDups`, `callTargets_eq_eraseDups`).

Main statement, `dependencies_eq_ok_iff`: resolving succeeds exactly when every called name is
a host global and every name read is a state variable, a derived value or a host global, and the
dependency list is then the reactive names read, each once, in order of first occurrence.

A written-out list is checked to hold reactive names only, so every dependency of a built model
names one of its states or derived declarations (`Model.build_knownDeps`): what scheduling assumes
of its input.
-/

namespace Reactive

namespace Script

/-! ## The walks, every occurrence kept -/

mutual
/-- The identifiers an expression reads, in a left-to-right pre-order walk, every occurrence
kept. An identifier is left out where it is in `bound` or a parameter of an enclosing lambda. -/
def Expr.readsUnder (bound : List String) : Expr → List String
  | .ident n => if bound.contains n then [] else [n]
  | .template _ es => readsUnderList bound es
  | .array es => readsUnderList bound es
  | .unary _ a => a.readsUnder bound
  | .binary _ l r => l.readsUnder bound ++ r.readsUnder bound
  | .logical _ l r => l.readsUnder bound ++ r.readsUnder bound
  | .cond t c a => t.readsUnder bound ++ c.readsUnder bound ++ a.readsUnder bound
  | .callFn _ args => readsUnderList bound args
  | .callMethod recv _ args => recv.readsUnder bound ++ readsUnderList bound args
  | .member o _ => o.readsUnder bound
  | .index o i => o.readsUnder bound ++ i.readsUnder bound
  | .lambda ps body => body.readsUnder (bound ++ ps)
  | _ => []

/-- The identifiers a list of expressions reads, one expression after the other. -/
def readsUnderList (bound : List String) : List Expr → List String
  | [] => []
  | e :: es => e.readsUnder bound ++ readsUnderList bound es
end

/-- The identifiers an expression reads outside the parameters of its lambdas. -/
def Expr.reads (e : Expr) : List String := e.readsUnder []

mutual
/-- The names an expression calls as functions, in a left-to-right pre-order walk, every
occurrence kept; a lambda's parameters do not hide a called name. -/
def Expr.calls : Expr → List String
  | .template _ es => callsList es
  | .array es => callsList es
  | .unary _ a => a.calls
  | .binary _ l r => l.calls ++ r.calls
  | .logical _ l r => l.calls ++ r.calls
  | .cond t c a => t.calls ++ c.calls ++ a.calls
  | .callFn name args => name :: callsList args
  | .callMethod recv _ args => recv.calls ++ callsList args
  | .member o _ => o.calls
  | .index o i => o.calls ++ i.calls
  | .lambda _ body => body.calls
  | _ => []

/-- The names a list of expressions calls as functions, one expression after the other. -/
def callsList : List Expr → List String
  | [] => []
  | e :: es => e.calls ++ callsList es
end

/-! ## Adding names keeps first occurrences -/

theorem addNames_append (acc xs ys : List String) :
    addNames acc (xs ++ ys) = addNames (addNames acc xs) ys :=
  List.foldl_append

theorem addNames_singleton (acc : List String) (n : String) : addNames acc [n] = addName acc n :=
  rfl

/-- Adding names one by one to `acc` appends the names missing from it, each at its first
occurrence. -/
theorem addNames_eq_eraseDups (acc ns : List String) :
    addNames acc ns = acc ++ (ns.removeAll acc).eraseDups := by
  induction ns generalizing acc with
  | nil => simp [addNames]
  | cons n ns ih =>
    show addNames (addName acc n) ns = _
    rw [ih]
    by_cases hn : n ∈ acc
    · -- a name already listed is skipped, and the removal drops it as well
      have hskip : (n :: ns).removeAll acc = ns.removeAll acc :=
        List.filter_cons_of_neg (by simp [List.elem_eq_contains, hn])
      rw [hskip, addName, if_pos (List.contains_iff_mem.mpr hn)]
    · have hdrop : ns.removeAll (acc ++ [n]) = (ns.removeAll acc).filter fun b => !b == n := by
        simp only [List.removeAll, List.filter_filter, List.elem_eq_contains, List.contains_append,
          List.contains_cons, List.contains_nil, Bool.or_false, Bool.not_or]
        congr 1
        funext b
        rw [Bool.and_comm, BEq.comm]
      have hkeep : (n :: ns).removeAll acc = n :: ns.removeAll acc :=
        List.filter_cons_of_pos (by simp [List.elem_eq_contains, hn])
      rw [addName, if_neg (fun hc => hn (List.contains_iff_mem.mp hc)), hkeep, List.eraseDups_cons,
        hdrop]
      simp

/-- Names added to an empty list keep the first occurrence of each. -/
theorem addNames_nil_eq_eraseDups (ns : List String) : addNames [] ns = ns.eraseDups := by
  have hkeep : ns.removeAll [] = ns := List.filter_eq_self.mpr fun _ _ => rfl
  rw [addNames_eq_eraseDups, hkeep, List.nil_append]

/-- Keeping the names that pass a test commutes with adding names. -/
theorem filter_addNames (p : String → Bool) (acc ns : List String) :
    (addNames acc ns).filter p = addNames (acc.filter p) (ns.filter p) := by
  induction ns generalizing acc with
  | nil => rfl
  | cons n ns ih =>
    show (addNames (addName acc n) ns).filter p = _
    rw [ih]
    by_cases hp : p n = true
    · rw [List.filter_cons_of_pos hp]
      show addNames _ _ = addNames (addName (acc.filter p) n) _
      congr 1
      -- `n` passes, so it is listed among the kept names exactly when it is listed at all
      have hmem : (acc.filter p).contains n = acc.contains n := by
        simp [hp]
      unfold addName
      rw [hmem]
      split <;> simp [List.filter_append, hp]
    · rw [List.filter_cons_of_neg hp]
      congr 1
      unfold addName
      split <;> simp [List.filter_append, hp]

/-- Deduplicating and then keeping the names that pass a test is keeping them first. -/
theorem filter_eraseDups (p : String → Bool) (ns : List String) :
    ns.eraseDups.filter p = (ns.filter p).eraseDups := by
  rw [← addNames_nil_eq_eraseDups, filter_addNames, List.filter_nil, addNames_nil_eq_eraseDups]

/-! ## The accumulating walks -/

mutual
/-- The free-name walk adds the identifiers read, in order, to what it has collected. -/
theorem Expr.freeInto_eq_addNames : ∀ (e : Expr) (bound acc : List String),
    e.freeInto bound acc = addNames acc (e.readsUnder bound)
  | .undefined, _, _ => rfl
  | .null, _, _ => rfl
  | .bool _, _, _ => rfl
  | .number _, _, _ => rfl
  | .str _, _, _ => rfl
  | .ident n, bound, acc => by
    rw [Expr.freeInto, Expr.readsUnder]
    split <;> rfl
  | .template _ es, bound, acc => freeIntoList_eq_addNames es bound acc
  | .array es, bound, acc => freeIntoList_eq_addNames es bound acc
  | .unary _ a, bound, acc => a.freeInto_eq_addNames bound acc
  | .binary _ l r, bound, acc => by
    rw [Expr.freeInto, Expr.readsUnder, addNames_append, l.freeInto_eq_addNames,
      r.freeInto_eq_addNames]
  | .logical _ l r, bound, acc => by
    rw [Expr.freeInto, Expr.readsUnder, addNames_append, l.freeInto_eq_addNames,
      r.freeInto_eq_addNames]
  | .cond t c a, bound, acc => by
    rw [Expr.freeInto, Expr.readsUnder, addNames_append, addNames_append, t.freeInto_eq_addNames,
      c.freeInto_eq_addNames, a.freeInto_eq_addNames]
  | .callFn _ args, bound, acc => freeIntoList_eq_addNames args bound acc
  | .callMethod recv _ args, bound, acc => by
    rw [Expr.freeInto, Expr.readsUnder, addNames_append, recv.freeInto_eq_addNames,
      freeIntoList_eq_addNames]
  | .member o _, bound, acc => o.freeInto_eq_addNames bound acc
  | .index o i, bound, acc => by
    rw [Expr.freeInto, Expr.readsUnder, addNames_append, o.freeInto_eq_addNames,
      i.freeInto_eq_addNames]
  | .lambda ps body, bound, acc => body.freeInto_eq_addNames (bound ++ ps) acc

theorem freeIntoList_eq_addNames : ∀ (es : List Expr) (bound acc : List String),
    freeIntoList bound acc es = addNames acc (readsUnderList bound es)
  | [], _, _ => rfl
  | e :: es, bound, acc => by
    rw [freeIntoList, readsUnderList, addNames_append, e.freeInto_eq_addNames,
      freeIntoList_eq_addNames]
end

mutual
/-- The call walk adds the called names, in order, to what it has collected. -/
theorem Expr.callsInto_eq_addNames : ∀ (e : Expr) (acc : List String),
    e.callsInto acc = addNames acc e.calls
  | .undefined, _ => rfl
  | .null, _ => rfl
  | .bool _, _ => rfl
  | .number _, _ => rfl
  | .str _, _ => rfl
  | .ident _, _ => rfl
  | .template _ es, acc => callsIntoList_eq_addNames es acc
  | .array es, acc => callsIntoList_eq_addNames es acc
  | .unary _ a, acc => a.callsInto_eq_addNames acc
  | .binary _ l r, acc => by
    rw [Expr.callsInto, Expr.calls, addNames_append, l.callsInto_eq_addNames,
      r.callsInto_eq_addNames]
  | .logical _ l r, acc => by
    rw [Expr.callsInto, Expr.calls, addNames_append, l.callsInto_eq_addNames,
      r.callsInto_eq_addNames]
  | .cond t c a, acc => by
    rw [Expr.callsInto, Expr.calls, addNames_append, addNames_append, t.callsInto_eq_addNames,
      c.callsInto_eq_addNames, a.callsInto_eq_addNames]
  | .callFn name args, acc => by
    rw [Expr.callsInto, Expr.calls, callsIntoList_eq_addNames]
    rfl
  | .callMethod recv _ args, acc => by
    rw [Expr.callsInto, Expr.calls, addNames_append, recv.callsInto_eq_addNames,
      callsIntoList_eq_addNames]
  | .member o _, acc => o.callsInto_eq_addNames acc
  | .index o i, acc => by
    rw [Expr.callsInto, Expr.calls, addNames_append, o.callsInto_eq_addNames,
      i.callsInto_eq_addNames]
  | .lambda _ body, acc => body.callsInto_eq_addNames acc

theorem callsIntoList_eq_addNames : ∀ (es : List Expr) (acc : List String),
    callsIntoList acc es = addNames acc (callsList es)
  | [], _ => rfl
  | e :: es, acc => by
    rw [callsIntoList, callsList, addNames_append, e.callsInto_eq_addNames,
      callsIntoList_eq_addNames]
end

/-- The free names of an expression are the identifiers it reads, each at its first
occurrence. -/
theorem freeNames_eq_eraseDups (e : Expr) : e.freeNames = e.reads.eraseDups := by
  rw [Expr.freeNames, Expr.freeInto_eq_addNames, addNames_nil_eq_eraseDups]
  rfl

/-- `format(count) + items.map(item => item * scale).length` reads `count`, `items` and `scale`:
the called `format` and the parameter `item` are not reads. -/
example : (Expr.binary .add (.callFn "format" [.ident "count"])
    (.member (.callMethod (.ident "items") "map"
      [.lambda ["item"] (.binary .mul (.ident "item") (.ident "scale"))]) "length")).freeNames =
    ["count", "items", "scale"] := by
  decide

/-- The call targets of an expression are the names it calls, each at its first occurrence. -/
theorem callTargets_eq_eraseDups (e : Expr) : e.callTargets = e.calls.eraseDups := by
  rw [Expr.callTargets, Expr.callsInto_eq_addNames, addNames_nil_eq_eraseDups]

end Script

namespace Component.Scope

open Script

/-- A computation followed by a step gives `b` exactly when the computation gives some `a` on
which the step gives `b`. -/
theorem bind_eq_ok_iff {ε α β : Type} (x : Except ε α) (f : α → Except ε β) (b : β) :
    x >>= f = .ok b ↔ ∃ a, x = .ok a ∧ f a = .ok b := by
  cases x <;> simp [bind, Except.bind]

theorem throw_ne_ok {ε β : Type} (err : ε) (b : β) : (throw err : Except ε β) ≠ .ok b :=
  fun h => by cases h

variable (s : Scope) (declaration : String)

/-- A name an expression may read: a state variable, a derived value or a host global. -/
def Readable (n : String) : Prop :=
  s.classify n = some .state ∨ s.classify n = some .derived ∨ s.classify n = some .global

theorem classify_beq_global (n : String) :
    (s.classify n == some .global) = true ↔ s.classify n = some .global := by
  cases s.classify n with
  | none => decide
  | some k => cases k <;> decide

/-- The call check passes exactly when every name it is given is a host global. -/
theorem checkCalls_eq_ok_iff : ∀ ts : List String,
    s.checkCalls declaration ts = .ok () ↔ ∀ t ∈ ts, s.classify t = some .global
  | [] => by simp [checkCalls, pure, Except.pure]
  | t :: ts => by
    rw [checkCalls, List.forall_mem_cons, ← classify_beq_global]
    split
    · rename_i ht
      rw [checkCalls_eq_ok_iff ts]
      simp [ht]
    · rename_i ht
      simp only [ht, Bool.false_eq_true, false_and, iff_false]
      exact throw_ne_ok _ _

/-- Reading names succeeds exactly when each is readable, and gives the reactive ones in
order. -/
theorem readNames_eq_ok_iff : ∀ ns ds : List String,
    s.readNames declaration ns = .ok ds ↔ (∀ n ∈ ns, s.Readable n) ∧ ds = ns.filter s.isReactive
  | [], ds => by simp [readNames, pure, Except.pure, eq_comm]
  | n :: ns, ds => by
    rw [readNames, List.forall_mem_cons]
    cases hk : s.classify n with
    | none =>
      -- an undeclared name that is no host global
      have hn : ¬s.Readable n := by simp [Readable, hk]
      simp only [hn, false_and, iff_false]
      exact throw_ne_ok _ _
    | some k =>
      cases k with
      | state | derived =>
        have hn : s.Readable n := by simp [Readable, hk]
        have hr : s.isReactive n = true := by simp [isReactive, hk, NameKind.isReactive]
        simp +decide only [↓reduceIte]
        rw [bind_eq_ok_iff, List.filter_cons_of_pos hr]
        simp only [readNames_eq_ok_iff ns, pure, Except.pure, Except.ok.injEq]
        constructor
        · rintro ⟨a, ⟨hall, rfl⟩, rfl⟩
          exact ⟨⟨hn, hall⟩, rfl⟩
        · rintro ⟨⟨-, hall⟩, rfl⟩
          exact ⟨_, ⟨hall, rfl⟩, rfl⟩
      | global =>
        have hn : s.Readable n := by simp [Readable, hk]
        have hr : s.isReactive n = false := by simp [isReactive, hk, NameKind.isReactive]
        simp +decide only [↓reduceIte]
        rw [readNames_eq_ok_iff ns,
          List.filter_cons_of_neg (by simp [hr])]
        simp [hn]
      | handler | callback =>
        -- handlers and callbacks are not values
        have hn : ¬s.Readable n := by simp [Readable, hk]
        simp +decide only [↓reduceIte]
        simp only [hn, false_and, iff_false]
        exact throw_ne_ok _ _

/-- Resolving an expression succeeds exactly when every name it calls as a function is a host
global and every name it reads (outside its lambdas' parameters) is a state variable, a derived
value or a host global. It then gives the state and derived names read, without repeats, in the
order of their first occurrence in a left-to-right pre-order walk. -/
theorem dependencies_eq_ok_iff (e : Expr) (ds : List String) :
    s.dependencies e declaration = .ok ds ↔
      (∀ t ∈ e.calls, s.classify t = some .global) ∧ (∀ n ∈ e.reads, s.Readable n) ∧
        ds = (e.reads.filter s.isReactive).eraseDups := by
  have hcalls : s.checkCalls declaration e.callTargets = .ok () ↔
      ∀ t ∈ e.calls, s.classify t = some .global := by
    rw [checkCalls_eq_ok_iff, callTargets_eq_eraseDups]
    simp
  have hreads : s.readNames declaration e.freeNames = .ok ds ↔
      (∀ n ∈ e.reads, s.Readable n) ∧ ds = (e.reads.filter s.isReactive).eraseDups := by
    rw [readNames_eq_ok_iff, freeNames_eq_eraseDups, filter_eraseDups]
    simp
  rw [dependencies, bind_eq_ok_iff]
  constructor
  · rintro ⟨_, hc, hr⟩
    exact ⟨hcalls.mp hc, hreads.mp hr⟩
  · rintro ⟨hc, hr⟩
    exact ⟨(), hcalls.mpr hc, hreads.mpr hr⟩

end Component.Scope

/-! ## The dependencies of a built model -/

namespace Component

open Script

/-- A checked dependency list holds what it started with and names reactive in the scope. -/
theorem Scope.annotated_reactive (s : Scope) (declaration : String) :
    ∀ (ns acc out : List String), s.annotated declaration ns acc = .ok out →
      ∀ n ∈ out, n ∈ acc ∨ s.isReactive n = true
  | [], acc, out, h => by
    simp only [Scope.annotated, pure, Except.pure, Except.ok.injEq] at h
    subst h
    exact fun n hn => .inl hn
  | m :: rest, acc, out, h => by
    unfold Scope.annotated at h
    split at h
    · rename_i hm
      intro n hn
      rcases annotated_reactive s declaration rest _ out h n hn with hn | hn
      · -- a name the check added is the one it just accepted
        rcases mem_addName.mp hn with hn | rfl
        · exact .inl hn
        · exact .inr hm
      · exact .inr hn
    · exact absurd h (Scope.throw_ne_ok _ _)

/-- Every dependency of a built derived declaration is reactive in its scope, whether its body
resolved it or an annotation listed it. -/
theorem buildDerived_reactive {scope : Scope} {d : DerivedSource} {e : DerivedDecl}
    (h : buildDerived scope d = .ok e) : ∀ dep ∈ e.dependencies, scope.isReactive dep = true := by
  unfold buildDerived at h
  simp only [bind, Except.bind] at h
  split at h
  · cases h
  split at h
  · cases h
  rename_i inferred hinferred
  intro dep hdep
  cases hd : d.dependencies with
  | none =>
    simp only [hd, pure, Except.pure, Except.ok.injEq] at h
    subst h
    -- the body's dependencies are the reactive names it reads
    obtain ⟨-, -, rfl⟩ := (Scope.dependencies_eq_ok_iff scope _ _ _).mp hinferred
    exact (List.mem_filter.mp (List.mem_eraseDups.mp hdep)).2
  | some written =>
    simp only [hd] at h
    split at h
    · cases h
    rename_i deps hdeps
    simp only [pure, Except.pure, Except.ok.injEq] at h
    subst h
    rcases Scope.annotated_reactive scope _ written [] deps hdeps dep hdep with hnil | hr
    · exact absurd hnil List.not_mem_nil
    · exact hr

/-- In the scope of a component, a reactive name is one of its states or derived values. -/
theorem Scope.ofSource_reactive {c : ComponentSource} {n : String}
    (h : (Scope.ofSource c).isReactive n = true) :
    n ∈ c.states.map (·.name) ∨ n ∈ c.derived.map (·.name) := by
  unfold Scope.isReactive Scope.classify at h
  cases hf : (Scope.ofSource c).names.find? (·.1 == n) with
  | none =>
    -- a host global is no producer
    rw [hf] at h
    by_cases hg : n ∈ hostGlobals
    · simp [hg, NameKind.isReactive] at h
    · simp [hg] at h
  | some p =>
    obtain ⟨x, k⟩ := p
    rw [hf] at h
    have hbeq : ((x, k).1 == n) = true := (List.find?_eq_some_iff_append.mp hf).1
    have hx : x = n := beq_iff_eq.mp hbeq
    have hmem := List.mem_of_find?_eq_some hf
    subst hx
    simp only [Scope.ofSource, List.mem_append, List.mem_map, Prod.mk.injEq] at hmem
    rcases hmem with ((⟨_, -, -, rfl⟩ | ⟨_, -, -, rfl⟩) | ⟨d, hd, rfl, rfl⟩) | ⟨st, hst, rfl, rfl⟩
    · cases h
    · cases h
    · exact .inr (List.mem_map_of_mem hd)
    · exact .inl (List.mem_map_of_mem hst)

/-- Every dependency of a derived declaration of a built model names one of the model's states
or derived declarations, as scheduling assumes. -/
theorem Model.build_knownDeps {c : ComponentSource} {m : Model}
    (h : Model.build c (Scope.ofSource c) = .ok m) : KnownDeps m := by
  obtain ⟨hstates, hnames, hbuilt⟩ := build_derived h
  intro e he dep hdep
  obtain ⟨d, -, hb⟩ := hbuilt e he
  rw [hstates, hnames]
  exact Scope.ofSource_reactive (buildDerived_reactive hb dep hdep)

/-- A component that passed validation builds to a model that meets both assumptions of
scheduling: distinct derived names, and dependencies naming states and derived declarations. -/
theorem Model.build_schedulable {c : ComponentSource} {m : Model} (hv : validate c = .ok ())
    (h : Model.build c (Scope.ofSource c) = .ok m) : DistinctNames m.derived ∧ KnownDeps m := by
  obtain ⟨-, hnames, -⟩ := build_derived h
  refine ⟨?_, Model.build_knownDeps h⟩
  unfold DistinctNames
  rw [hnames]
  exact (declared_nodup_derived (validate_declared_nodup hv)).1

end Component

end Reactive
