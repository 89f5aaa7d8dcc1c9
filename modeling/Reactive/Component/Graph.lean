import Reactive.Component.Model

/-!
The dependency graph of a component and the order of its derived pass.

* A name is *volatile* when its value can change after mount: a state a handler mutates, an
  exported prop, and every derived value with a volatile dependency.
* The derived pass runs derived declarations in an order where each producer comes before its
  consumers; among declarations that are ready together the one written first runs first.
* When no such order exists the error names the first cycle a depth-first search finds, going
  through declarations in source order and through dependencies in the order they are read.
-/

namespace Reactive.Component

open Script

/-- The names that can change after mount: what handlers mutate and the props, closed under
"a derived value with a volatile dependency is volatile". -/
def volatileNames (m : Model) : List String :=
  let seeds := addNames (m.handlers.foldl (fun acc h => addNames acc h.mutates) []) m.props
  let step := fun (vs : List String) =>
    m.derived.foldl (fun acc d => if d.dependencies.any acc.contains then addName acc d.name else acc) vs
  (List.range (m.derived.length + 1)).foldl (fun vs _ => step vs) seeds

/-- Where the depth-first search stands with a declaration. -/
inductive Mark where
  | unvisited | onStack | done
  deriving Inhabited, BEq

/-- The index of the derived declaration with a name (the last one with it). -/
def derivedIndex (derived : List DerivedDecl) (name : String) : Option Nat :=
  ((List.range derived.length).zip derived).foldl
    (fun acc (i, d) => if d.name == name then some i else acc) none

/-- The position of an index in the search stack. -/
def stackPosition (stack : List Nat) (j : Nat) : Nat := (stack.findIdx? (· == j)).getD 0

/-- The cycle closed by a dependency on `j`, which is on the search stack: the declarations from
`j` to the top of the stack, by name. -/
def cycleFrom (derived : List DerivedDecl) (stack : List Nat) (j : Nat) : List String :=
  (stack.drop (stackPosition stack j)).map fun k => ((derived[k]?).map (·.name)).getD ""

/-- Follows one dependency of the declaration on top of `stack`, unless a cycle is already
found: a declaration on the stack closes a cycle, an unvisited one is searched with `visit`, and
anything else is passed over. -/
def followDependency (derived : List DerivedDecl)
    (visit : Nat → List Nat → Array Mark → Option (List String) × Array Mark)
    (stack : List Nat) (state : Option (List String) × Array Mark) (dep : String) :
    Option (List String) × Array Mark :=
  match state.1, derivedIndex derived dep with
  | some c, _ => (some c, state.2)
  | none, none => (none, state.2)
  | none, some j =>
    match state.2[j]? with
    | some .onStack => (some (cycleFrom derived stack j), state.2)
    | some .unvisited => visit j stack state.2
    | _ => (none, state.2)

/-- Depth-first search from declaration `i` with the declarations on `stack`; gives the first
cycle met and where the search stands with each declaration afterwards. Dependencies are
followed in the order they are read. -/
def visitCycle (derived : List DerivedDecl) :
    Nat → Nat → List Nat → Array Mark → Option (List String) × Array Mark
  | 0, _, _, marks => (none, marks)
  | fuel + 1, i, stack, marks =>
    let deps := ((derived[i]?).map (·.dependencies)).getD []
    match deps.foldl (followDependency derived (visitCycle derived fuel) (stack ++ [i]))
        (none, marks.set! i .onStack) with
    | (some c, marks) => (some c, marks)
    | (none, marks) => (none, marks.set! i .done)

/-- Starts the search at declaration `i` unless a cycle is already found or `i` was visited. -/
def searchFrom (derived : List DerivedDecl) (state : Option (List String) × Array Mark)
    (i : Nat) : Option (List String) × Array Mark :=
  match state.1, state.2[i]? with
  | some c, _ => (some c, state.2)
  | none, some .unvisited => visitCycle derived (derived.length + 1) i [] state.2
  | none, _ => (none, state.2)

/-- The first dependency cycle among derived declarations, in discovery order: the search starts
from each declaration not yet visited, in source order. -/
def findCycle (derived : List DerivedDecl) : Option (List String) :=
  ((List.range derived.length).foldl (searchFrom derived)
    (none, Array.replicate derived.length .unvisited)).1

/-- Adds the declaration a dependency names to a list of producers, unless it is there. -/
def addProducer (derived : List DerivedDecl) (acc : List Nat) (dep : String) : List Nat :=
  match derivedIndex derived dep with
  | some p => if acc.contains p then acc else acc ++ [p]
  | none => acc

/-- The producers among a declaration's dependencies, each once, in order. -/
def producersOf (derived : List DerivedDecl) (d : DerivedDecl) : List Nat :=
  d.dependencies.foldl (addProducer derived) []

/-- The producers of declaration `i`. -/
def producersAt (derived : List DerivedDecl) (i : Nat) : List Nat :=
  ((derived[i]?).map (producersOf derived)).getD []

/-- Records declaration `i` as a consumer of each of its producers. -/
def addConsumer (i : Nat) (table : Array (List Nat)) (producers : List Nat) :
    Array (List Nat) :=
  producers.foldl (fun acc p => acc.set! p (((acc[p]?).getD []) ++ [i])) table

/-- For each declaration, the declarations that read it, in source order. -/
def consumerTable (derived : List DerivedDecl) : Array (List Nat) :=
  (List.range derived.length).foldl (fun acc i => addConsumer i acc (producersAt derived i))
    (Array.replicate derived.length [])

/-- The smallest element of a list of indices. -/
def smallest? : List Nat → Option Nat
  | [] => none
  | x :: xs => some (xs.foldl min x)

/-- A producer of consumer `c` is placed: the count of its unmet producers drops, and it becomes
ready when none is left. -/
def releaseConsumer (state : Array Nat × List Nat) (c : Nat) : Array Nat × List Nat :=
  let k := (state.1[c]?).getD 0 - 1
  (state.1.set! c k, if k == 0 then state.2 ++ [c] else state.2)

/-- Runs the ordering: repeatedly takes the smallest ready declaration, then lowers the count
of unmet producers of its consumers. -/
def orderFrom (consumers : Array (List Nat)) : Nat → Array Nat → List Nat → List Nat → List Nat
  | 0, _, _, order => order.reverse
  | fuel + 1, pending, ready, order =>
    match smallest? ready with
    | none => order.reverse
    | some i =>
      let next := ((consumers[i]?).getD []).foldl releaseConsumer (pending, ready.erase i)
      orderFrom consumers fuel next.1 next.2 (i :: order)

/-- Checks that each declaration of an order reads only state and declarations before it. -/
def verifyOrder (m : Model) : List Nat → List String → Except CompileError Unit
  | [], _ => pure ()
  | i :: rest, available =>
    match m.derived[i]? with
    | none => verifyOrder m rest available
    | some d =>
      match d.dependencies.find? (fun dep => !available.contains dep) with
      | some missing =>
        throw (.cyclic (if missing == d.name then [d.name] else [d.name, missing]))
      | none => verifyOrder m rest (available ++ [d.name])

/-- The order of the derived pass, as indices of derived declarations. -/
def schedule (m : Model) : Except CompileError (List Nat) := do
  let derived := m.derived
  let n := derived.length
  let pending := (derived.map fun d => (producersOf derived d).length).toArray
  let ready := (List.range n).filter fun i => (pending[i]?).getD 0 == 0
  let order := orderFrom (consumerTable derived) (n + 1) pending ready []
  if order.length < n then
    let cycle := (findCycle derived).getD
      (((List.range n).filter fun i => !order.contains i).map fun i =>
        ((derived[i]?).map (·.name)).getD "")
    throw (.cyclic cycle)
  verifyOrder m order (m.states.map (·.name))
  pure order

end Reactive.Component
