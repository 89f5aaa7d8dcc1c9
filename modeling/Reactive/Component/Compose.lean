import Reactive.Component.Source
import Reactive.Component.Error

/-!
Checks on how the components of a program nest each other, done before any of them compiles:
every nested component exists, every prop passed to it is one it accepts with the right kind (a
callback among its callbacks, any other value among its props), and no component contains
itself through a chain of nested components. When two components share a name, the later one is
the one that counts.
-/

namespace Reactive.Component

/-- The component of a program with a given name (the last one with it). -/
def lookupComponent (cs : List ComponentSource) (name : String) : Option ComponentSource :=
  cs.foldl (fun acc c => if c.name == name then some c else acc) none

/-- Whether a nested component accepts a prop of this kind. -/
def accepts (child : ComponentSource) (p : PropBinding) : Bool :=
  match p.value with
  | .callback _ => child.callbacks.contains p.name
  | _ => child.props.contains p.name

/-- Checks the nested instances of one parent against the components they name. -/
def checkInstances (cs : List ComponentSource) (parent : ComponentSource) :
    List (String × List PropBinding) → Except CompileError Unit
  | [] => pure ()
  | (name, props) :: rest => do
    match lookupComponent cs name with
    | none => throw (.unknownComponent name parent.name)
    | some child =>
      match props.find? (fun p => !accepts child p) with
      | some p => throw (.unknownProp child.name p.name parent.name)
      | none => checkInstances cs parent rest

/-- Depth-first search for a component that contains itself: `chain` is the path from the
start, and the state lists the components already cleared. -/
def visitNesting (cs : List ComponentSource) : Nat → String → List String →
    StateT (List String) (Except CompileError) Unit
  | 0, _, _ => pure ()
  | fuel + 1, name, chain => do
    match chain.findIdx? (· == name) with
    | some start => throw (.recursive (chain.drop start ++ [name]))
    | none => pure ()
    if (← get).contains name then return
    match lookupComponent cs name with
    | none => pure ()
    | some c =>
      for nested in c.nested do
        visitNesting cs fuel nested (chain ++ [name])
      modify (· ++ [name])

/-- Checks that no component contains itself. -/
def checkRecursion (cs : List ComponentSource) : Except CompileError Unit := do
  let search : StateT (List String) (Except CompileError) Unit := do
    for c in cs do
      visitNesting cs (cs.length + 2) c.name []
  let _ ← search.run []
  pure ()

/-- The composition checks of a program. -/
def validateComposition (cs : List ComponentSource) : Except CompileError Unit := do
  for parent in cs do
    checkInstances cs parent (instancesInNodes parent.nodes)
  checkRecursion cs

end Reactive.Component
