import Reactive.Script.Lower
import Reactive.Json.Basic

/-!
Compile errors and the diagnostics reported for them. Every error has a code, a message, the
guarantee that the check behind it upholds, and for some kinds hints on how to fix it.
-/

namespace Reactive.Component

/-- Errors that stop the compilation of a component or a program. -/
inductive CompileError where
  /-- a name read by a declaration or binding that resolves to nothing usable there -/
  | unresolved (name declaration : String)
  /-- derived declarations that depend on each other in a cycle -/
  | cyclic (cycle : List String)
  /-- a name declared twice -/
  | duplicate (name component : String)
  /-- a handler that assigns a derived value -/
  | derivedAssignment (name handler : String)
  /-- a script text that does not compile -/
  | invalidExpression (e : Script.ScriptError)
  /-- a declared name that cannot be emitted as it is -/
  | invalidIdentifier (name reason : String)
  /-- a nested component that no component of the program defines -/
  | unknownComponent (name parent : String)
  /-- a prop passed to a nested component that does not accept it -/
  | unknownProp (component prop parent : String)
  /-- a component that contains itself, through the chain given -/
  | recursive (chain : List String)
  deriving Inhabited

/-- Code of unresolved names. -/
def errUnresolved : String := "C-ERR-SCOPE-001"
/-- Code of dependency cycles. -/
def errCycle : String := "C-ERR-CYCLE-001"
/-- Code of duplicate declarations. -/
def errDuplicate : String := "C-ERR-DECL-001"
/-- Code of assignments to derived values. -/
def errDerivedAssignment : String := "C-ERR-DECL-002"
/-- Code of script texts that do not compile. -/
def errSyntax : String := "C-ERR-SYNTAX-001"
/-- Code of names that cannot be emitted. -/
def errIdentifier : String := "C-ERR-SYNTAX-002"
/-- Code of unknown nested components. -/
def errUnknownComponent : String := "C-ERR-COMPOSE-001"
/-- Code of props a nested component does not accept. -/
def errUnknownProp : String := "C-ERR-COMPOSE-002"
/-- Code of components that contain themselves. -/
def errRecursion : String := "C-ERR-COMPOSE-003"
/-- Code of malformed input. -/
def errInput : String := "C-ERR-INPUT-001"

/-- The guarantee a check with this code upholds. -/
def guarantee (code : String) : String :=
  if code == errUnresolved then "Every name read by a binding or declaration resolves at compile time."
  else if code == errCycle then
    "Derived declarations are recomputed in a single forward pass per change batch."
  else if code == errDuplicate then "Every declared name is unique within its component."
  else if code == errDerivedAssignment then
    "Derived values are only ever a function of their dependencies."
  else if code == errSyntax then "Every expression is lowered before code generation."
  else if code == errIdentifier then "Every declared name can be emitted verbatim."
  else if code == errUnknownComponent then "All nested components are resolved at compile time."
  else if code == errUnknownProp then "Parents only forward props a child declares it accepts."
  else if code == errRecursion then "Mounting a component tree always terminates."
  else if code == errInput then "Only well-formed component IR reaches the compiler."
  else "Unknown invariant."

namespace CompileError

/-- The code of an error. -/
def code : CompileError → String
  | .unresolved _ _ => errUnresolved
  | .cyclic _ => errCycle
  | .duplicate _ _ => errDuplicate
  | .derivedAssignment _ _ => errDerivedAssignment
  | .invalidExpression _ => errSyntax
  | .invalidIdentifier _ _ => errIdentifier
  | .unknownComponent _ _ => errUnknownComponent
  | .unknownProp _ _ _ => errUnknownProp
  | .recursive _ => errRecursion

/-- The message of an error. -/
def message : CompileError → String
  | .unresolved name decl => "Unresolved reference '" ++ name ++ "' in " ++ decl
  | .cyclic cycle => "Cyclic dependency between [" ++ ", ".intercalate cycle ++ "]"
  | .duplicate name comp => "'" ++ name ++ "' is declared more than once in <" ++ comp ++ ">"
  | .derivedAssignment name handler =>
    "Derived value '" ++ name ++ "' is assigned in handler '" ++ handler ++ "'"
  | .invalidExpression e => e.message
  | .invalidIdentifier name reason => "Invalid identifier '" ++ name ++ "': " ++ reason
  | .unknownComponent name parent =>
    "Unknown component <" ++ name ++ "> used in <" ++ parent ++ ">"
  | .unknownProp comp prop parent =>
    "<" ++ parent ++ "> passes '" ++ prop ++ "' to <" ++ comp ++ ">, which does not accept it"
  | .recursive chain => "Component contains itself: " ++ " > ".intercalate chain

/-- Hints on how to fix an error. -/
def hints : CompileError → List String
  | .unresolved name _ => ["Declare `" ++ name ++ "` as state or as a derived declaration."]
  | .cyclic cycle =>
    ["Dependency path: " ++ " -> ".intercalate (cycle ++ cycle.take 1),
     "Move one of these values into state and assign it from a handler."]
  | .derivedAssignment name _ =>
    ["Assign the inputs of `" ++ name ++ "` instead; it is recomputed automatically."]
  | .unknownProp comp _ _ => ["List the prop in the `props` or `callbacks` of <" ++ comp ++ ">."]
  | _ => []

end CompileError

/-- A diagnostic as reported to the caller. -/
structure Diagnostic where
  code : String
  message : String
  guarantee : String
  file : String
  hints : List String
  deriving Inhabited

/-- The diagnostic of a compile error in a file. -/
def CompileError.toDiagnostic (e : CompileError) (file : String) : Diagnostic :=
  ⟨e.code, e.message, guarantee e.code, file, e.hints⟩

/-- The diagnostic of malformed input: `what` names the input (`component IR`, `options`, …). -/
def inputDiagnostic (file what message : String) : Diagnostic :=
  ⟨errInput, "Invalid " ++ what ++ ": " ++ message, guarantee errInput, file, []⟩

/-- The JSON form of a diagnostic. -/
def Diagnostic.toJson (d : Diagnostic) : Json :=
  .object [("code", .string d.code), ("message", .string d.message),
    ("guarantee", .string d.guarantee), ("file", .string d.file),
    ("hints", Json.ofStrings d.hints)]

end Reactive.Component
