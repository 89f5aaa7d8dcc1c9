import Reactive.Component.Source
import Reactive.Component.Error

/-!
Structural checks on a component description, before any script text is read: every declared
name is an identifier that is not a reserved word, not a name the emitted module declares for
itself, not the name of a nested component, and not declared twice; every prop is a state
variable, named once; element tags are not empty; nested components and their props have
identifier names, each prop given once.
-/

namespace Reactive.Component

/-- Names the emitted module declares for itself. -/
def reservedNames : List String :=
  ["requestUpdate", "runDerived", "pending", "flushing", "lifecycle", "handlers", "target",
   "props", "changed", "callbacks", "subscriptions", "subscribe", "phase", "names", "container"]

/-- Host globals the emitted module calls by name. -/
def moduleGlobals : List String := ["document", "String", "Set", "Error", "Object", "undefined"]

/-- Reserved words of the script language, strict-mode and module ones included. -/
def scriptReservedWords : List String :=
  ["await", "break", "case", "catch", "class", "const", "continue", "debugger", "default",
   "delete", "do", "else", "enum", "export", "extends", "false", "finally", "for", "function",
   "if", "implements", "import", "in", "instanceof", "interface", "let", "new", "null",
   "package", "private", "protected", "public", "return", "static", "super", "switch", "this",
   "throw", "true", "try", "typeof", "var", "void", "while", "with", "yield", "arguments", "eval"]

/-- Whether a character may start an identifier: an ASCII letter, `_` or `$`. -/
def identStartChar (c : Char) : Bool :=
  ('A' ≤ c && c ≤ 'Z') || ('a' ≤ c && c ≤ 'z') || c == '_' || c == '$'

/-- Whether a character may continue an identifier: also an ASCII digit. -/
def identPartChar (c : Char) : Bool :=
  identStartChar c || ('0' ≤ c && c ≤ '9')

/-- Whether a name is an ASCII identifier that is not a reserved word. -/
def isValidIdentifier (name : String) : Bool :=
  match name.toList with
  | [] => false
  | c :: rest => identStartChar c && rest.all identPartChar && !scriptReservedWords.contains name

/-- Checks that a name is a valid identifier. -/
def checkIdentifier (name : String) : Except CompileError Unit :=
  if isValidIdentifier name then pure ()
  else throw (.invalidIdentifier name "expected a JavaScript identifier that is not a reserved word")

/-- Checks declared names in order: identifiers, not reserved, not nested components, unique. -/
def checkDeclared (component : String) (nested : List String) :
    List String → List String → Except CompileError Unit
  | [], _ => pure ()
  | name :: rest, seen => do
    checkIdentifier name
    if reservedNames.contains name || moduleGlobals.contains name then
      throw (.invalidIdentifier name "the name is reserved by the generated module")
    if nested.contains name then
      throw (.invalidIdentifier name "the name is used by a nested component")
    if seen.contains name then throw (.duplicate name component)
    checkDeclared component nested rest (name :: seen)

/-- Checks the props: each a state variable, each named once. -/
def checkProps (c : ComponentSource) : List String → List String → Except CompileError Unit
  | [], _ => pure ()
  | p :: rest, seen => do
    if !c.states.any (·.name == p) then
      throw (.unresolved p ("the exported props of <" ++ c.name ++ ">"))
    if seen.contains p then throw (.duplicate p c.name)
    checkProps c rest (p :: seen)

/-- Checks the props passed to a nested component: identifier names, each given once. -/
def checkPassedProps (component : String) : List PropBinding → List String → Except CompileError Unit
  | [], _ => pure ()
  | p :: rest, seen => do
    checkIdentifier p.name
    if seen.contains p.name then throw (.duplicate p.name component)
    checkPassedProps component rest (p.name :: seen)

mutual
/-- Checks template nodes in document order. -/
def checkNodes : List TemplateNode → Except CompileError Unit
  | [] => pure ()
  | n :: rest => do
    checkNode n
    checkNodes rest

/-- Checks one template node. -/
def checkNode : TemplateNode → Except CompileError Unit
  | .element tag _ _ children =>
    if tag.isEmpty then throw (.invalidIdentifier tag "element tags cannot be empty")
    else checkNodes children
  | .component name props => do
    checkIdentifier name
    checkPassedProps name props []
  | _ => pure ()
end

/-- The names a component declares, in order: states, derived, handlers, callbacks. -/
def ComponentSource.declared (c : ComponentSource) : List String :=
  c.states.map (·.name) ++ c.derived.map (·.name) ++ c.handlers.map (·.name) ++ c.callbacks

/-- The structural checks of a component description. -/
def validate (c : ComponentSource) : Except CompileError Unit := do
  checkIdentifier c.name
  checkDeclared c.name c.nested c.declared []
  checkProps c c.props []
  checkNodes c.nodes

end Reactive.Component
