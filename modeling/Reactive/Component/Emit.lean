import Reactive.Component.Plan
import Reactive.Component.Options
import Reactive.Script.Printer

/-!
Emitting a lifecycle plan as an ES module. The module's default export is a factory; each call
returns a fresh lifecycle object (`exported`, `mount`, `apply`, `update`, `unmount`, and
`children` when nested instances are torn down by their owner) with its own pending set and
flushing flag.

* `mount` takes props, computes every derived value, creates the nodes, writes the bindings,
  subscribes the events, and places nodes and nested instances in document order.
* A handler runs its body and requests one update for what it mutates. An update runs the
  derived steps whose dependencies changed, then `apply`, which rewrites the reactive bindings
  and forwards changed props to nested instances. With the redrain policy, updates requested
  meanwhile run in further passes, up to the pass limit.
* `unmount` removes subscriptions in reverse, removes the root nodes in reverse, and (with
  recursive teardown) unmounts nested instances in reverse.
-/

namespace Reactive.Component

open Script

/-- Left brace. -/
def lb : String := "\x7b"
/-- Right brace. -/
def rb : String := "\x7d"

/-- Prints an expression at a given precedence, in parentheses when it binds more loosely. -/
def printAt (e : Expr) (min : Nat) : String := bracketIf (e.prec < min) (printExpr e)

/-- The test that one of the dependencies changed. -/
def changedTest (deps : List String) : String :=
  " || ".intercalate (deps.map fun d => "changed.has(" ++ quoted d ++ ")")

/-- The expression of a handler reference in the module. -/
def handlerExpr : HandlerRef → String
  | .handler i => "handlers[" ++ Number.natText i ++ "]"
  | .callback n => "callbacks." ++ n

/-- The variable of a node. -/
def nodeVar (p : ComponentPlan) (i : Nat) : String := ((p.nodes[i]?).map (·.var)).getD ""

/-- The statement writing a binding. -/
def writeBinding (p : ComponentPlan) (node : Nat) (target : BindingTarget) (e : Expr) : String :=
  let value := "String(" ++ printExpr e ++ ")"
  match target with
  | .text => nodeVar p node ++ ".data = " ++ value ++ ";"
  | .attribute n => nodeVar p node ++ ".setAttribute(" ++ quoted n ++ ", " ++ value ++ ");"

/-- Import lines for the nested components, first use first. -/
def importLines (p : ComponentPlan) : List String :=
  (p.children.foldl (fun acc c => addName acc c.component) []).map fun c =>
    "import " ++ c ++ " from \"./" ++ c ++ ".js\";"

/-- Declarations of state, derived values and node variables. -/
def declarationLines (p : ComponentPlan) : List String :=
  let vars := p.nodes.map (·.var) ++ p.children.map (·.var)
  p.states.map (fun s => "let " ++ s.name ++ " = " ++ printExpr s.init ++ ";") ++
    p.derived.map (fun d => "let " ++ d.name ++ ";") ++
    (if vars.isEmpty then [] else ["let " ++ ", ".intercalate vars ++ ";"])

/-- The derived pass: reactive steps whose dependencies changed. -/
def derivedLines (p : ComponentPlan) : List String :=
  (p.derived.filter (·.reactive)).flatMap fun d =>
    ["if (" ++ changedTest d.dependencies ++ ") " ++ lb,
     "  " ++ d.name ++ " = " ++ printExpr d.body ++ ";",
     "  changed.add(" ++ quoted d.name ++ ");",
     rb]

/-- The handler functions. -/
def handlerLines (p : ComponentPlan) : List String :=
  p.handlers.flatMap fun h =>
    ["function " ++ h.name ++ "() " ++ lb] ++ printStmts "  " h.body ++ [rb ++ ","]

/-- The props passed at mount to a nested instance. -/
def childPropsText (c : ChildPlan) : String :=
  ", ".intercalate (c.props.map fun pr =>
    match pr.value with
    | .expression e _ _ => pr.name ++ ": " ++ printAt e precLambda
    | .callback h => pr.name ++ ": " ++ handlerExpr h)

/-- The body of `mount`. -/
def mountLines (p : ComponentPlan) : List String :=
  let propLines := p.props.map fun n =>
    "if (" ++ quoted n ++ " in props) " ++ n ++ " = props." ++ n ++ ";"
  let callbackLines := p.callbacks.map fun n =>
    "if (" ++ quoted n ++ " in props) callbacks." ++ n ++ " = props." ++ n ++ ";"
  let derivedInit := p.derived.map fun d => d.name ++ " = " ++ printExpr d.body ++ ";"
  let nodeLines := p.nodes.flatMap fun n =>
    match n.kind with
    | .element tag attrs =>
      (n.var ++ " = document.createElement(" ++ quoted tag ++ ");") ::
        attrs.map fun (a, v) => n.var ++ ".setAttribute(" ++ quoted a ++ ", " ++ quoted v ++ ");"
    | .text v => [n.var ++ " = document.createTextNode(" ++ quoted v ++ ");"]
  let bindingLines := p.bindings.map fun b => writeBinding p b.node b.target b.expr
  let eventLines := p.events.map fun e =>
    "subscribe(" ++ nodeVar p e.node ++ ", " ++ quoted e.event ++ ", " ++ handlerExpr e.handler ++ ");"
  let placementLines := p.placements.flatMap fun pl =>
    match pl with
    | .node i =>
      match p.nodes[i]? with
      | some n =>
        let into := match n.parent with
          | some q => nodeVar p q
          | none => "container"
        [into ++ ".appendChild(" ++ n.var ++ ");"]
      | none => []
    | .child i =>
      match p.children[i]? with
      | some c =>
        let into := match c.parent with
          | some q => nodeVar p q
          | none => "container"
        [c.var ++ " = " ++ c.component ++ "();",
         c.var ++ ".mount(" ++ into ++ ", " ++ lb ++ " " ++ childPropsText c ++ " " ++ rb ++ ");"]
      | none => []
  propLines ++ callbackLines ++ derivedInit ++ nodeLines ++ bindingLines ++ eventLines ++
    placementLines

/-- The body of `apply`: reactive bindings whose dependencies changed, then changed props
forwarded to nested instances. -/
def applyLines (p : ComponentPlan) : List String :=
  let bindingLines := (p.bindings.filter (·.reactive)).map fun b =>
    "if (" ++ changedTest b.dependencies ++ ") " ++ writeBinding p b.node b.target b.expr
  let childLines := p.children.flatMap fun c =>
    let forwarded := c.props.filterMap fun pr =>
      match pr.value with
      | .expression e deps true => some (pr.name, e, deps)
      | _ => none
    if forwarded.isEmpty then []
    else
      [lb, "  const props = " ++ lb ++ rb ++ ";"] ++
        forwarded.map (fun (n, e, deps) =>
          "  if (" ++ changedTest deps ++ ") props." ++ n ++ " = " ++ printExpr e ++ ";") ++
        ["  if (Object.keys(props).length > 0) " ++ c.var ++ ".update(props);", rb]
  bindingLines ++ childLines

/-- The body of `update`: props given are taken and requested. -/
def updateLines (p : ComponentPlan) : List String :=
  p.props.map fun n =>
    "if (" ++ quoted n ++ " in props) " ++ lb ++ " " ++ n ++ " = props." ++ n ++ "; names.push(" ++
      quoted n ++ "); " ++ rb

/-- The body of `unmount`. -/
def unmountLines (p : ComponentPlan) (o : CompileOptions) : List String :=
  ["for (const [node, event, handler] of subscriptions.reverse()) " ++ lb,
   "  node.removeEventListener(event, handler);",
   rb,
   "subscriptions.length = 0;"] ++
  (p.roots.reverse.filterMap fun pl =>
    match pl with
    | .node i => some ("target.removeChild(" ++ nodeVar p i ++ ");")
    | .child _ => none) ++
  (if o.teardown == .recursive then p.children.reverse.map (fun c => c.var ++ ".unmount();") else [])

/-- The body of the update flush, by reentrancy policy. -/
def flushLines (p : ComponentPlan) (o : CompileOptions) : List String :=
  "flushing = true;" ::
  match o.reentrancy with
  | .buffer =>
    ["const changed = pending;",
     "pending = new Set();",
     "runDerived(changed);",
     "try " ++ lb,
     "  lifecycle.apply(changed);",
     rb ++ " finally " ++ lb,
     "  flushing = false;",
     rb]
  | .redrain =>
    ["let passes = 0;",
     "try " ++ lb,
     "  do " ++ lb,
     "    if (passes > " ++ Number.natText o.maxRedrainPasses.toNat ++
       ") throw new Error(\"UpdateLoop: <" ++ p.name ++ "> kept requesting updates\");",
     "    const changed = pending;",
     "    pending = new Set();",
     "    runDerived(changed);",
     "    lifecycle.apply(changed);",
     "    passes += 1;",
     "  " ++ rb ++ " while (pending.size > 0);",
     rb ++ " finally " ++ lb,
     "  flushing = false;",
     rb]

/-- Lines indented by `depth` steps of two blanks. -/
def indented (depth : Nat) (lines : List String) : List String :=
  let pad := String.ofList (List.replicate (2 * depth) ' ')
  lines.map (pad ++ ·)

/-- The error thrown when the phase is not `mounted`. -/
def notMounted (p : ComponentPlan) : String :=
  "      if (phase !== \"mounted\") throw new Error(\"NotMounted: <" ++ p.name ++ ">\");"

/-- The module text of a plan. -/
def generateModule (p : ComponentPlan) (o : CompileOptions) : String :=
  let imports := importLines p
  let head := if imports.isEmpty then [] else ["\n".intercalate imports, ""]
  let lines := head ++
    ["export default function " ++ p.name ++ "() " ++ lb] ++
    indented 1 (declarationLines p) ++
    ["  let pending = new Set();",
     "  let flushing = false;",
     "  let phase = \"created\";",
     "  let target;",
     "  const callbacks = " ++ lb ++ rb ++ ";",
     "  const subscriptions = [];",
     "",
     "  function subscribe(node, event, handler) " ++ lb,
     "    if (!handler) return;",
     "    node.addEventListener(event, handler);",
     "    subscriptions.push([node, event, handler]);",
     "  " ++ rb,
     "",
     "  function runDerived(changed) " ++ lb] ++
    indented 2 (derivedLines p) ++
    ["  " ++ rb,
     "",
     "  function requestUpdate(names) " ++ lb,
     "    for (const name of names) pending.add(name);",
     "    if (flushing) return;"] ++
    indented 2 (flushLines p o) ++
    ["  " ++ rb,
     "",
     "  const handlers = ["] ++
    indented 2 (handlerLines p) ++
    ["  ];",
     "",
     "  const lifecycle = " ++ lb] ++
    (if o.emitExported then
      ["    exported() " ++ lb ++ " return " ++ nameList p.exported ++ "; " ++ rb ++ ","]
     else []) ++
    ["    mount(container, props = " ++ lb ++ rb ++ ") " ++ lb,
     "      if (phase !== \"created\") throw new Error(\"AlreadyMounted: <" ++ p.name ++ ">\");",
     "      target = container;"] ++
    indented 3 (mountLines p) ++
    ["      phase = \"mounted\";",
     "      return lifecycle;",
     "    " ++ rb ++ ",",
     "    apply(changed) " ++ lb,
     notMounted p,
     "      changed = changed instanceof Set ? changed : new Set(changed);"] ++
    indented 3 (applyLines p) ++
    ["    " ++ rb ++ ",",
     "    update(props) " ++ lb,
     notMounted p,
     "      const names = [];"] ++
    indented 3 (updateLines p) ++
    ["      if (names.length > 0) requestUpdate(names);",
     "    " ++ rb ++ ","] ++
    (if o.teardown == .explicit then
      ["    children() " ++ lb ++ " return [" ++ ", ".intercalate (p.children.map (·.var)) ++ "]; " ++
        rb ++ ","]
     else []) ++
    ["    unmount() " ++ lb,
     notMounted p] ++
    indented 3 (unmountLines p o) ++
    ["      pending.clear();",
     "      phase = \"unmounted\";",
     "    " ++ rb ++ ",",
     "  " ++ rb ++ ";",
     "  return lifecycle;",
     rb]
  "\n".intercalate lines ++ "\n"

end Reactive.Component
