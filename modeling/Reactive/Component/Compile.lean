import Reactive.Component.Compose
import Reactive.Component.Emit
import Reactive.Component.PlanJson

/-!
Compiling components: the plan, the module text and the manifest of one component, and of every
component of a program after the composition checks (the first failure in input order is the one
reported). The JSON entry points read the description and options from text and always answer
with a document whose `status` is `ok` (with the result) or `error` (with a diagnostic).
-/

namespace Reactive.Component

/-- A compiled component: its module text and its plan. -/
structure CompileResult where
  code : String
  plan : ComponentPlan
  deriving Inhabited

/-- The JSON form of a compiled component. -/
def CompileResult.toJson (r : CompileResult) : Json :=
  .object [("code", .string r.code), ("manifest", r.plan.manifest), ("plan", r.plan.toJson)]

/-- Compiles one component. -/
def compileComponent (c : ComponentSource) (o : CompileOptions) : Except CompileError CompileResult := do
  let plan ← planComponent c
  pure ⟨generateModule plan o, plan⟩

/-- Compiles every component of a program, after the composition checks. -/
def compileProgram (cs : List ComponentSource) (o : CompileOptions) :
    Except CompileError (List CompileResult) := do
  validateComposition cs
  cs.mapM (compileComponent · o)

/-- The JSON form of the runtime options. -/
def RuntimeOptions.toJson (r : RuntimeOptions) : Json :=
  .object [("reentrancy", .string r.reentrancy.key), ("teardown", .string r.teardown.key),
    ("maxRedrainPasses", .number (.nat r.maxRedrainPasses.toNat))]

/-- A successful answer. -/
def okAnswer (result : Json) : Json :=
  .object [("status", .string "ok"), ("result", result)]

/-- A failed answer. -/
def errorAnswer (d : Diagnostic) : Json :=
  .object [("status", .string "error"), ("diagnostic", d.toJson)]

/-- Compiles one component given as JSON text, with options given as JSON text. -/
def compileComponentJson (irText optionsText : String) : Json :=
  match CompileOptions.parse optionsText with
  | .error e => errorAnswer (inputDiagnostic "" "options" e.message)
  | .ok o =>
    match ComponentSource.parse irText with
    | .error e => errorAnswer (inputDiagnostic o.filePath "component IR" e.message)
    | .ok c =>
      let file := if c.filePath.isEmpty then o.filePath else c.filePath
      match compileComponent c o with
      | .ok r => okAnswer r.toJson
      | .error e => errorAnswer (e.toDiagnostic file)

/-- Compiles a program given as a JSON array of components, with options given as JSON text. -/
def compileProgramJson (componentsText optionsText : String) : Json :=
  match CompileOptions.parse optionsText with
  | .error e => errorAnswer (inputDiagnostic "" "options" e.message)
  | .ok o =>
    match ComponentSource.parseList componentsText with
    | .error e => errorAnswer (inputDiagnostic o.filePath "program IR" e.message)
    | .ok cs =>
      match compileProgram cs o with
      | .ok rs =>
        okAnswer (.object [("components", .array (rs.map CompileResult.toJson)),
          ("runtime", o.runtime.toJson)])
      | .error e => errorAnswer (e.toDiagnostic o.filePath)

end Reactive.Component
