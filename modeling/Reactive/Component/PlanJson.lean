import Reactive.Component.Plan
import Reactive.Script.Encode

/-!
The JSON form of lifecycle plans, and the manifest of a compiled component: its name, the props
it accepts, the dependencies of each derived value (by name, in byte order of the names), the
order of the derived pass, and the nested components it uses (first use first).
-/

namespace Reactive.Component

open Script

/-- A natural number as JSON. -/
def natJson (n : Nat) : Json := .number (.nat n)

/-- An optional index as JSON: the number, or `null`. -/
def parentJson : Option Nat → Json
  | some n => natJson n
  | none => .null

/-- The JSON form of a handler reference. -/
def HandlerRef.toJson : HandlerRef → Json
  | .handler i => .object [("kind", .string "local"), ("index", natJson i)]
  | .callback n => .object [("kind", .string "callback"), ("name", .string n)]

/-- The JSON form of a node kind. -/
def NodeKind.toJson : NodeKind → Json
  | .element tag attrs =>
    .object [("kind", .string "element"), ("tag", .string tag),
      ("attributes", .array (attrs.map fun (n, v) => .array [.string n, .string v]))]
  | .text v => .object [("kind", .string "text"), ("value", .string v)]

/-- The JSON form of a binding target. -/
def BindingTarget.toJson : BindingTarget → Json
  | .text => .object [("kind", .string "text")]
  | .attribute n => .object [("kind", .string "attribute"), ("name", .string n)]

/-- The JSON form of a prop value. -/
def ChildPropValue.toJson : ChildPropValue → Json
  | .expression e deps r =>
    .object [("kind", .string "expression"), ("expr", e.toJson),
      ("dependencies", Json.ofStrings deps), ("reactive", .bool r)]
  | .callback h => .object [("kind", .string "callback"), ("handler", h.toJson)]

/-- The JSON form of a placement. -/
def Placement.toJson : Placement → Json
  | .node i => .object [("kind", .string "node"), ("index", natJson i)]
  | .child i => .object [("kind", .string "child"), ("index", natJson i)]

/-- The JSON form of a lifecycle plan. -/
def ComponentPlan.toJson (p : ComponentPlan) : Json :=
  .object [
    ("name", .string p.name),
    ("states", .array (p.states.map fun s =>
      .object [("name", .string s.name), ("init", s.init.toJson)])),
    ("derived", .array (p.derived.map fun d =>
      .object [("name", .string d.name), ("body", d.body.toJson),
        ("dependencies", Json.ofStrings d.dependencies), ("reactive", .bool d.reactive)])),
    ("nodes", .array (p.nodes.map fun n =>
      .object [("var", .string n.var), ("kind", n.kind.toJson), ("parent", parentJson n.parent)])),
    ("bindings", .array (p.bindings.map fun b =>
      .object [("node", natJson b.node), ("target", b.target.toJson), ("expr", b.expr.toJson),
        ("dependencies", Json.ofStrings b.dependencies), ("reactive", .bool b.reactive)])),
    ("events", .array (p.events.map fun e =>
      .object [("node", natJson e.node), ("event", .string e.event),
        ("handler", e.handler.toJson)])),
    ("handlers", .array (p.handlers.map fun h =>
      .object [("name", .string h.name), ("body", .array (stmtsToJson h.body)),
        ("mutates", Json.ofStrings h.mutates)])),
    ("children", .array (p.children.map fun c =>
      .object [("var", .string c.var), ("component", .string c.component),
        ("parent", parentJson c.parent),
        ("props", .array (c.props.map fun pr =>
          .object [("name", .string pr.name), ("value", pr.value.toJson)]))])),
    ("placements", .array (p.placements.map Placement.toJson)),
    ("props", Json.ofStrings p.props),
    ("callbacks", Json.ofStrings p.callbacks)]

/-- The manifest of a compiled component. -/
def ComponentPlan.manifest (p : ComponentPlan) : Json :=
  let children := p.children.foldl (fun acc c => addName acc c.component) []
  .object [
    ("component", .string p.name),
    ("exported", Json.ofStrings p.exported),
    ("dependencies", .object (sortedFields (p.derived.map fun d =>
      (d.name, Json.ofStrings d.dependencies)))),
    ("order", Json.ofStrings (p.derived.map (·.name))),
    ("children", Json.ofStrings children)]

end Reactive.Component
