import Reactive.Session.Basic
import Reactive.Value.Json
import Reactive.Component.Compile

/-!
Sessions as JSON. A step is an object with an `op` and the fields of that step; a missing path
is the root, a missing node index or `nth` is 0, a missing event is `click` for an event or a
handlers step and empty otherwise; a key that is not a pair of numbers spoils the step. A prop given as `{"$callback":name}` is the root's handler of that name,
`{"$key":[instance,handler]}` is that key, and anything else is a value.

Each step answers with `ok` and the reply's fields, or with the failure's kind and message, and
then a snapshot: the host calls made during the step, the container's subtree, the number of
live subscriptions, and the instance tree.

A whole run reads the options and the component descriptions, compiles them (as a program, or
each one alone), starts a session of the root component and performs the steps in order.
-/

namespace Reactive

open Component

/-- A handler key as a document, `[instance, handler]`. -/
def HandlerKey.toJson (k : HandlerKey) : Json := .array [Json.ofNat k.owner, Json.ofNat k.handler]

/-- A handler key from a document `[instance, handler, …]`, if it is one: an array whose first
two items are numbers; further items are not read. -/
def HandlerKey.ofJson? (j : Json) : Option HandlerKey :=
  match j with
  | .array (a :: b :: _) => do pure ⟨← a.getNat?, ← b.getNat?⟩
  | _ => none

/-- A host call as a document: its name followed by its arguments. -/
def HostCall.toJson : HostCall → Json
  | .createElement n t => .array [.string "createElement", Json.ofNat n, .string t]
  | .createText n v => .array [.string "createText", Json.ofNat n, .string v]
  | .append p c => .array [.string "append", Json.ofNat p, Json.ofNat c]
  | .remove p c => .array [.string "remove", Json.ofNat p, Json.ofNat c]
  | .setAttribute n k v => .array [.string "setAttribute", Json.ofNat n, .string k, .string v]
  | .setText n v => .array [.string "setText", Json.ofNat n, .string v]
  | .subscribe s n e => .array [.string "subscribe", Json.ofNat s, Json.ofNat n, .string e]
  | .unsubscribe s => .array [.string "unsubscribe", Json.ofNat s]

/-- How many levels below the container a snapshot shows; nodes further down show only their
number, marked as cut off. -/
def snapshotDepth : Nat := 200

/-- The subtree of a node as a document, `depth` levels deep: an element with its attributes,
children, number and tag, or a text node with its number and text; a node below the last level
is its number, marked as cut off. -/
def Host.treeJson (h : Host) : Nat → Nat → Json
  | 0, id => .object [("id", Json.ofNat id), ("truncated", .bool true)]
  | depth + 1, id =>
    match h.node? id with
    | some n =>
      match n.tag with
      | some t =>
        .object [("attrs", .object (n.attributes.map fun (k, v) => (k, .string v))),
          ("children", .array (n.children.map (h.treeJson depth))),
          ("id", Json.ofNat id), ("tag", .string t)]
      | none => .object [("id", Json.ofNat id), ("text", .string n.text)]
    | none => .object [("id", Json.ofNat id), ("text", .string "")]

/-- Counters as a document. -/
def Stats.toJson (s : Stats) : Json :=
  .object [("bindingWrites", Json.ofNat s.bindingWrites), ("mounts", Json.ofNat s.mounts),
    ("passes", Json.ofNat s.passes), ("propUpdates", Json.ofNat s.propUpdates)]

mutual
/-- An instance tree as a document. -/
def Instance.toJson : Instance → Json
  | .node s cs =>
    .object [("children", .array (Instance.listToJson cs)), ("component", .string s.plan.name),
      ("instance", Json.ofNat s.id), ("mounted", .bool (s.phase == .mounted)),
      ("pending", Json.ofStrings s.pending), ("stats", s.stats.toJson),
      ("values", .object (s.shownValues.map fun (n, v) => (n, v.toJson)))]

/-- Instance trees as documents. -/
def Instance.listToJson : List Instance → List Json
  | [] => []
  | i :: is => Instance.toJson i :: Instance.listToJson is
end

namespace Step

/-- A text field, or `d` when missing. -/
def textOr (j : Json) (k d : String) : String :=
  ((j.field? k).bind Json.getString?).getD d

/-- A text field, empty when missing. -/
def textAt (j : Json) (k : String) : String := textOr j k ""

/-- A count field, 0 when missing. -/
def countAt (j : Json) (k : String) : Nat := ((j.field? k).bind Json.getNat?).getD 0

/-- A list of texts. -/
def namesAt (j : Json) (k : String) : List String :=
  (((j.field? k).bind Json.getArray?).getD []).filterMap Json.getString?

/-- The path field, the root when missing. -/
def pathAt (j : Json) : List Nat :=
  (((j.field? "path").bind Json.getArray?).getD []).filterMap Json.getNat?

/-- The node a step picks. -/
def pickAt (j : Json) : NodePick := ⟨textAt j "tag", countAt j "index"⟩

/-- A prop given by a step. -/
def propInput (j : Json) : PropInput :=
  match j.field? "$callback", j.field? "$key" with
  | some c, _ => .rootHandler ((c.getString?).getD "")
  | none, some k => ((HandlerKey.ofJson? k).map .key).getD .badKey
  | none, none => .value (Value.ofJson j)

/-- The props field, sorted by name. -/
def propsAt (j : Json) : List (String × PropInput) :=
  match j.field? "props" with
  | some (.object fields) => (sortedFields fields).map fun (k, v) => (k, propInput v)
  | _ => []

/-- The key field, unless it is missing or malformed. -/
def keyAt (j : Json) : Option HandlerKey :=
  HandlerKey.ofJson? ((j.field? "key").getD .null)

/-- A step from its document. -/
def ofJson (j : Json) : Step :=
  let path := pathAt j
  match textAt j "op" with
  | "mount" => .mount path (propsAt j)
  | "fire" => .fire path (textAt j "handler")
  | "dispatch" => .dispatch path (keyAt j)
  | "event" => .event path (pickAt j) (textOr j "event" "click") (countAt j "nth")
  | "handlers" => .handlers (pickAt j) (textOr j "event" "click")
  | "handler_key" => .handlerKey path (textAt j "handler")
  | "assign" => .assign path (textAt j "name") (Value.ofJson ((j.field? "value").getD .null))
  | "request_update" => .requestUpdate path (namesAt j "names")
  | "apply" => .apply path (namesAt j "names")
  | "update_props" => .updateProps path (propsAt j)
  | "unmount" => .unmount path
  | "exported" => .exported path
  | "take_unowned" => .takeUnowned path
  | "fire_on_write" => .fireOnWrite (pickAt j) (textAt j "attribute") (textAt j "event")
  | "subscribe_foreign" => .subscribeForeign (pickAt j) (textAt j "event") (keyAt j)
  | op => .unknown op

end Step

/-- The fields of a reply. -/
def Reply.fields : Reply → List (String × Json)
  | .done => []
  | .key k => [("key", (k.map HandlerKey.toJson).getD .null)]
  | .keys ks => [("keys", .array (ks.map HandlerKey.toJson))]
  | .exported ns => [("exported", Json.ofStrings ns)]

/-- The kind and message of a failed step. -/
def StepFailure.fields : StepFailure → List (String × Json)
  | .missing m => [("error", .string "DriverError"), ("message", .string m)]
  | .instance e => [("error", .string e.kind), ("message", .string e.message)]

namespace Session

/-- What a session shows after a step. -/
def snapshot (s : Session) : List (String × Json) :=
  [("calls", .array (s.host.calls.map HostCall.toJson)),
   ("tree", s.host.treeJson (snapshotDepth + 1) s.container),
   ("live", Json.ofNat s.host.liveCount),
   ("root", s.root.toJson)]

/-- The answer of a step followed by the snapshot. -/
def answerJson (a : StepAnswer) (s : Session) : Json :=
  let head := match a.outcome with
    | .ok r => ("ok", .bool true) :: r.fields
    | .error f => f.fields
  let key := match a.dispatched with
    | some k => [("key", k.toJson)]
    | none => []
  .object (head ++ key ++ s.snapshot)

/-- Performs steps given as documents, answering each. -/
def runSteps : Session → List Json → List Json
  | _, [] => []
  | s, j :: js =>
    let (a, s) := s.step (Step.ofJson j)
    answerJson a s :: runSteps s js

end Session

/-- A failure before any step, by kind. -/
def setupError (kind message : String) : Json :=
  .object [("error", .string kind), ("message", .string message)]

/-- Runs a session: options as text, the component descriptions as a document, the root
component's name, whether each component compiles alone, and the steps. -/
def runSession (optionsText : String) (components : Json) (rootName : String) (separate : Bool)
    (steps : List Json) : Json :=
  match CompileOptions.parse optionsText with
  | .error e => setupError "InvalidOptions" e.message
  | .ok o =>
    match ComponentSource.ofDocList components with
    | .error m => setupError "InvalidInput" m
    | .ok cs =>
      let compiled := if separate then cs.mapM (compileComponent · o) else compileProgram cs o
      match compiled with
      | .error e => .object [("compileError", (e.toDiagnostic "").toJson)]
      | .ok rs =>
        match Session.start ⟨rs.map (·.plan), o.runtime⟩ rootName with
        | .error e => .object [("instantiateError", setupError e.kind e.message)]
        | .ok s =>
          .object [("exported", Json.ofStrings s.root.state.plan.exported),
            ("steps", .array (s.runSteps steps))]

end Reactive
