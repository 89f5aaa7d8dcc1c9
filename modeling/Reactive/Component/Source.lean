import Reactive.Json.Schema

/-!
Component descriptions as they arrive from a front end: a name, the file it came from, state
variables with initializer texts, derived declarations with body texts (and optionally their
dependencies written out), handlers with body texts, the names of state a parent may set (props)
and of callbacks a parent may pass, and a template of nodes.

A template node is an element (tag, attributes with a fixed text or an expression, events bound
to handler names, children), a fixed text, an expression whose value is shown as text, or an
instance of another component with its props.

The JSON reading of descriptions is given by shapes (`Json/Schema`); source locations are read
and checked but play no further part.
-/

namespace Reactive.Component

/-- A state variable and the text of its initial value. -/
structure StateSource where
  name : String
  init : String
  deriving Inhabited

/-- A derived declaration: its body text and, when written out, its dependencies. -/
structure DerivedSource where
  name : String
  body : String
  dependencies : Option (List String)
  deriving Inhabited

/-- A handler and the text of its body. -/
structure HandlerSource where
  name : String
  body : String
  deriving Inhabited

/-- The value of an element attribute: a fixed text, or the text of an expression. -/
inductive AttrValue where
  | fixed (text : String)
  | dynamic (code : String)
  deriving Inhabited

/-- An element attribute. -/
structure Attribute where
  name : String
  value : AttrValue
  deriving Inhabited

/-- An event of an element bound to a handler or callback name. -/
structure EventSource where
  event : String
  handler : String
  deriving Inhabited

/-- The value passed for a prop of a nested component. -/
inductive PropSource where
  /-- the text of an expression, re-evaluated when its inputs change -/
  | expression (code : String)
  /-- the name of a handler or callback of the parent -/
  | callback (name : String)
  /-- a fixed text -/
  | fixed (text : String)
  deriving Inhabited

/-- A prop passed to a nested component. -/
structure PropBinding where
  name : String
  value : PropSource
  deriving Inhabited

/-- Template nodes. -/
inductive TemplateNode where
  | element (tag : String) (attributes : List Attribute) (events : List EventSource)
      (children : List TemplateNode)
  | text (value : String)
  | expression (code : String)
  | component (name : String) (props : List PropBinding)
  deriving Inhabited

/-- A component description. -/
structure ComponentSource where
  name : String
  filePath : String
  states : List StateSource
  derived : List DerivedSource
  handlers : List HandlerSource
  props : List String
  callbacks : List String
  nodes : List TemplateNode
  deriving Inhabited

mutual
/-- Names of the nested components of nodes, in document order. -/
def nestedInNodes : List TemplateNode → List String
  | [] => []
  | n :: rest => nestedInNode n ++ nestedInNodes rest

/-- Names of the nested components of a node, in document order. -/
def nestedInNode : TemplateNode → List String
  | .element _ _ _ children => nestedInNodes children
  | .component name _ => [name]
  | _ => []
end

/-- Names of the components a template instantiates, in document order. -/
def ComponentSource.nested (c : ComponentSource) : List String := nestedInNodes c.nodes

mutual
/-- The component nodes among nodes, in document order. -/
def instancesInNodes : List TemplateNode → List (String × List PropBinding)
  | [] => []
  | n :: rest => instancesInNode n ++ instancesInNodes rest

/-- The component nodes in a node, in document order. -/
def instancesInNode : TemplateNode → List (String × List PropBinding)
  | .element _ _ _ children => instancesInNodes children
  | .component name props => [(name, props)]
  | _ => []
end

/-! ## Shapes -/

/-- A field without default. -/
def required (k : String) (s : Shape) : String × Shape × Option Json := (k, s, none)

/-- A field with a default. -/
def optional (k : String) (s : Shape) (d : Json) : String × Shape × Option Json := (k, s, some d)

/-- Source locations: a line and a column. -/
def locationShape : Shape :=
  .record "SourceLocation" [required "line" .count, required "column" .count]

/-- The location used when none is given. -/
def noLocation : Json := .object [("line", .number (.nat 0)), ("column", .number (.nat 0))]

/-- The location field, which may be left out. -/
def locationField : String × Shape × Option Json := optional "location" locationShape noLocation

/-- Lists of strings. -/
def namesShape : Shape := .seq .string

/-- State variables. -/
def stateShape : Shape :=
  .record "StateIR" [required "name" .string, optional "init" .string (.string "undefined"),
    locationField]

/-- Derived declarations. -/
def derivedShape : Shape :=
  .record "DerivedIR" [required "name" .string, required "body" .string,
    optional "dependencies" (.option namesShape) .null, locationField]

/-- Handlers. -/
def handlerShape : Shape :=
  .record "HandlerIR" [required "name" .string, required "body" .string, locationField]

/-- Attribute values: a string, or an object holding the code. -/
def attrValueShape : Shape :=
  .untagged "AttributeValue" [.string, .record "ExpressionIR" [required "code" .string]]

/-- Element attributes. -/
def attributeShape : Shape :=
  .record "AttributeIR" [required "name" .string, required "value" attrValueShape, locationField]

/-- Element events. -/
def eventShape : Shape :=
  .record "EventIR" [required "event" .string, required "handler" .string, locationField]

/-- Values of props of nested components: a kind next to a value. -/
def propValueShape : Shape :=
  .adjacent "PropValueIR" "kind" "value"
    [("expression", .string), ("callback", .string), ("static", .string)]

/-- Props of nested components. -/
def propShape : Shape :=
  .record "PropIR" [required "name" .string, required "value" propValueShape, locationField]

/-- Template nodes, told apart by their `type`. -/
def templateNodeShape : Shape :=
  .tagged "TemplateNode" "type"
    [("element", .record "ElementNode" [required "tag" .string,
        optional "attributes" (.seq attributeShape) (.array []),
        optional "events" (.seq eventShape) (.array []),
        optional "children" (.seq (.named "TemplateNode")) (.array []), locationField]),
     ("text", .record "TextNode" [required "value" .string, locationField]),
     ("expression", .record "ExpressionNode" [required "expression" .string, locationField]),
     ("component", .record "ComponentNode" [required "name" .string,
        optional "props" (.seq propShape) (.array []), locationField])]

/-- Component descriptions. -/
def componentShape : Shape :=
  .record "ComponentIR" [required "name" .string, optional "filePath" .string (.string ""),
    optional "states" (.seq stateShape) (.array []),
    optional "derived" (.seq derivedShape) (.array []),
    optional "handlers" (.seq handlerShape) (.array []),
    optional "props" namesShape (.array []),
    optional "callbacks" namesShape (.array []),
    optional "nodes" (.seq (.named "TemplateNode")) (.array [])]

/-- The shapes called by name. -/
def resolveShape : String → Shape
  | _ => templateNodeShape

/-! ## From normal form -/

/-- A string field of a normal-form record. -/
def textField (j : Json) (k : String) : String :=
  ((j.field? k).bind Json.getString?).getD ""

/-- A list field of a normal-form record. -/
def listField (j : Json) (k : String) : List Json :=
  ((j.field? k).bind Json.getArray?).getD []

/-- A list-of-strings field of a normal-form record. -/
def namesField (j : Json) (k : String) : List String :=
  (listField j k).filterMap Json.getString?

/-- A state variable from its normal form. -/
def StateSource.ofData (j : Json) : StateSource := ⟨textField j "name", textField j "init"⟩

/-- A derived declaration from its normal form. -/
def DerivedSource.ofData (j : Json) : DerivedSource :=
  let deps := match j.field? "dependencies" with
    | some (.array xs) => some (xs.filterMap Json.getString?)
    | _ => none
  ⟨textField j "name", textField j "body", deps⟩

/-- A handler from its normal form. -/
def HandlerSource.ofData (j : Json) : HandlerSource := ⟨textField j "name", textField j "body"⟩

/-- An attribute from its normal form. -/
def Attribute.ofData (j : Json) : Attribute :=
  let value := match j.field? "value" with
    | some (.array [_, .string s]) => AttrValue.fixed s
    | some (.array [_, obj]) => AttrValue.dynamic (textField obj "code")
    | _ => AttrValue.fixed ""
  ⟨textField j "name", value⟩

/-- An event from its normal form. -/
def EventSource.ofData (j : Json) : EventSource := ⟨textField j "event", textField j "handler"⟩

/-- A prop from its normal form. -/
def PropBinding.ofData (j : Json) : PropBinding :=
  let v := (j.field? "value").getD .null
  let text := textField v "value"
  let value := match textField v "kind" with
    | "callback" => PropSource.callback text
    | "static" => PropSource.fixed text
    | _ => PropSource.expression text
  ⟨textField j "name", value⟩

/-- A template node from its normal form; `fuel` bounds the depth. -/
def TemplateNode.ofData : Nat → Json → TemplateNode
  | 0, _ => .text ""
  | fuel + 1, j =>
    match textField j "type" with
    | "element" =>
      .element (textField j "tag") ((listField j "attributes").map Attribute.ofData)
        ((listField j "events").map EventSource.ofData)
        ((listField j "children").map (TemplateNode.ofData fuel))
    | "text" => .text (textField j "value")
    | "expression" => .expression (textField j "expression")
    | _ => .component (textField j "name") ((listField j "props").map PropBinding.ofData)

/-- Depth bound for template nodes read from normal form. -/
def nodeDepth : Nat := 1024

/-- A component description from its normal form. -/
def ComponentSource.ofData (j : Json) : ComponentSource where
  name := textField j "name"
  filePath := textField j "filePath"
  states := (listField j "states").map StateSource.ofData
  derived := (listField j "derived").map DerivedSource.ofData
  handlers := (listField j "handlers").map HandlerSource.ofData
  props := namesField j "props"
  callbacks := namesField j "callbacks"
  nodes := (listField j "nodes").map (TemplateNode.ofData nodeDepth)

/-- Reads a component description from JSON text. -/
def ComponentSource.parse (text : String) : Except JsonError ComponentSource :=
  (Shape.parseText resolveShape componentShape text).map ComponentSource.ofData

/-- Reads a list of component descriptions from JSON text. -/
def ComponentSource.parseList (text : String) : Except JsonError (List ComponentSource) :=
  (Shape.parseText resolveShape (.seq componentShape) text).map fun j =>
    (j.getArray?.getD []).map ComponentSource.ofData

/-- Checks a document as a list of component descriptions. -/
def ComponentSource.ofDocList (doc : Json) : Except String (List ComponentSource) :=
  (Shape.readDoc resolveShape 512 false (.seq componentShape) doc).map fun j =>
    (j.getArray?.getD []).map ComponentSource.ofData

end Reactive.Component
