import Reactive.Json.Schema
import Reactive.Text.Blank

/-!
Compile options: the file path reported in diagnostics, what happens to updates requested while
bindings are being written (run the derived pass and the bindings again, up to a number of extra
passes, or keep the names for the next update), whether a parent's unmount also unmounts nested
instances, and whether the emitted module has an `exported()` query. Every option may be left
out, and an empty text means all defaults.
-/

namespace Reactive.Component

/-- What happens to names requested while bindings are being written. -/
inductive Reentrancy where
  /-- run the derived pass and the bindings again while names are pending -/
  | redrain
  /-- keep the names pending until the next update -/
  | buffer
  deriving Inhabited, BEq, DecidableEq

/-- What a parent's unmount does with nested instances. -/
inductive Teardown where
  /-- nested instances are unmounted with their parent -/
  | recursive
  /-- nested instances stay mounted; their owner unmounts them -/
  | explicit
  deriving Inhabited, BEq, DecidableEq

/-- Compile options. -/
structure CompileOptions where
  filePath : String := ""
  reentrancy : Reentrancy := .redrain
  teardown : Teardown := .recursive
  maxRedrainPasses : UInt32 := 32
  emitExported : Bool := true
  deriving Inhabited

/-- The options the runtime honours. -/
structure RuntimeOptions where
  reentrancy : Reentrancy := .redrain
  teardown : Teardown := .recursive
  maxRedrainPasses : UInt32 := 32
  deriving Inhabited

/-- The runtime part of compile options. -/
def CompileOptions.runtime (o : CompileOptions) : RuntimeOptions :=
  ⟨o.reentrancy, o.teardown, o.maxRedrainPasses⟩

/-- JSON name of a reentrancy policy. -/
def Reentrancy.key : Reentrancy → String
  | .redrain => "redrain"
  | .buffer => "buffer"

/-- JSON name of a teardown policy. -/
def Teardown.key : Teardown → String
  | .recursive => "recursive"
  | .explicit => "explicit"

/-- The shape of options: every field has a default. -/
def optionsShape : Shape :=
  .record "CompileOptions"
    [("filePath", .string, some (.string "")),
     ("reentrancy", .units "ReentrancyPolicy" ["redrain", "buffer"], some (.string "redrain")),
     ("teardown", .units "TeardownPolicy" ["recursive", "explicit"], some (.string "recursive")),
     ("maxRedrainPasses", .count, some (.number (.nat 32))),
     ("emitExported", .flag, some (.bool true)),
     ("cacheDir", .option .path, some .null)]

/-- Options from their normal form. -/
def CompileOptions.ofData (j : Json) : CompileOptions where
  filePath := ((j.field? "filePath").bind Json.getString?).getD ""
  reentrancy := if (j.field? "reentrancy").bind Json.getString? == some "buffer" then .buffer
    else .redrain
  teardown := if (j.field? "teardown").bind Json.getString? == some "explicit" then .explicit
    else .recursive
  -- the shape admits only counts below 2^32, so the conversion keeps the number
  maxRedrainPasses := (((j.field? "maxRedrainPasses").bind Json.getNat?).map Nat.toUInt32).getD 32
  emitExported := ((j.field? "emitExported").bind Json.getBool?).getD true

/-- Options given as a document, as compact text with keys in byte order and without a
top-level cache directory, which the compiler does not read. -/
def CompileOptions.docText (j : Json) : String :=
  match j.sortFields with
  | .object fields => (Json.object (fields.filter (·.1 != "cacheDir"))).render
  | d => d.render

/-- Options text as the compiler receives it: a text that reads as a JSON object is written
again by `CompileOptions.docText`; any other text is kept as written, so that its error points
into it. -/
def CompileOptions.normalText (text : String) : String :=
  match Json.parse text with
  | .ok (.object fields) => CompileOptions.docText (.object fields)
  | _ => text

/-- Reads options from a JSON text; a text of blanks only gives the defaults. -/
def CompileOptions.parse (text : String) : Except JsonError CompileOptions :=
  if (Text.trimBoth text).isEmpty then .ok {}
  else (Shape.parseText (fun _ => .string) optionsShape text).map CompileOptions.ofData

end Reactive.Component
