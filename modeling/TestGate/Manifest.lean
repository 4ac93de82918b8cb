import TestGate.Format
import TestGate.Location
import TestGate.SortedMap
import TestGate.Text.Blank

/-!
Collection manifests: the tests that a runner has collected, with their markers, docstrings and
source texts.
-/

namespace TestGate

open Text

/-- A marker of a test. -/
structure Marker where
  name : String
  args : List String := []
  kwargs : SortedMap String String := SortedMap.empty
deriving BEq, Inhabited

/-- The argument that may name an issue: the keyword `reason`, else the first argument; trimmed, and
none if it is blank. -/
def Marker.issueArgument? (marker : Marker) : Option String :=
  ((marker.kwargs.find? "reason").or marker.args.head?).map trim |>.filter (· != "")

/-- A source file with tests. -/
structure TestModule where
  name : String
  path : String
  docstring : Option String := none
  source : String := ""
deriving DecidableEq, Repr, Inhabited

/-- A test. Its markers are listed from the closest to the farthest. -/
structure TestItem where
  nodeId : String
  moduleName : String
  location : Location
  classDocstring : Option String := none
  functionDocstring : Option String := none
  markers : List Marker := []
  source : String := ""
deriving BEq, Inhabited

def TestItem.closestMarker? (item : TestItem) (name : String) : Option Marker :=
  item.markers.find? fun marker => marker.name == name

/-- The modules and tests of a collection. -/
structure Manifest where
  modules : List TestModule := []
  items : List TestItem := []
deriving BEq, Inhabited

def Manifest.module? (manifest : Manifest) (name : String) : Option TestModule :=
  manifest.modules.find? fun testModule => testModule.name == name

/-! ## Reading -/

section Reading

variable {τ ε : Type} [Format τ ε]

def Location.read (value : τ) : Except ε Location := do
  let fields ← Format.fields ["path", "line", "name"] value
  let path ← Format.field fields "path" Format.text
  let line ← Format.field fields "line" (Format.natural Location.largestLine)
  let name ← Format.field fields "name" Format.text
  return { path, line, name }

def Marker.read (value : τ) : Except ε Marker := do
  let fields ← Format.fields ["name", "args", "kwargs"] value
  let name ← Format.field fields "name" Format.text
  let args ← Format.fieldOr fields "args" [] (Format.list Format.text)
  let kwargs ← Format.fieldOr fields "kwargs" [] fun value => do
    (← Format.pairs value).mapM fun (key, value) => return (key, ← Format.text value)
  return { name, args, kwargs := SortedMap.ofList kwargs }

def TestModule.read (value : τ) : Except ε TestModule := do
  let fields ← Format.fields ["name", "path", "docstring", "source"] value
  let name ← Format.field fields "name" Format.text
  let path ← Format.field fields "path" Format.text
  let docstring ← Format.fieldOr fields "docstring" none Format.optionalText
  let source ← Format.fieldOr fields "source" "" Format.text
  return { name, path, docstring, source }

def TestItem.read (value : τ) : Except ε TestItem := do
  let fields ← Format.fields
    ["node_id", "module", "location", "class_docstring", "function_docstring", "markers", "source"]
    value
  let nodeId ← Format.field fields "node_id" Format.text
  let moduleName ← Format.field fields "module" Format.text
  let location ← Format.field fields "location" Location.read
  let classDocstring ← Format.fieldOr fields "class_docstring" none Format.optionalText
  let functionDocstring ← Format.fieldOr fields "function_docstring" none Format.optionalText
  let markers ← Format.fieldOr fields "markers" [] (Format.list Marker.read)
  let source ← Format.fieldOr fields "source" "" Format.text
  return { nodeId, moduleName, location, classDocstring, functionDocstring, markers, source }

def Manifest.read (value : τ) : Except ε Manifest := do
  let fields ← Format.fields ["modules", "items"] value
  let modules ← Format.fieldOr fields "modules" [] (Format.list TestModule.read)
  let items ← Format.fieldOr fields "items" [] (Format.list TestItem.read)
  return { modules, items }

end Reading

/-! ## Writing -/

def Location.toJson (location : Location) : Json :=
  .object [("path", .text location.path), ("line", Json.ofNat location.line),
    ("name", .text location.name)]

def Marker.toJson (marker : Marker) : Json :=
  .object [("name", .text marker.name), ("args", Json.ofTexts marker.args),
    ("kwargs", .object (marker.kwargs.mapValues fun _ value => Json.text value).entries)]

def TestModule.toJson (testModule : TestModule) : Json :=
  .object [("name", .text testModule.name), ("path", .text testModule.path),
    ("docstring", Json.ofOption .text testModule.docstring),
    ("source", .text testModule.source)]

def TestItem.toJson (item : TestItem) : Json :=
  .object [("node_id", .text item.nodeId), ("module", .text item.moduleName),
    ("location", item.location.toJson),
    ("class_docstring", Json.ofOption .text item.classDocstring),
    ("function_docstring", Json.ofOption .text item.functionDocstring),
    ("markers", .list (item.markers.map Marker.toJson)), ("source", .text item.source)]

def Manifest.toJson (manifest : Manifest) : Json :=
  .object [("modules", .list (manifest.modules.map TestModule.toJson)),
    ("items", .list (manifest.items.map TestItem.toJson))]

end TestGate
