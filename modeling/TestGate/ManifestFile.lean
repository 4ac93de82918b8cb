import TestGate.Failure
import TestGate.Manifest
import TestGate.Storage
import TestGate.Text.AsciiCase
import TestGate.Yaml.Value

/-!
Manifests in files. A file whose name ends in `.json`, in any case, holds JSON; any other holds
YAML.
-/

namespace TestGate.Manifest

open Text

def isJson (path : Path) : Bool :=
  path.extension?.any fun extension => equalIgnoringCase extension "json"

/-- Reads the text of a manifest file, or tells what is wrong with it. -/
def ofText (path : Path) (text : String) : Except String Manifest :=
  if isJson path then
    (Json.decodeText read text).mapError Json.Error.message
  else
    (Yaml.Value.ofText text >>= read).mapError Yaml.Error.message

def load {φ : Type} [Storage φ] (files : φ) (path : Path) : Except Failure Manifest :=
  (Storage.read files path >>= ofText path).mapError (.manifest path.text)

end TestGate.Manifest
