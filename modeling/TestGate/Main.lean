import Std.Time.DateTime.Timestamp
import TestGate.Program
import TestGate.RunId

/-!
The program at work: what is around it is read, the run is carried out, and what it leaves behind is
written. No server is in reach.
-/

namespace TestGate

def nodeOnDisk (path : String) : IO (Option Node) := do
  match ← (IO.FS.readBinFile path).toBaseIO with
  | .ok bytes => return some (.file bytes)
  | .error (.noFileOrDirectory ..) => return none
  | .error _ => return some .directory

def survey (directory : Directory) (place : Place) : List String → IO Directory
  | [] => return directory
  | step :: steps => do
    let next := place.enter step
    if next.isGiven then
      survey directory next steps
    else
      match ← nodeOnDisk next.text with
      | none => return directory
      | some .directory => survey (directory.put next .directory) next steps
      | some file => return directory.put next file

def surveyAll (directory : Directory) (paths : List Path) : IO Directory :=
  paths.foldlM (fun directory path => survey directory path.start path.steps) directory

/-- The values of the environment variables that a run may look at. -/
def environmentOnDisk (names : List String) : IO Environment := do
  let values ← names.mapM fun name => do return (name, ← IO.getEnv name)
  return fun name => (values.lookup name).join

/-- When, as what and where the program runs. -/
def occasionOf (words : List String) : IO Occasion := do
  let now ← Std.Time.Timestamp.now
  let bytes ← IO.getRandomBytes 16
  return {
    now := Timestamp.ofNanoseconds now.toNanosecondsSinceUnixEpoch.val
    runId := RunId.ofBytes (bytes.toList.map UInt8.toNat)
    args := words
    workingDirectory := toString (← IO.currentDir) }

def writeAdded (added : List (String × Node)) : IO Unit :=
  added.forM fun (path, node) =>
    match node with
    | .directory => IO.FS.createDirAll path
    | .file bytes => IO.FS.writeBinFile path bytes

/-- Runs the program with the words of its command line. -/
def runProgram (words : List String) : IO UInt32 := do
  let around ← surveyAll {} [Surroundings.environmentFile]
  let named :=
    match around.bytes Surroundings.environmentFile with
    | .ok bytes => DotEnv.namesIn bytes
    | .error _ => []
  let environment ← environmentOnDisk (Surroundings.variables ++ named)
  let occasion ← occasionOf words
  let prepared := Surroundings.withEnvironmentFile
    { files := around, environment, network := SortedMap.empty, occasion }
  let files ← surveyAll prepared.files (pathsOf prepared.environment words)
  let ending := { prepared with files := files }.run words
  writeAdded (ending.files.addedTo files)
  (ending.log prepared.environment occasion.now).forM fun line => IO.eprintln line
  IO.print ending.output
  unless ending.succeeded do
    IO.eprintln ending.message
  return if ending.succeeded then 0 else 1

end TestGate

def main (args : List String) : IO UInt32 :=
  TestGate.runProgram (TestGate.CommandLine.programName :: args)
