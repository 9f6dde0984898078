import FlowBundle.CommandLine.Run
/-!
# The command line

What the program needs is read, one run is made, and what comes of it is written: the archive, the
text that is printed, and the status.
-/
namespace FlowBundle
namespace CommandLine

def variableNames : List String :=
  ["SIMULATED_DELAY_SECONDS", "HISTORY_LIMIT", "MAX_ARCHIVES", "CORS_ORIGINS", "LOG_LEVEL"].map ("AWB_" ++ ·)

def readEnvironment : IO Environment :=
  variableNames.filterMapM fun name => do
    let text ← IO.getEnv name
    return text.map fun text => (name, text)

def isDirectory (path : String) : IO Bool :=
  try return ← (← IO.FS.realPath path).isDir
  catch _ => return false

def readFile? (path : String) : IO (Option Bytes) :=
  try return some (← IO.FS.readBinFile path).toList
  catch _ => return none

/-- What is there along a way, of which `walked` lies behind and led to `place`. -/
def survey (fs : FileSystem) (root : String) (walked : List String) (place : Files.Place) :
    List String → IO FileSystem
  | [] => return fs
  | part :: parts => do
    let walked := walked ++ [part]
    let place := FileSystem.step place part
    let path := Files.Path.text ⟨root, walked⟩
    if ← isDirectory path then
      survey { fs with directories := place :: fs.directories } root walked place parts
    else match ← readFile? path with
      | some content => return { fs with contents := Table.put place content fs.contents }
      | none => return fs

def readFiles (args : List String) : IO FileSystem := do
  match Arguments.ofList args with
  | .error _ => return {}
  | .ok a =>
    let paths := [a.workflowFile, some ((given a.outputFile).getD defaultFilename)].filterMap id
    (paths.map Files.Path.ofText).foldlM (fun fs p => survey fs p.root [] p.start p.parts) {}

def usage : String :=
  "usage: [-h] [--workflow WORKFLOW] [--workflow-file WORKFLOW_FILE] [--output-file OUTPUT_FILE] [--summary]"

def perform (fs : FileSystem) (outcome : Outcome) : IO UInt32 := do
  match outcome with
  | .stopped .help => IO.println usage
  | .stopped .usage => IO.eprintln usage
  | .badEnvironment fault => IO.eprintln fault.message
  | .badLevel fault => IO.eprintln fault.message
  | .unread fault => IO.eprintln fault.message
  | .notWritten fault => IO.eprintln fault.message
  | .failed _ => return 1
  | .written path .. =>
    match fs.read (Files.Path.ofText path) with
    | .ok bytes => IO.FS.writeBinFile path (ByteArray.mk bytes.toArray)
    | .error fault => IO.eprintln fault.message
  return ((outcome.status?).getD 1).toUInt32

end CommandLine
end FlowBundle

def main (args : List String) : IO UInt32 := do
  let env ← FlowBundle.CommandLine.readEnvironment
  let fs ← FlowBundle.CommandLine.readFiles args
  let (fs, outcome) := FlowBundle.CommandLine.run {} fs env args
  let status ← FlowBundle.CommandLine.perform fs outcome
  IO.print outcome.output
  return status
