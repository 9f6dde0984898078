import FlowBundle.Builder.Basic
import FlowBundle.CommandLine.Arguments
import FlowBundle.Files
import FlowBundle.Json.Reader
import FlowBundle.Settings.Environment
import FlowBundle.Settings.Logging
/-!
# The program

The program reads a workflow, from an argument or from a file, and writes its archive to a file.  A
workflow that cannot be read or is none gives a failure that is printed, and nothing is written.
Bad arguments, a bad environment, a text that nests too deep to be read and a file that cannot be
written end the program.
-/
namespace FlowBundle
namespace CommandLine

open Json (Value)

/-- What a run finds in its process: how deep values may lie in one another, and whether logging is
set up already, in which case it stays as it is. -/
structure Process where
  limits : Json.Limits := {}
  logs : Bool := false

/-! ## The workflow -/

inductive SourceFault where
  | nothingGiven
  | file (fault : Files.Fault)
  | encoding (fault : Utf8.Fault)
  | json (error : Json.ReadError)

def SourceFault.message : SourceFault → String
  | .nothingGiven => "Provide --workflow or --workflow-file."
  | .file fault => fault.message
  | .encoding fault => fault.message
  | .json error => error.message

/-- Whether the program lets the fault through instead of printing it. -/
def SourceFault.escapes : SourceFault → Bool
  | .json (.tooDeep _) => true
  | _ => false

/-- What counts as given: a text that is not empty. -/
def given (s : Option String) : Option String := s.filter (· != "")

def valueOfText (room : Nat) (s : String) : Except SourceFault Value := (Json.readWithin room s).mapError .json

/-- The text of a file, with every line end a line feed. -/
def textOfFile (fs : FileSystem) (path : String) : Except SourceFault String :=
  match fs.read (Files.Path.ofText path) with
  | .error fault => .error (.file fault)
  | .ok bytes =>
    match Utf8.decode bytes with
    | .error fault => .error (.encoding fault)
    | .ok s => .ok (String.ofList (Text.unifyLineEnds s.toList))

/-- **The value that is given for a workflow**: a text goes before a file. -/
def load (room : Nat) (fs : FileSystem) (text file : Option String) : Except SourceFault Value :=
  match given text, given file with
  | some s, _ => valueOfText room s
  | none, some path =>
    match textOfFile fs path with
    | .error fault => .error fault
    | .ok s => valueOfText room s
  | none, none => .error .nothingGiven

/-! ## The run -/

inductive Outcome where
  | stopped (stop : Stop)
  | badEnvironment (fault : Environment.Fault)
  | badLevel (fault : Logging.Fault)
  | unread (fault : SourceFault)
  | failed (message : String)
  | notWritten (fault : Files.Fault)
  | written (path : String) (paths : List String) (summary : Option String)

def Outcome.status? : Outcome → Option Nat
  | .stopped .usage => some 2
  | .stopped .help => some 0
  | .badEnvironment _ => none
  | .badLevel _ => none
  | .unread _ => none
  | .failed _ => some 1
  | .notWritten _ => none
  | .written .. => some 0

def report (members : Json.Members) : String := (Value.obj members).text { indent := some 2, ascii := true } ++ "\n"

/-- **What the program prints.** -/
def Outcome.output : Outcome → String
  | .failed message => report [("success", .bool false), ("error", .str message)]
  | .written path paths summary =>
    (match summary with
    | some text => text ++ "\n"
    | none => "") ++
      report [("success", .bool true), ("archive", .str path), ("files", .arr (paths.map .str))]
  | _ => ""

/-- The archive goes to the path that is asked for, or else to the builder's own. -/
def deliver (fs : FileSystem) (a : Arguments) (b : Builder) (built : Builder.Built) : FileSystem × Outcome :=
  let path := Files.Path.ofText ((given a.outputFile).getD b.filename)
  match fs.write path built.archive with
  | .error fault => (fs, .notWritten fault)
  | .ok fs =>
    (fs, .written path.text built.stage.bundle.paths (if a.summary then given (some built.stage.summaryText) else none))

def builderFor (limits : Json.Limits) (s : Settings) : Builder :=
  { Builder.ofSettings s with room := limits.writing }

def runWith (limits : Json.Limits) (fs : FileSystem) (a : Arguments) (s : Settings) : FileSystem × Outcome :=
  match load limits.reading fs a.workflow a.workflowFile with
  | .error fault => (fs, if fault.escapes then .unread fault else .failed fault.message)
  | .ok payload =>
    match (builderFor limits s).build payload with
    | .error fault => (fs, .failed fault.message)
    | .ok built => deliver fs a (builderFor limits s) built

def Process.levelFault? (p : Process) (s : Settings) : Option Logging.Fault :=
  if p.logs then none else Logging.fault? s.logLevel

/-- **One run**: the files before it, and the files after it with the outcome. -/
def run (p : Process) (fs : FileSystem) (env : Environment) (args : List String) : FileSystem × Outcome :=
  match Arguments.ofList args with
  | .error stop => (fs, .stopped stop)
  | .ok a =>
    match env.settings with
    | .error fault => (fs, .badEnvironment fault)
    | .ok s =>
      match p.levelFault? s with
      | some fault => (fs, .badLevel fault)
      | none => runWith p.limits fs a s

end CommandLine
end FlowBundle
