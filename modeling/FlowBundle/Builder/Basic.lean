import FlowBundle.Archive.Pack
import FlowBundle.Archive.Zip
import FlowBundle.Settings.Basic
import FlowBundle.Shelf.Basic
import FlowBundle.Simulation.Reply
/-!
# The builder

A builder makes bundles and archives of workflows, keeps archives to be fetched, and simulates the
execution of workflows with a history for each session.  Making a bundle or an archive changes
nothing; publishing puts the archive on the shelf.
-/
namespace FlowBundle

open Json (Value)

/-- The room is for the values that lie in one another where a text is made. -/
structure Builder where
  blueprints : List Blueprint := Blueprint.backend
  filename : String
  room : Nat := ({} : Json.Limits).writing
  histories : Chat.Histories
  shelf : Shelf

namespace Builder

/-- **The builder for some settings**, with nothing said and an empty shelf. -/
def ofSettings (s : Settings) : Builder :=
  { filename := s.filename
    histories := { limit := s.historyLimit, two_le_limit := s.two_le_historyLimit }
    shelf := { capacity := s.maxArchives, one_le_capacity := s.one_le_maxArchives, filename := s.filename } }

/-! ## Bundles and archives -/

inductive Fault where
  | bundle (fault : Bundle.Fault)
  | pack (fault : Archive.PackFault)

def Fault.message : Fault → String
  | .bundle fault => fault.message
  | .pack fault => fault.message

structure Stage where
  bundle : Bundle
  summary : Except Simulation.Fault String

def Stage.summaryText (s : Stage) : String :=
  match s.summary with
  | .ok text => text
  | .error fault => fault.message

/-- **The bundle of a workflow, with its summary.** -/
def generate (b : Builder) (payload : Value) : Except Bundle.Fault Stage :=
  (Bundle.exported b.room b.blueprints payload).map fun bundle => ⟨bundle, Simulation.summarize b.room payload⟩

def archiveOf (files : List File) : Except Archive.PackFault Bytes :=
  (Archive.pack .deflated files).map Archive.toBytes

structure Built where
  stage : Stage
  archive : Bytes

/-- **The archive of a workflow**, handed out at once. -/
def build (b : Builder) (payload : Value) : Except Fault Built :=
  match b.generate payload with
  | .error fault => .error (.bundle fault)
  | .ok stage =>
    match archiveOf stage.bundle.files with
    | .error fault => .error (.pack fault)
    | .ok archive => .ok ⟨stage, archive⟩

structure Published where
  id : String
  stored : Stored
  stage : Stage

/-- **The archive of a workflow is put on the shelf** under an id. -/
def publish (b : Builder) (id : String) (payload : Value) : Builder × Except Fault Published :=
  match b.generate payload with
  | .error fault => (b, .error (.bundle fault))
  | .ok stage =>
    match archiveOf stage.bundle.files with
    | .error fault => (b, .error (.pack fault))
    | .ok archive =>
      let (shelf, stored) := b.shelf.register id archive none
      ({ b with shelf := shelf }, .ok ⟨id, stored, stage⟩)

/-! ## Conversations -/

def defaultSession : String := "default"

def sessionOr : Option String → String
  | some session => if session = "" then defaultSession else session
  | none => defaultSession

/-- One execution, in a session of any name. -/
def simulate (b : Builder) (payload input : Value) (session : String) :
    Builder × Except Simulation.Fault Simulation.Outcome :=
  let (histories, outcome) := Simulation.execute b.room b.histories payload input session
  ({ b with histories := histories }, outcome)

/-- **One execution.** -/
def execute (b : Builder) (payload input : Value) (session : Option String) :
    Builder × Except Simulation.Fault Simulation.Outcome :=
  b.simulate payload input (sessionOr session)

def clearHistory (b : Builder) (session : Option String) : Builder :=
  { b with histories := b.histories.clear (sessionOr session) }

end Builder
end FlowBundle
