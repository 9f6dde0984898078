import FlowBundle.Blueprint.Backend
/-!
# Bundles

A bundle is the set of files that a workflow is exported as: one file for each blueprint, rendered
with the workflow's configuration, and the workflow itself.

`Bundle.ofPayload` says what the bundle of a payload is, and `Bundle.exported` makes it, as far as the
texts in it can be made.
-/
namespace FlowBundle

open Json (Value Overrun)

structure File where
  path : String
  content : String
  deriving DecidableEq

namespace File

def textOf (ms : Json.Members) (key : String) : Checked String :=
  match ms.get? key with
  | some (.str s) => .ok s
  | some v => .error [⟨[key], .text, v⟩]
  | none => .error [⟨[key], .required, .obj ms⟩]

def ofPayload : Value → Checked File
  | .obj ms => (Checked.both (textOf ms "path") (textOf ms "content")).map fun p => ⟨p.1, p.2⟩
  | v => .error [⟨[], .record "GeneratedFile", v⟩]

def report (vs : List Violation) : String := Violation.report "GeneratedFile" vs

end File

structure Bundle where
  family : Family
  config : Config
  files : List File

namespace Bundle

inductive Fault where
  | rejected (reason : Workflow.Rejection)
  | unspelt (overrun : Overrun)
  | blueprint (fault : Blueprint.Fault)
  | unwritten (overrun : Overrun)

def Fault.message : Fault → String
  | .rejected reason => reason.message
  | .unspelt overrun => overrun.message "getting the repr of an object"
  | .blueprint fault => fault.message
  | .unwritten overrun => overrun.message "calling a Python object"

def values (c : Config) (f : Family) : Json.Members :=
  [("model", .str c.model), ("api_key", .str c.apiKey), ("api_key_env", .str f.apiKeyEnv),
   ("temperature", .str c.temperature), ("use_memory", .str (if c.memory then "true" else "false")),
   ("provider_name", .str f.label)]

def choices (c : Config) : Json.Members :=
  [(Blueprint.memoryChoice, .str (if c.memory then Blueprint.memoryOn else Blueprint.memoryOff))]

def fileOf (c : Config) (f : Family) (b : Blueprint) : Except Blueprint.Fault File :=
  (b.render (values c f) (choices c)).map fun content => ⟨b.path, content⟩

def workflowFile (w : Workflow) : File := ⟨Blueprint.workflowPath, w.toText (some 2)⟩

/-- **The bundle of a workflow.** -/
def ofWorkflow (blueprints : List Blueprint) (w : Workflow) : Except Blueprint.Fault Bundle :=
  let config := w.config
  let family := Family.ofModel config.model
  (blueprints.mapM (fileOf config family)).map fun files =>
    ⟨family, config, files ++ [workflowFile w]⟩

def ofPayload (blueprints : List Blueprint) (payload : Value) : Except Fault Bundle :=
  match Workflow.ofPayload payload with
  | .error reason => .error (.rejected reason)
  | .ok w => (ofWorkflow blueprints w).mapError .blueprint

/-- **The bundle of a workflow, if it can be written** with so much room: the texts of the configuration
are made first, and the text of the workflow last. -/
def exportedWorkflow (room : Nat) (blueprints : List Blueprint) (w : Workflow) : Except Fault Bundle :=
  match w.unspelt? room with
  | some overrun => .error (.unspelt overrun)
  | none =>
    match ofWorkflow blueprints w with
    | .error fault => .error (.blueprint fault)
    | .ok b =>
      match w.toPayload.overrun? room with
      | some overrun => .error (.unwritten overrun)
      | none => .ok b

def exported (room : Nat) (blueprints : List Blueprint) (payload : Value) : Except Fault Bundle :=
  match Workflow.ofPayload payload with
  | .error reason => .error (.rejected reason)
  | .ok w => exportedWorkflow room blueprints w

def paths (b : Bundle) : List String := b.files.map (·.path)

def file? (b : Bundle) (path : String) : Option File := b.files.find? (·.path == path)

end Bundle
end FlowBundle
