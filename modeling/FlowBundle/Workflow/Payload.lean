import FlowBundle.Workflow.Basic
/-!
# Workflows as JSON

`Workflow.ofPayload` takes a JSON value for a workflow or says all that is wrong with it; nothing is
asked of ids, handles and unknown keys.  `Workflow.toPayload` gives the value back: the known fields
that were received first, in a fixed order, then the unknown keys in the order received.

The handles of an edge have two spellings.  The first one, `sourceHandle`, wins if both are there,
and the other one is then an unknown key; alone, the other one is the field, and is handed back
under the first spelling.
-/
namespace FlowBundle

open Json (Value Members)

/-- A field and its key, if the field was received. -/
def received (key : String) : Option Value → Members
  | some v => [(key, v)]
  | none => []

namespace Node

def keys : List String := ["id", "type", "data"]

def typeOf (place : List String) (ms : Members) : Checked String :=
  match ms.get? "type" with
  | some (.str s) => .ok s
  | some v => .error [⟨place ++ ["type"], .text, v⟩]
  | none => .error [⟨place ++ ["type"], .required, .obj ms⟩]

def dataOf (place : List String) (ms : Members) : Checked (Option Members) :=
  match ms.get? "data" with
  | some (.obj d) => .ok (some d)
  | some v => .error [⟨place ++ ["data"], .object, v⟩]
  | none => .ok none

def ofPayload (place : List String) : Value → Checked Node
  | .obj ms =>
    (Checked.both (typeOf place ms) (dataOf place ms)).map fun p =>
      ⟨Members.get? ms "id", p.1, p.2, Members.without keys ms⟩
  | v => .error [⟨place, .record "WorkflowNode", v⟩]

def toPayload (n : Node) : Value :=
  .obj (received "id" n.id ++ [("type", .str n.type)] ++ received "data" (n.data.map .obj) ++ n.extra)

end Node

namespace Edge

/-- The value of a handle, and the keys that it takes. -/
def handleOf (key other : String) (ms : Members) : Option Value × List String :=
  if ms.has key then (ms.get? key, [key]) else (ms.get? other, [key, other])

def ofMembers (ms : Members) : Edge :=
  let (source, sourceKeys) := handleOf "sourceHandle" "source_handle" ms
  let (target, targetKeys) := handleOf "targetHandle" "target_handle" ms
  ⟨ms.get? "id", ms.get? "source", ms.get? "target", source, target,
    ms.without (["id", "source", "target"] ++ sourceKeys ++ targetKeys)⟩

def ofPayload (place : List String) : Value → Checked Edge
  | .obj ms => .ok (ofMembers ms)
  | v => .error [⟨place, .record "WorkflowEdge", v⟩]

def toPayload (e : Edge) : Value :=
  .obj (received "id" e.id ++ received "source" e.source ++ received "target" e.target ++
    received "sourceHandle" e.sourceHandle ++ received "targetHandle" e.targetHandle ++ e.extra)

end Edge

namespace Workflow

inductive Rejection where
  | notObject (found : Value)
  | noNodes
  | violations (vs : List Violation)

def Rejection.message : Rejection → String
  | .notObject found => "Workflow payload must be an object, got " ++ found.kind ++ "."
  | .noNodes => "Workflow payload is missing 'nodes'."
  | .violations vs => "Invalid workflow payload: " ++ Violation.report "Workflow" vs

def listOf {α : Type} (check : List String → Value → Checked α) (key : String) : Value → Checked (List α)
  | .arr items => Checked.all (fun i v => check [key, toString i] v) 0 items
  | v => .error [⟨[key], .list, v⟩]

def edgesOf (ms : Members) : Checked (Option (List Edge)) :=
  match ms.get? "edges" with
  | some v => (listOf Edge.ofPayload "edges" v).map some
  | none => .ok none

/-- Everything wrong with the nodes, then everything wrong with the edges. -/
def ofMembers (nodes : Value) (ms : Members) : Checked Workflow :=
  (Checked.both (listOf Node.ofPayload "nodes" nodes) (edgesOf ms)).map fun p =>
    ⟨p.1, p.2, ms.without ["nodes", "edges"]⟩

/-- **The workflow that a JSON value describes.** -/
def ofPayload : Value → Except Rejection Workflow
  | .obj ms =>
    match Members.get? ms "nodes" with
    | none => .error .noNodes
    | some nodes => (ofMembers nodes ms).mapError .violations
  | v => .error (.notObject v)

/-- **The JSON value handed back**: the one received, but for the order of members and the spelling of handles. -/
def toPayload (w : Workflow) : Value :=
  .obj ([("nodes", .arr (w.nodes.map Node.toPayload))] ++
    received "edges" (w.edges.map fun es => .arr (es.map Edge.toPayload)) ++ w.extra)

def toText (w : Workflow) (indent : Option Int) : String := w.toPayload.text { indent := indent }

end Workflow
end FlowBundle
