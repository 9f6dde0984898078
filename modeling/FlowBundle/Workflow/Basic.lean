import FlowBundle.Json.Display
import FlowBundle.Violation
/-!
# Workflows

A workflow is what the graph editor hands over: nodes, edges, and keys of the editor's own on all
three levels.  It is kept so that it can be handed back: a field remembers whether it was received,
and unknown keys stay, in the order they came in.
-/
namespace FlowBundle

structure Node where
  id : Option Json.Value
  type : String
  data : Option Json.Members
  extra : Json.Members

/-- An edge is never looked into. -/
structure Edge where
  id : Option Json.Value
  source : Option Json.Value
  target : Option Json.Value
  sourceHandle : Option Json.Value
  targetHandle : Option Json.Value
  extra : Json.Members

structure Workflow where
  nodes : List Node
  edges : Option (List Edge)
  extra : Json.Members

def Node.entry? (n : Node) (key : String) : Option Json.Value := (n.data.getD []).get? key

/-- What a node has under a key; null if it has nothing. -/
def Node.asked (n : Node) (key : String) : Json.Value := (n.entry? key).getD .null

namespace Workflow

def chatInputType : String := "chatInput"

def modelType : String := "llm"

def nodesOfType (w : Workflow) (type : String) : List Node := w.nodes.filter (·.type == type)

def firstNode? (w : Workflow) (type : String) : Option Node := (w.nodesOfType type).head?

def indicesOfType (w : Workflow) (type : String) : List Nat :=
  (w.nodes.zipIdx.filter (·.1.type == type)).map (·.2)

end Workflow
end FlowBundle
