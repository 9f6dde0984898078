import FlowBundle.Json.Overrun
import FlowBundle.Text.Blank
import FlowBundle.Text.LetterCase
import FlowBundle.Workflow.Payload
/-!
# Configuration

What a workflow asks for: the model with its key, temperature and memory, and the messages typed
into its chat inputs.  Only the first model node is read, and edges are not looked at, so a workflow
with several model nodes asks for what it would ask for with the first of them alone.
-/
namespace FlowBundle

open Json (Value Overrun)

structure Config where
  model : String := "gemini-2.0-flash"
  apiKey : String := "${GEMINI_API_KEY}"
  temperature : String := "0.7"
  memory : Bool := false
  firstMessage : Option String := none
  apiKeyProvided : Bool := false
  hasModelNode : Bool := false
  modelNodeId : Value := .null
  messages : List String := []

namespace Config

/-- The plain text of an entry; an absent, null or blank one gives way to the default. -/
def textOr (default : String) : Option Value → String
  | none => default
  | some .null => default
  | some v => if Text.allBlank v.plainText then default else v.plainText

/-- A text is a yes if it says `true`, in any case and with blanks around it; any other value is if
it counts as given. -/
def flag : Option Value → Bool
  | none => false
  | some (.str s) => Text.lower (Text.strip s) == "true"
  | some v => v.isGiven

def givenText (v : Option Value) : String := (v.getD .null).givenText

def messageOf (n : Node) : Option Value := n.entry? "message"

/-- The message of the first chat input, if it has one that is not null. -/
def firstMessageOf : List Node → Option String
  | [] => none
  | n :: _ =>
    match messageOf n with
    | none => none
    | some .null => none
    | some v => some v.plainText

def ofNodes (inputs : List Node) : Option Node → Config
  | none => { firstMessage := firstMessageOf inputs, messages := inputs.map fun n => givenText (messageOf n) }
  | some n =>
    let base : Config := {}
    { model := textOr base.model (n.entry? "model")
      apiKey := textOr base.apiKey (n.entry? "apiKey")
      temperature := textOr base.temperature (n.entry? "temperature")
      memory := flag (n.entry? "memory")
      firstMessage := firstMessageOf inputs
      apiKeyProvided := !Text.allBlank (givenText (n.entry? "apiKey"))
      hasModelNode := true
      modelNodeId := n.id.getD .null
      messages := inputs.map fun n => givenText (messageOf n) }

end Config

namespace Workflow

/-- **What the workflow asks for.** -/
def config (w : Workflow) : Config := Config.ofNodes (w.nodesOfType chatInputType) (w.firstNode? modelType)

def modelTexts : Option Node → List Value
  | none => []
  | some n => ["model", "apiKey", "temperature"].map n.asked

/-- **The values that texts are made of** for the configuration, one after the other. -/
def spelt (w : Workflow) : List Value :=
  (w.nodesOfType chatInputType).map (·.asked "message") ++ modelTexts (w.firstNode? modelType)

/-- What keeps these texts from being made. -/
def unspelt? (room : Nat) (w : Workflow) : Option Overrun := w.spelt.findSome? (Value.overrun? room)

end Workflow

end FlowBundle
