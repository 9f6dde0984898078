import FlowBundle.Blueprint.Backend
import FlowBundle.Config
/-!
# The summary of a workflow

What a workflow would do if it were run, as a text in sections: its messages, the model's settings
with the key masked, the answer it would get, and the files of its bundle.
-/
namespace FlowBundle
namespace Simulation

inductive Fault where
  | rejected (reason : Workflow.Rejection)
  | unspelt (overrun : Json.Overrun)
  | noModelNode

def Fault.message : Fault → String
  | .rejected reason => reason.message
  | .unspelt overrun => overrun.message "getting the repr of an object"
  | .noModelNode => "No LLM node found in the workflow"

/-- Each file of a bundle and what it is for, in packing order. -/
def fileNotes : List (String × String) :=
  [("app.py", "Main Flask application"),
   ("routes/workflow_routes.py", "API endpoints for the workflow"),
   ("routes/__init__.py", "Routes package marker"),
   ("services/llm_service.py", "Service for LLM API calls using Langchain"),
   ("services/__init__.py", "Services package marker"),
   ("utils/workflow_executor.py", "Utility for executing the workflow"),
   ("utils/__init__.py", "Utils package marker"),
   ("requirements.txt", "Python dependencies including Langchain"),
   (".env", "Environment variables (API keys)"),
   ("README.md", "Setup and usage instructions"),
   ("workflow.json", "Your workflow configuration")]

theorem fileNotes_paths : fileNotes.map (·.1) = Blueprint.backendPaths := rfl

def between (mark text : String) : String := mark ++ text ++ mark

def messageLine (message : String) : String :=
  "- " ++ between "\"" (if message = "" then "Empty message" else message)

def messageLines (messages : List String) : List String :=
  if messages.isEmpty then ["No chat input nodes found in the workflow."]
  else "## Input Messages:" :: messages.map messageLine

def settingLines (c : Config) : List String :=
  ["- Model: " ++ c.model,
   "- Temperature: " ++ c.temperature,
   "- API Key: " ++ (if c.apiKeyProvided then "********" else "Not provided"),
   "- Memory: " ++ (if c.memory then "enabled" else "disabled")]

def answerLines (first : Option String) : List String :=
  if first.getD "" = "" then ["No input message provided to generate a response."]
  else
    [between "\"" ("This is a simulated response to: " ++ between "\"" (first.getD "")),
     "",
     "In a real implementation, this would be the actual response from the LLM API using Langchain."]

def fileLines : List String :=
  "The following files have been generated and included in the ZIP file:" ::
    fileNotes.map fun note => "- " ++ note.1 ++ ": " ++ note.2

def providerLines : List String :=
  ["The backend uses Langchain to provide a consistent interface for working with different language models:",
   "- OpenAI models (GPT-4o, GPT-3.5-turbo)",
   "- Anthropic models (Claude)",
   "- Google models (Gemini)",
   "- Open source models via Hugging Face (Llama, Mistral)"]

def summaryLines (c : Config) : List String :=
  ["# Workflow Execution Results", ""] ++ messageLines c.messages ++
  ["", "## LLM Configuration:"] ++ settingLines c ++
  ["", "## Generated Response:"] ++ answerLines c.firstMessage ++
  ["", "## Backend Code Generation:"] ++ fileLines ++
  ["", "## Langchain Integration:"] ++ providerLines

/-- **The summary of a configuration**, which must come from a model node. -/
def summaryOf (c : Config) : Except Fault String :=
  if c.hasModelNode then .ok (Text.unlines (summaryLines c)) else .error .noModelNode

/-- **The configuration of a payload**, if its texts can be made with so much room. -/
def configOf (room : Nat) (payload : Json.Value) : Except Fault Config :=
  match Workflow.ofPayload payload with
  | .error reason => .error (.rejected reason)
  | .ok w =>
    match w.unspelt? room with
    | some overrun => .error (.unspelt overrun)
    | none => .ok w.config

def summarize (room : Nat) (payload : Json.Value) : Except Fault String :=
  match configOf room payload with
  | .error fault => .error fault
  | .ok c => summaryOf c

end Simulation
end FlowBundle
