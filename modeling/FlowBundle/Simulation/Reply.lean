import FlowBundle.Chat.Histories
import FlowBundle.Simulation.Summary
/-!
# Simulated execution

A workflow's answer to an input is a fixed text around the model's name and the input.  With memory
the session's history takes part: both sides of the exchange are added to it, and from the second
exchange on the answer has the number of the exchange and the beginning of the question before.
-/
namespace FlowBundle
namespace Simulation

open Chat (Message Histories)

def previewLength : Nat := 30

def preview (text : String) : String := String.ofList (text.toList.take previewLength)

def exchangeNumber (ms : List Message) : Nat := (ms.length + 1) / 2

def earlierQuestion? (ms : List Message) : Option Message :=
  (ms.dropLast.filter (·.speaker == .human)).getLast?

/-- What an answer says about the messages so far, the input being the last of them. -/
def recollection (ms : List Message) : String :=
  if ms.length ≤ 1 then ""
  else
    "I notice this is message #" ++ toString (exchangeNumber ms) ++ " in our conversation. " ++
      (match earlierQuestion? ms with
      | some m => "Earlier you asked about \"" ++ preview m.content.plainText ++ "...\". "
      | none => "") ++
      "\n\nWith memory enabled, I'm maintaining the full conversation context."

/-- An answer for a model without memory, and one for a model with it, differ in their fixed parts. -/
def aside (memory : Bool) (ms : List Message) : String :=
  if memory then recollection ms
  else
    "\n\nMemory is currently disabled, so I'm treating this as an independent message " ++
      "without conversation context."

def explanation (memory : Bool) : String :=
  "\n\nIn a real implementation, this would be the actual response from the LLM API using Langchain with " ++
    (if memory then "memory enabled" else "no memory") ++
    ".\n\nThe workflow execution would:\n1. Take your input message\n2. " ++
    (if memory then "Add it to the conversation history" else "Process it independently") ++ "\n3. " ++
    (if memory then "Send the full conversation context to the LLM"
      else "Send only the current message to the LLM") ++
    "\n4. Return the generated response\n\n" ++
    (if memory then
      "With memory enabled, the LLM can reference previous messages and maintain context " ++
        "throughout the conversation."
    else
      "Without memory, each message is treated independently, which can be more efficient " ++
        "for stateless applications.") ++
    "\n\nYou can download the generated backend code to see the Langchain implementation with " ++
    (if memory then "memory support" else "optional memory support") ++ "."

/-- **The answer to an input**, the input being the last of the messages if there is memory. -/
def answer (c : Config) (input : String) (ms : List Message) : String :=
  "This is a simulated response from " ++ c.model ++ " to your input: \"" ++ input ++ "\".\n\n" ++
    aside c.memory ms ++ explanation c.memory

structure Outcome where
  input : String
  output : String
  model : String
  memory : Bool

def converse (c : Config) (input : String) (ms : List Message) : List Message × String :=
  let asked := ms ++ [⟨.human, .text input⟩]
  let output := answer c input asked
  (asked ++ [⟨.assistant, .text output⟩], output)

/-- **One execution**, if a text can be made of the input.  Only memory lets it touch the histories. -/
def executeConfig (room : Nat) (h : Histories) (c : Config) (input : Json.Value) (session : String) :
    Histories × Except Fault Outcome :=
  if c.hasModelNode = false then (h, .error .noModelNode)
  else
    match input.overrun? room with
    | some overrun => (h, .error (.unspelt overrun))
    | none =>
      if c.memory then
        let result := h.within session (converse c input.givenText)
        (result.1, .ok ⟨input.givenText, result.2, c.model, true⟩)
      else (h, .ok ⟨input.givenText, answer c input.givenText [], c.model, false⟩)

def execute (room : Nat) (h : Histories) (payload input : Json.Value) (session : String) :
    Histories × Except Fault Outcome :=
  match configOf room payload with
  | .error fault => (h, .error fault)
  | .ok c => executeConfig room h c input session

end Simulation
end FlowBundle
