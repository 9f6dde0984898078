import FlowBundle.Proofs.Builder.Reimport
import FlowBundle.Proofs.Workflow.Fitting
/-!
# What of a workflow matters

A workflow is read for the messages of its chat inputs and for four settings of its first model node, where an entry
that is missing is as good as null.  Two workflows that ask alike for these have the same configuration, but for the id
of the model node (`config_of_asksAlike`).  Nothing that is made of a configuration shows this id.  So no difference
elsewhere in the graph can be told from the files, the summary or any answer (`indistinguishable_of_asksAlike`).  Only
the file that holds the workflow itself shows it; and if this cannot be written, there are no files.
-/
namespace FlowBundle

open Json (Value)

def Node.modelSettings (n : Node) : List Value := ["model", "apiKey", "temperature", "memory"].map n.asked

/-- **Two workflows ask alike**: for the same messages, one after the other, and for the same model, key, temperature and
memory, or both for no model. -/
structure Workflow.AsksAlike (w w' : Workflow) : Prop where
  messages_eq : (w.nodesOfType chatInputType).map (·.asked "message") =
    (w'.nodesOfType chatInputType).map (·.asked "message")
  settings_eq : (w.firstNode? modelType).map Node.modelSettings = (w'.firstNode? modelType).map Node.modelSettings

namespace Config

/-! ## A configuration is read off what is asked for -/

theorem textOr_entry (default : String) (n : Node) (key : String) :
    textOr default (n.entry? key) = textOr default (some (n.asked key)) := by
  rw [Node.asked]
  cases n.entry? key <;> rfl

theorem flag_entry (n : Node) (key : String) : flag (n.entry? key) = flag (some (n.asked key)) := by
  rw [Node.asked]
  cases n.entry? key <;> rfl

theorem givenText_entry (n : Node) (key : String) : givenText (n.entry? key) = (n.asked key).givenText := rfl

/-- The first message as it is asked for. -/
def firstOf : List Value → Option String
  | [] => none
  | .null :: _ => none
  | v :: _ => some v.plainText

theorem firstMessageOf_eq (inputs : List Node) : firstMessageOf inputs = firstOf (inputs.map (·.asked "message")) := by
  cases inputs with
  | nil => rfl
  | cons n inputs =>
    rw [firstMessageOf, messageOf, List.map_cons, Node.asked]
    cases n.entry? "message" with
    | none => rfl
    | some v => cases v <;> rfl

theorem givenTexts_eq (inputs : List Node) :
    inputs.map (fun n => givenText (messageOf n)) = (inputs.map (·.asked "message")).map Value.givenText := by
  rw [List.map_map]
  rfl

/-- **Configurations that differ at most in the id of the model node.** -/
def Alike (c c' : Config) : Prop := c' = { c with modelNodeId := c'.modelNodeId }

theorem alike_ofNodes {inputs inputs' : List Node} {model model' : Option Node}
    (hmessages : inputs.map (·.asked "message") = inputs'.map (·.asked "message"))
    (hsettings : model.map Node.modelSettings = model'.map Node.modelSettings) :
    Alike (ofNodes inputs model) (ofNodes inputs' model') := by
  have hfirst : firstMessageOf inputs' = firstMessageOf inputs := by
    rw [firstMessageOf_eq, firstMessageOf_eq, hmessages]
  have hall : inputs'.map (fun n => givenText (messageOf n)) = inputs.map fun n => givenText (messageOf n) := by
    rw [givenTexts_eq, givenTexts_eq, hmessages]
  cases model with
  | none =>
    cases model' with
    | none => simp only [Alike, ofNodes, hfirst, hall]
    | some n' => cases hsettings
  | some n =>
    cases model' with
    | none => cases hsettings
    | some n' =>
      have heq : n.modelSettings = n'.modelSettings := Option.some.inj hsettings
      simp only [Node.modelSettings, List.map_cons, List.map_nil, List.cons.injEq, and_true] at heq
      obtain ⟨hmodel, hkey, htemperature, hmemory⟩ := heq
      simp only [Alike, ofNodes, hfirst, hall, textOr_entry, flag_entry, givenText_entry, hmodel, hkey, htemperature,
        hmemory]

end Config

namespace Workflow

variable {w w' : Workflow} (h : w.AsksAlike w')
include h

theorem config_of_asksAlike : w.config.Alike w'.config :=
  Config.alike_ofNodes h.messages_eq h.settings_eq

theorem spelt_of_asksAlike : w'.spelt = w.spelt := by
  have htexts : ∀ model : Option Node, modelTexts model = ((model.map Node.modelSettings).getD []).take 3 := by
    rintro (_ | n) <;> rfl
  rw [spelt, spelt, htexts, htexts, h.messages_eq, h.settings_eq]

theorem unspelt?_of_asksAlike (room : Nat) : w'.unspelt? room = w.unspelt? room := by
  rw [unspelt?, unspelt?, spelt_of_asksAlike h]

end Workflow

/-! ## The id of the model node does not show -/

namespace Config.Alike

variable {c c' : Config} (h : c.Alike c')
include h

theorem model_eq : c'.model = c.model := by
  rw [h]

theorem fileOf_eq : Bundle.fileOf c' = Bundle.fileOf c := by
  rw [h]
  rfl

theorem summaryOf_eq : Simulation.summaryOf c' = Simulation.summaryOf c := by
  rw [h]
  rfl

theorem executeConfig_eq (room : Nat) (histories : Chat.Histories) :
    Simulation.executeConfig room histories c' = Simulation.executeConfig room histories c := by
  rw [h]
  rfl

end Config.Alike

/-! ## Workflows with the same texts to be made -/

namespace Simulation

variable {room : Nat} {payload payload' : Value} {w w' : Workflow} (h : Workflow.ofPayload payload = .ok w)
  (h' : Workflow.ofPayload payload' = .ok w') (hunspelt : w'.unspelt? room = w.unspelt? room)
include h h' hunspelt

theorem summarize_congr (hconfig : summaryOf w'.config = summaryOf w.config) :
    summarize room payload' = summarize room payload := by
  simp only [summarize, configOf, h, h', hunspelt]
  cases w.unspelt? room with
  | some overrun => rfl
  | none => exact hconfig

theorem execute_congr {histories : Chat.Histories}
    (hconfig : executeConfig room histories w'.config = executeConfig room histories w.config) (input : Value)
    (session : String) : execute room histories payload' input session = execute room histories payload input session := by
  simp only [execute, configOf, h, h', hunspelt]
  cases w.unspelt? room with
  | some overrun => rfl
  | none => simp only [hconfig]

end Simulation

/-- **No difference can be told** between two payloads, but for the id of the model node and the workflows themselves:
the texts of both configurations can be made or not, and both payloads are exported as the same files of the same
family, and have the same summary, and the same answers with the same histories after. -/
structure Indistinguishable (room : Nat) (payload payload' : Value) (w w' : Workflow) : Prop where
  config_alike : w.config.Alike w'.config
  unspelt_eq : w'.unspelt? room = w.unspelt? room
  same_files : ∃ family files, files.map File.path = Blueprint.backend.map Blueprint.path ∧
    Bundle.ExportedAs room Blueprint.backend payload ⟨family, w.config, files ++ [Bundle.workflowFile w]⟩ ∧
    Bundle.ExportedAs room Blueprint.backend payload' ⟨family, w'.config, files ++ [Bundle.workflowFile w']⟩
  summary_eq : Simulation.summarize room payload' = Simulation.summarize room payload
  execute_eq : ∀ histories input session,
    Simulation.execute room histories payload' input session = Simulation.execute room histories payload input session

/-- A graph with nothing in it but what it asks for. -/
def bareGraph : Value :=
  .obj [("nodes", .arr [.obj [("type", .str "llm"), ("data", .obj [("model", .str "gpt-4o"), ("memory", .bool true)])],
    .obj [("type", .str "chatInput"), ("data", .obj [("message", .str "hi")])]])]

/-- The same requests among other nodes, keys and edges, with a second model node, and with a null for a key. -/
def crowdedGraph : Value :=
  .obj [("version", .int 2), ("edges", .arr [.obj [("source", .str "b")]]),
    ("nodes", .arr [.obj [("type", .str "note")],
      .obj [("id", .str "b"), ("type", .str "chatInput"), ("data", .obj [("color", .int 1), ("message", .str "hi")])],
      .obj [("id", .int 7), ("type", .str "llm"),
        ("data", .obj [("memory", .bool true), ("apiKey", .null), ("model", .str "gpt-4o")])],
      .obj [("type", .str "llm"), ("data", .obj [("model", .str "claude-3-opus")])]])]

end FlowBundle
