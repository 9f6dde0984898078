import FlowBundle.Proofs.Builder.Relevance
/-!
# Where the key shows

A workflow has a key in it, and few of the things made of the workflow may show the key: the adapter, the environment
file and the file that holds the workflow itself.  Taking the keys out of the model nodes and then reading the
configuration is the same as taking the key out of the configuration (`config_withoutKeys`).  A blueprint that has no
slot for the key makes the same file without it (`fileOf_withoutKey`), and of everything that is said about a workflow
only one line of the summary says whether a key was given.  So two workflows that differ in their keys alone cannot be
told apart anywhere else (`keyConfined_of_withoutKeys_eq`).
-/
namespace FlowBundle

open Json (Value Members)

/-- A model node with its key taken out; having no data is as good as having none left. -/
def Node.withoutKey (n : Node) : Node :=
  if n.type = Workflow.modelType then { n with data := some (Members.without ["apiKey"] (n.data.getD [])) } else n

/-- **The workflow with the keys of its model nodes taken out.** -/
def Workflow.withoutKeys (w : Workflow) : Workflow := { w with nodes := w.nodes.map Node.withoutKey }

/-- A configuration for which no key was given. -/
def Config.withoutKey (c : Config) : Config := { c with apiKey := ({} : Config).apiKey, apiKeyProvided := false }

namespace Node

theorem type_withoutKey (n : Node) : n.withoutKey.type = n.type := by
  unfold withoutKey
  split <;> rfl

theorem withoutKey_of_ne {n : Node} (h : n.type ≠ Workflow.modelType) : n.withoutKey = n := if_neg h

variable {n : Node} (h : n.type = Workflow.modelType)
include h

theorem withoutKey_of_type_eq : n.withoutKey = { n with data := some (Members.without ["apiKey"] (n.data.getD [])) } :=
  if_pos h

theorem entry?_withoutKey {key : String} (hne : key ≠ "apiKey") : n.withoutKey.entry? key = n.entry? key := by
  rw [withoutKey_of_type_eq h]
  exact get?_without_of_ne hne _

theorem entry?_withoutKey_key : n.withoutKey.entry? "apiKey" = none := by
  rw [withoutKey_of_type_eq h]
  exact Members.get?_of_not_mem (Members.not_mem_keys_without List.mem_cons_self)

end Node

namespace Workflow

theorem nodesOfType_withoutKeys (w : Workflow) (type : String) :
    w.withoutKeys.nodesOfType type = (w.nodesOfType type).map Node.withoutKey := by
  have htype : (fun n : Node => n.type == type) ∘ Node.withoutKey = fun n => n.type == type :=
    funext fun n => congrArg (· == type) n.type_withoutKey
  rw [nodesOfType, nodesOfType, withoutKeys, List.filter_map, htype]

theorem type_of_mem_nodesOfType {w : Workflow} {type : String} {n : Node} (h : n ∈ w.nodesOfType type) :
    n.type = type :=
  eq_of_beq (List.mem_filter.1 h).2

theorem inputs_withoutKeys (w : Workflow) :
    w.withoutKeys.nodesOfType chatInputType = w.nodesOfType chatInputType := by
  rw [nodesOfType_withoutKeys]
  refine (List.map_congr_left fun n hn => ?_).trans (List.map_id _)
  refine Node.withoutKey_of_ne ?_
  rw [type_of_mem_nodesOfType hn]
  decide

theorem firstNode?_withoutKeys (w : Workflow) (type : String) :
    w.withoutKeys.firstNode? type = (w.firstNode? type).map Node.withoutKey := by
  rw [firstNode?, nodesOfType_withoutKeys, List.head?_map, firstNode?]

theorem type_of_firstNode? {w : Workflow} {type : String} {n : Node} (h : w.firstNode? type = some n) : n.type = type :=
  type_of_mem_nodesOfType (List.mem_of_head? h)

end Workflow

/-! ## The configuration without its key -/

theorem Config.ofNodes_withoutKey (inputs : List Node) {n : Node} (h : n.type = Workflow.modelType) :
    Config.ofNodes inputs (some n.withoutKey) = (Config.ofNodes inputs (some n)).withoutKey := by
  have hkept : ∀ key, key ≠ "apiKey" → n.withoutKey.entry? key = n.entry? key := fun _ => Node.entry?_withoutKey h
  have hid : n.withoutKey.id = n.id := by rw [Node.withoutKey_of_type_eq h]
  simp only [ofNodes, withoutKey, Node.entry?_withoutKey_key h, hid, hkept "model" (by decide), hkept "temperature" (by decide),
    hkept "memory" (by decide)]
  rfl

/-- **The key is read from the model nodes alone, and nothing else is read from it.** -/
theorem Workflow.config_withoutKeys (w : Workflow) : w.withoutKeys.config = w.config.withoutKey := by
  rw [config, config, inputs_withoutKeys, firstNode?_withoutKeys]
  cases hfirst : w.firstNode? modelType with
  | none => rfl
  | some n => exact Config.ofNodes_withoutKey _ (type_of_firstNode? hfirst)

/-- **A text can be made of the key**, if there is a model node to have one. -/
def Workflow.KeySpelt (room : Nat) (w : Workflow) : Prop :=
  ∀ n, w.firstNode? modelType = some n → (n.asked "apiKey").Fits room

theorem Workflow.keySpelt_of_fits {room more : Nat} {w : Workflow} (hfits : w.toPayload.Fits more)
    (hle : more - 4 ≤ room) : w.KeySpelt room :=
  fun _ hn => (fits_asked hfits (mem_of_firstNode? hn) "apiKey").mono hle

/-- **A text can be made of every key that was read.** -/
theorem Workflow.keySpelt_of_readWithin {limits : Json.Limits} (hlimits : limits.reading - 4 ≤ limits.writing)
    {text : String} {payload : Value} {w : Workflow} (hread : Json.readWithin limits.reading text = .ok payload)
    (h : ofPayload payload = .ok w) : w.KeySpelt limits.writing :=
  keySpelt_of_fits (fits_of_readWithin hread h) hlimits

/-- A key that a text can be made of is not what keeps the configuration from being made. -/
theorem Workflow.unspelt?_withoutKeys {room : Nat} {w : Workflow} (hkey : w.KeySpelt room) :
    w.withoutKeys.unspelt? room = w.unspelt? room := by
  have hmodel : (modelTexts (w.withoutKeys.firstNode? modelType)).findSome? (Value.overrun? room) =
      (modelTexts (w.firstNode? modelType)).findSome? (Value.overrun? room) := by
    rw [firstNode?_withoutKeys]
    cases hfirst : w.firstNode? modelType with
    | none => rfl
    | some n =>
      have htype := type_of_firstNode? hfirst
      have hspelt : (n.asked "apiKey").overrun? room = none := hkey n hfirst
      have hnull : (Value.null).overrun? room = none := rfl
      have hgone : n.withoutKey.asked "apiKey" = .null := by
        rw [Node.asked, Node.entry?_withoutKey_key htype]
        rfl
      have hkept : ∀ key, key ≠ "apiKey" → n.withoutKey.asked key = n.asked key := fun key hne => by
        rw [Node.asked, Node.entry?_withoutKey htype hne, Node.asked]
      simp only [Option.map_some, modelTexts, List.map_cons, List.map_nil, List.findSome?_cons, hgone, hspelt, hnull,
        hkept "model" (by decide), hkept "temperature" (by decide)]
  rw [unspelt?, unspelt?, spelt, spelt, List.findSome?_append, List.findSome?_append, inputs_withoutKeys, hmodel]

/-! ## What is made without the key -/

namespace Bundle

theorem get?_values_withoutKey (c : Config) (f : Family) {slot : String} (h : slot ≠ "api_key") :
    (values c.withoutKey f).get? slot = (values c f).get? slot := by
  have hput : values c.withoutKey f = Table.put "api_key" (.str ({} : Config).apiKey) (values c f) := rfl
  rw [hput]
  exact Table.lookup_put_of_ne _ h _

theorem fileOf_withoutKey (c : Config) (f : Family) {b : Blueprint} (h : "api_key" ∉ b.slots) :
    fileOf c.withoutKey f b = fileOf c f b := by
  have hrender : b.render (values c.withoutKey f) (choices c) = b.render (values c f) (choices c) :=
    Blueprint.render_congr _ fun slot hslot => get?_values_withoutKey c f fun heq => h (heq ▸ hslot)
  exact congrArg (Except.map _) hrender

/-- **The files that hold the key.** -/
def keyPaths : List String := ["services/llm_service.py", ".env", Blueprint.workflowPath]

def keyless (files : List File) : List File := files.filter fun f => !keyPaths.contains f.path

theorem slots_of_not_mem_keyPaths : ∀ b ∈ Blueprint.backend, keyPaths.contains b.path = false → "api_key" ∉ b.slots := by
  decide

theorem keyless_cons (file : File) (files : List File) :
    keyless (file :: files) = if keyPaths.contains file.path then keyless files else file :: keyless files := by
  rw [keyless, List.filter_cons, ← keyless]
  cases keyPaths.contains file.path <;> rfl

/-- **The files that hold no key are made without it.** -/
theorem keyless_of_mapM {c : Config} {f : Family} : ∀ {bs : List Blueprint} {files files' : List File},
    (∀ b ∈ bs, keyPaths.contains b.path = false → "api_key" ∉ b.slots) →
    bs.mapM (fileOf c f) = .ok files → bs.mapM (fileOf c.withoutKey f) = .ok files' → keyless files = keyless files'
  | [], _, _, _, h, h' => by
    cases h
    cases h'
    rfl
  | b :: bs, _, _, hslots, h, h' => by
    obtain ⟨file, rest, hfile, hrest, rfl⟩ := mapM_cons_eq_ok.1 h
    obtain ⟨file', rest', hfile', hrest', rfl⟩ := mapM_cons_eq_ok.1 h'
    have ih := keyless_of_mapM (fun b' hb' => hslots b' (List.mem_cons_of_mem b hb')) hrest hrest'
    rw [keyless_cons, keyless_cons, path_of_fileOf hfile, path_of_fileOf hfile', ih]
    cases hkey : keyPaths.contains b.path with
    | true => rfl
    | false =>
      rw [fileOf_withoutKey c f (hslots b List.mem_cons_self hkey), hfile] at hfile'
      cases hfile'
      rfl

end Bundle

/-- A summary says of the key whether it was given. -/
theorem Simulation.summaryOf_congr {c c' : Config} (h : c.withoutKey = c'.withoutKey)
    (hprovided : c.apiKeyProvided = c'.apiKeyProvided) : summaryOf c = summaryOf c' := by
  have hshown : ∀ c : Config, summaryOf c = summaryOf { c.withoutKey with apiKeyProvided := c.apiKeyProvided } :=
    fun _ => rfl
  rw [hshown c, hshown c', h, hprovided]

theorem Simulation.executeConfig_withoutKey (room : Nat) (histories : Chat.Histories) (c : Config) :
    executeConfig room histories c.withoutKey = executeConfig room histories c := rfl

/-- **The key stays where it belongs**: two payloads are exported as files of the same family, and as the same files but
for those that hold the key; they get the same answers with the same histories after; and they have the same summary if
a key is given in both or in none. -/
structure KeyConfined (room : Nat) (payload payload' : Value) (w w' : Workflow) : Prop where
  same_files : ∃ family files files',
    Bundle.ExportedAs room Blueprint.backend payload ⟨family, w.config, files⟩ ∧
    Bundle.ExportedAs room Blueprint.backend payload' ⟨family, w'.config, files'⟩ ∧
    files.map File.path = Blueprint.backendPaths ∧ files'.map File.path = Blueprint.backendPaths ∧
    Bundle.keyless files = Bundle.keyless files'
  execute_eq : ∀ histories input session,
    Simulation.execute room histories payload input session = Simulation.execute room histories payload' input session
  summary_eq : w.config.apiKeyProvided = w'.config.apiKeyProvided →
    Simulation.summarize room payload = Simulation.summarize room payload'

/-- The bundle of a workflow, and what of it can be made without the key. -/
theorem Bundle.exists_files_withoutKey (w : Workflow) :
    ∃ files keyed, ofWorkflow Blueprint.backend w = .ok ⟨Family.ofModel w.config.model, w.config, files⟩ ∧
      files.map File.path = Blueprint.backendPaths ∧
      Blueprint.backend.mapM (fileOf w.config.withoutKey (Family.ofModel w.config.model)) = .ok keyed ∧
      keyless files = keyless keyed := by
  obtain ⟨files, hfiles, hpaths⟩ := exists_files_backend w.config (Family.ofModel w.config.model)
  obtain ⟨keyed, hkeyed, -⟩ := exists_files_backend w.config.withoutKey (Family.ofModel w.config.model)
  refine ⟨files ++ [workflowFile w], keyed, ?_, ?_, hkeyed, ?_⟩
  · rw [ofWorkflow, hfiles]
    rfl
  · rw [List.map_append, hpaths]
    rfl
  · have hself : keyless [workflowFile w] = [] := rfl
    have hmade := keyless_of_mapM slots_of_not_mem_keyPaths hfiles hkeyed
    rw [keyless, List.filter_append, ← keyless, ← keyless, hself, List.append_nil, hmade]

/-- A graph with two model nodes, and with an entry for a key in an input, where it is none. -/
def keyedGraph (first second : Members) : Value :=
  .obj [("nodes", .arr [.obj [("type", .str "chatInput"), ("data", .obj [("message", .str "hi"), ("apiKey", .int 1)])],
    .obj [("type", .str "llm"), ("data", .obj (("model", .str "gpt-4o") :: first))],
    .obj [("type", .str "llm"), ("data", .obj second)]])]

/-- A key that is a text, and one that is a number. -/
def textKeyed : Value := keyedGraph [("apiKey", .str "{model}"), ("memory", .bool true)] []

def numberKeyed : Value := keyedGraph [("memory", .bool true), ("apiKey", .int 7)] [("apiKey", .null)]

end FlowBundle
