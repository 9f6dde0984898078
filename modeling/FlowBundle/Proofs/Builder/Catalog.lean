import FlowBundle.Proofs.Archive.Packing
import FlowBundle.Proofs.Blueprint.Adapter
import FlowBundle.Proofs.Builder.Reimport
import FlowBundle.Proofs.Text.LetterCase
import FlowBundle.Proofs.Workflow.Readings
/-!
# Models from the catalog

Two tables say where a model belongs: the words that its family is guessed from, and the catalog, which has the family
and the variable for its key.  The variables agree (`apiKeyEnv_of_mem_catalog`), and so do the families of all models on
offer but one: no word is in the id of Gemma (`ofModel_of_offered`).  A guess does not depend on the case of letters
(`ofModel_congr`).

The adapter of a bundle shows both.  It begins with the label of the family, and reads its key from the family's
variable (`adapterOpening`).  So a model from the catalog gets the adapter of its offer, in whatever case its id is
written and whatever else is in the workflow, unless it is Gemma, which is treated as a model that nobody knows
(`offered_adapter_iff`).
-/
namespace FlowBundle

open Json (Value)

/-! ## The two tables -/

/-- The model on offer whose id has no word of its family in it. -/
def unhintedModel : String := "google/gemma-7b-it"

theorem apiKeyEnv_of_mem_catalog : ∀ o ∈ catalog, o.family.apiKeyEnv = o.apiKeyEnv := by decide

theorem isPlain_of_offered : ∀ o ∈ catalog, ∀ m ∈ o.models, Text.IsPlain m.1 := by decide

theorem not_allBlank_of_offered : ∀ o ∈ catalog, ∀ m ∈ o.models, Text.allBlank m.1 = false := by decide

/-- The family whose word comes first in a text that is in lower case already. -/
def Family.ofLetters (cs : List Char) : Family :=
  ((hints.find? fun h => h.2.any fun word => occurs word.toList cs).map (·.1)).getD .unknown

theorem Family.ofModel_of_isPlain {s : String} (h : Text.IsPlain s) :
    ofModel s = ofLetters (s.toList.map Char.toLower) := by
  rw [← Text.toList_lower h]
  rfl

/-- **The family of a model on offer is guessed right**, with one exception. -/
theorem ofModel_of_offered : ∀ o ∈ catalog, ∀ m ∈ o.models,
    Family.ofModel m.1 = if m.1 = unhintedModel then .unknown else o.family := by
  have hletters : ∀ o ∈ catalog, ∀ m ∈ o.models,
      Family.ofLetters (m.1.toList.map Char.toLower) = if m.1 = unhintedModel then .unknown else o.family := by
    decide
  intro o ho m hm
  rw [Family.ofModel_of_isPlain (isPlain_of_offered o ho m hm), hletters o ho m hm]

theorem family_ne_unknown_of_mem_catalog : ∀ o ∈ catalog, o.family ≠ .unknown := by decide

theorem Family.ofModel_congr {s t : String} (h : Text.SameLetters s t) (ht : Text.IsPlain t) :
    ofModel s = ofModel t := by
  rw [ofModel, ofModel, h.lower_eq ht]

/-! ## The adapter of a bundle -/

namespace Bundle

/-- **A bundle for a family**: its adapter begins with the label of the family, and has the model and the variable that
the key is read from. -/
structure AdapterFor (b : Bundle) (f : Family) (model name : String) : Prop where
  family_eq : b.family = f
  begins : ∃ file, b.file? Blueprint.adapterPath = some file ∧
    (Blueprint.adapterOpening f.label model name).toList <+: file.content.toList

theorem find?_of_mem : ∀ {files : List File}, (files.map File.path).Nodup → ∀ {file}, file ∈ files →
    files.find? (·.path == file.path) = some file
  | [], _, _, h => nomatch h
  | f :: files, hnodup, file, h => by
    obtain ⟨hnew, hrest⟩ := List.nodup_cons.1 hnodup
    rcases List.mem_cons.1 h with rfl | h
    · exact List.find?_cons_of_pos (beq_self_eq_true _)
    · have hne : f.path ≠ file.path := fun heq => hnew (heq ▸ List.mem_map_of_mem h)
      rw [List.find?_cons_of_neg (by simpa using hne), find?_of_mem hrest h]

/-- **Every workflow has a bundle**, and in it, under its path, what each blueprint makes of the configuration. -/
theorem exists_bundle {payload : Value} {w : Workflow} (h : Workflow.ofPayload payload = .ok w) :
    ∃ b, ofPayload Blueprint.backend payload = .ok b ∧ b.family = Family.ofModel w.config.model ∧
      ∀ blueprint ∈ Blueprint.backend, ∃ file, b.file? blueprint.path = some file ∧
        fileOf w.config (Family.ofModel w.config.model) blueprint = .ok file := by
  obtain ⟨files, hfiles, hpaths⟩ := exists_files_backend w.config (Family.ofModel w.config.model)
  have hnodup : ((files ++ [workflowFile w]).map File.path).Nodup := by
    rw [List.map_append, hpaths]
    exact Archive.nodup_backendPaths
  refine ⟨⟨Family.ofModel w.config.model, w.config, files ++ [workflowFile w]⟩, ?_, rfl, fun blueprint hmem => ?_⟩
  · rw [ofPayload_of_ok _ h, ofWorkflow, hfiles]
    rfl
  · obtain ⟨file, hfile⟩ := isOk_of_mapM_eq_ok hfiles _ hmem
    have hin : file ∈ files := mem_of_mapM_eq_ok hfiles hmem hfile
    refine ⟨file, ?_, hfile⟩
    rw [← path_of_fileOf hfile]
    exact find?_of_mem hnodup (List.mem_append_left _ hin)

/-- **Every workflow has a bundle, with the adapter for the family of its model.** -/
theorem exists_adapterFor {payload : Value} {w : Workflow} (h : Workflow.ofPayload payload = .ok w) :
    ∃ b, ofPayload Blueprint.backend payload = .ok b ∧
      b.AdapterFor (Family.ofModel w.config.model) w.config.model (Family.ofModel w.config.model).apiKeyEnv := by
  obtain ⟨b, hb, hfamily, hfiles⟩ := exists_bundle h
  obtain ⟨file, hfile, hmade⟩ := hfiles _ Blueprint.adapter_mem_backend
  exact ⟨b, hb, hfamily, file, hfile, adapterOpening_begins hmade⟩

end Bundle

/-! ## Models on offer -/

theorem Workflow.model_config {w : Workflow} {n : Node} (hn : w.firstNode? modelType = some n) {s : String}
    (hs : n.entry? "model" = some (.str s)) (hblank : Text.allBlank s = false) : w.config.model = s := by
  have hmodel : w.config.model = Config.textOr ({} : Config).model (n.entry? "model") := by
    rw [config, hn]
    rfl
  rw [hmodel, hs]
  exact Config.textOr_of_not_blank (v := .str s) Value.noConfusion hblank

/-- **A model from the catalog gets the adapter of its offer**, in whatever case it is written and whatever else is in
the workflow: the label of the family, and the key from the variable of the offer.  One model does not: it gets the
adapter of an unknown one. -/
theorem offered_adapter_iff {payload : Value} {w : Workflow} (h : Workflow.ofPayload payload = .ok w) {n : Node}
    (hn : w.firstNode? Workflow.modelType = some n) {s : String} (hs : n.entry? "model" = some (.str s)) {o : Offer}
    (ho : o ∈ catalog) {m : String × String} (hm : m ∈ o.models) (hsame : Text.SameLetters s m.1) :
    ∃ b, Bundle.ofPayload Blueprint.backend payload = .ok b ∧
      (b.AdapterFor o.family s o.apiKeyEnv ↔ m.1 ≠ unhintedModel) ∧
      (m.1 = unhintedModel → b.AdapterFor .unknown s (Family.apiKeyEnv .unknown)) := by
  have hplain := isPlain_of_offered o ho m hm
  have hmodel : w.config.model = s :=
    Workflow.model_config hn hs (hsame.allBlank_eq.trans (not_allBlank_of_offered o ho m hm))
  obtain ⟨b, hb, hadapter⟩ := Bundle.exists_adapterFor h
  rw [hmodel, Family.ofModel_congr hsame hplain, ofModel_of_offered o ho m hm] at hadapter
  refine ⟨b, hb, ?_, fun hm => ?_⟩
  · by_cases hm : m.1 = unhintedModel
    · rw [if_pos hm] at hadapter
      have hne : ¬ b.AdapterFor o.family s o.apiKeyEnv := fun hoffer =>
        family_ne_unknown_of_mem_catalog o ho (hoffer.family_eq.symm.trans hadapter.family_eq)
      simp [hm, hne]
    · rw [if_neg hm, apiKeyEnv_of_mem_catalog o ho] at hadapter
      simp [hm, hadapter]
  · rw [if_pos hm] at hadapter
    exact hadapter

/-- A graph with two model nodes, the first of which names a model. -/
def namingGraph (model : String) : Value :=
  .obj [("nodes", .arr [.obj [("type", .str "chatInput"), ("data", .obj [("model", .str "gpt-4o")])],
    .obj [("type", .str "llm"), ("data", .obj [("memory", .bool true), ("model", .str model), ("apiKey", .int 0)])],
    .obj [("type", .str "llm"), ("data", .obj [("model", .str "claude-3-opus")])]])]

/-- One family's model in another case than the catalog's. -/
theorem offered_adapter_iff_capitals : ∃ w n b,
    Workflow.ofPayload (namingGraph "META-llama/llama-2-70B-Chat-HF") = .ok w ∧
    w.firstNode? Workflow.modelType = some n ∧ n.entry? "model" = some (.str "META-llama/llama-2-70B-Chat-HF") ∧
    Text.SameLetters "META-llama/llama-2-70B-Chat-HF" "meta-llama/Llama-2-70b-chat-hf" ∧
    Bundle.ofPayload Blueprint.backend (namingGraph "META-llama/llama-2-70B-Chat-HF") = .ok b ∧
    b.AdapterFor .openWeight "META-llama/llama-2-70B-Chat-HF" "HUGGINGFACEHUB_API_TOKEN" := by
  have hoffer : catalog[3] ∈ catalog := List.getElem_mem _
  have hsame : Text.SameLetters "META-llama/llama-2-70B-Chat-HF" "meta-llama/Llama-2-70b-chat-hf" := by decide
  obtain ⟨b, hb, hadapter, -⟩ :=
    @offered_adapter_iff (namingGraph "META-llama/llama-2-70B-Chat-HF") _ rfl _ rfl _ rfl _ hoffer _ (.head _) hsame
  exact ⟨_, _, b, rfl, rfl, rfl, hsame, hb, hadapter.2 (by decide)⟩

/-- Gemma is on offer, and its adapter is not the one of its offer. -/
theorem not_adapterFor_gemma : ∃ o ∈ catalog, (unhintedModel, "Google Gemma 7B") ∈ o.models ∧ ∃ w n b,
    Workflow.ofPayload (namingGraph unhintedModel) = .ok w ∧ w.firstNode? Workflow.modelType = some n ∧
    n.entry? "model" = some (.str unhintedModel) ∧
    Bundle.ofPayload Blueprint.backend (namingGraph unhintedModel) = .ok b ∧ b.family ≠ o.family ∧
    ¬ b.AdapterFor o.family unhintedModel o.apiKeyEnv := by
  have hoffer : catalog[3] ∈ catalog := List.getElem_mem _
  have hmodel : (unhintedModel, "Google Gemma 7B") ∈ catalog[3].models := .tail _ (.tail _ (.head _))
  have hguess := ofModel_of_offered _ hoffer _ hmodel
  rw [if_pos rfl] at hguess
  obtain ⟨b, hb, hadapter⟩ := @Bundle.exists_adapterFor (namingGraph unhintedModel) _ rfl
  have hfamily : b.family ≠ catalog[3].family := by
    rw [hadapter.family_eq]
    exact fun heq => family_ne_unknown_of_mem_catalog _ hoffer (heq.symm.trans hguess)
  exact ⟨catalog[3], hoffer, hmodel, _, _, b, rfl, rfl, rfl, hb, hfamily, fun h => hfamily h.family_eq⟩

end FlowBundle
