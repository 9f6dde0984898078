import FlowBundle.Proofs.Blueprint.Substitution
import FlowBundle.Proofs.Text.Lines
/-!
# How an adapter begins

The adapter of a bundle says in its first lines to which family its model belongs, which model that is, and in which
variable the key is found.  These three texts stand between fixed ones, whatever they are (`adapterOpening_begins`).
-/
namespace FlowBundle

namespace Piece

instance (name : String) : Decidable (IsTokenName name) :=
  @instDecidableAnd _ _ _ (List.decidableBAll (fun c => ('a' ≤ c ∧ c ≤ 'z') ∨ c = '_') name.toList)

theorem flatMap_fill_plain (replacement? : String → Option String) : ∀ cs : List Char,
    (cs.map plain).flatMap (fill replacement?) = cs
  | [] => rfl
  | c :: cs => by rw [List.map_cons, List.flatMap_cons, flatMap_fill_plain replacement? cs, fill, List.singleton_append]

/-- **A text without an open brace and a token behind it** come out as the text and what stands for the token. -/
theorem fill_cut_append {replacement? : String → Option String} {cs : List Char} (hcs : '{' ∉ cs) {name text : String}
    (hname : IsTokenName name) (htext : replacement? name = some text) (rest : List Char) :
    (cut none (cs ++ (source (.token name) ++ rest))).flatMap (fill replacement?) =
      cs ++ (text.toList ++ (cut none rest).flatMap (fill replacement?)) := by
  rw [cut_append_of_not_mem _ hcs, cut_token hname, List.flatMap_append, flatMap_fill_plain, List.flatMap_cons, fill,
    htext]

theorem fill_cut_plain (replacement? : String → Option String) {cs : List Char} (hcs : '{' ∉ cs) (rest : List Char) :
    (cut none (cs ++ rest)).flatMap (fill replacement?) = cs ++ (cut none rest).flatMap (fill replacement?) := by
  rw [cut_append_of_not_mem _ hcs, List.flatMap_append, flatMap_fill_plain]

end Piece

namespace Blueprint

def adapterPath : String := "services/llm_service.py"

/-- The blueprint of the adapter. -/
def adapter : Blueprint :=
  { path := adapterPath, body := adapterBody
    slots := ["model", "api_key", "api_key_env", "temperature", "use_memory", "provider_name"] }

theorem adapter_mem_backend : adapter ∈ backend := .tail _ (.tail _ (.tail _ (.head _)))

/-! ## The texts between -/

def titleLines : List String := ["\"\"\"", "LLM adapter of the generated AI workflow backend.", ""]

def importLines : List String :=
  ["\"\"\"",
   "",
   "import os",
   "from typing import Any, Dict, List, Optional",
   "",
   "from langchain_anthropic import ChatAnthropic",
   "from langchain_core.messages import AIMessage, BaseMessage, HumanMessage",
   "from langchain_google_genai import ChatGoogleGenerativeAI",
   "from langchain_huggingface import ChatHuggingFace, HuggingFaceEndpoint",
   "from langchain_openai import ChatOpenAI",
   ""]

def beforeLabel : String := Text.unlines titleLines ++ "Provider family: "

def beforeModel : String := "\n" ++ (Text.unlines importLines ++ "MODEL = \"")

def beforeName : String := "\"\nAPI_KEY = os.getenv(\""

def behindName : String := "\") or \""

/-- **The beginning of an adapter**, up to what takes the place of the key if its variable is not set. -/
def adapterOpening (label model name : String) : String :=
  beforeLabel ++ (label ++ (beforeModel ++ (model ++ (beforeName ++ (name ++ behindName)))))

/-- The body begins so, with a token for each of the three texts. -/
theorem adapterBody_eq : ∃ rest, adapterBody = adapterOpening "{provider_name}" "{model}" "{api_key_env}" ++ rest := by
  have hlines : ∃ rest, adapterBody = Text.unlines (titleLines ++ ("Provider family: " ++ "{provider_name}") ::
      (importLines ++ ("MODEL = \"" ++ ("{model}" ++ "\"")) ::
        ("API_KEY = os.getenv(\"" ++ ("{api_key_env}" ++ ("\") or \"" ++ "{api_key}\""))) :: rest)) :=
    ⟨_, rfl⟩
  obtain ⟨rest, hrest⟩ := hlines
  have hname : beforeName = "\"" ++ ("\n" ++ "API_KEY = os.getenv(\"") := rfl
  refine ⟨"{api_key}\"" ++ ("\n" ++ Text.unlines rest), hrest.trans ?_⟩
  simp only [adapterOpening, beforeLabel, beforeModel, hname, behindName, Text.unlines_append, Text.unlines_cons,
    String.append_assoc]

theorem brace_not_mem_lines : ∀ line ∈ titleLines ++ importLines, '{' ∉ line.toList := by decide +kernel

theorem brace_not_mem_opening :
    '{' ∉ beforeLabel.toList ∧ '{' ∉ beforeModel.toList ∧ '{' ∉ beforeName.toList ∧ '{' ∉ behindName.toList := by
  have hlines : ∀ lines : List String, (∀ line ∈ lines, line ∈ titleLines ++ importLines) →
      '{' ∉ (Text.unlines lines).toList := by
    intro lines h hmem
    obtain ⟨line, hline, hmem⟩ := (Text.mem_unlines_iff (by decide)).1 hmem
    exact brace_not_mem_lines line (h line hline) hmem
  have htitle := hlines titleLines fun _ hline => List.mem_append_left _ hline
  have himports := hlines importLines fun _ hline => List.mem_append_right _ hline
  refine ⟨?_, ?_, by decide, by decide⟩
  · rw [beforeLabel, String.toList_append, List.mem_append]
    exact not_or.2 ⟨htitle, by decide⟩
  · rw [beforeModel, String.toList_append, String.toList_append, List.mem_append, List.mem_append]
    exact not_or.2 ⟨by decide, not_or.2 ⟨himports, by decide⟩⟩

/-- **What an adapter begins with** once its three tokens have their texts. -/
theorem fill_adapterBody_begins {replacement? : String → Option String} {label model name : String}
    (hlabel : replacement? "provider_name" = some label) (hmodel : replacement? "model" = some model)
    (hname : replacement? "api_key_env" = some name) :
    (adapterOpening label model name).toList <+: adapter.pieces.flatMap (Piece.fill replacement?) := by
  obtain ⟨rest, hbody⟩ := adapterBody_eq
  obtain ⟨hbefore, himports, hkey, hbehind⟩ := brace_not_mem_opening
  have htokens : "{provider_name}".toList = Piece.source (.token "provider_name") ∧
      "{model}".toList = Piece.source (.token "model") ∧
      "{api_key_env}".toList = Piece.source (.token "api_key_env") := by decide
  have hnames : Piece.IsTokenName "provider_name" ∧ Piece.IsTokenName "model" ∧ Piece.IsTokenName "api_key_env" := by
    decide
  have hpieces : adapter.pieces = Piece.cut none adapterBody.toList := rfl
  rw [hpieces, hbody]
  simp only [adapterOpening, String.toList_append, List.append_assoc, htokens]
  rw [Piece.fill_cut_append hbefore hnames.1 hlabel, Piece.fill_cut_append himports hnames.2.1 hmodel,
    Piece.fill_cut_append hkey hnames.2.2 hname, Piece.fill_cut_plain _ hbehind]
  -- Both sides are the same seven texts, with more of the adapter behind them on one side.
  simp only [List.prefix_append_right_inj, List.prefix_append]

end Blueprint

namespace Bundle

open Blueprint

theorem areTexts_choices (c : Config) : AreTexts (choices c) := by
  intro key v h
  obtain ⟨-, rfl⟩ := Prod.mk.inj (List.mem_singleton.1 (Json.Members.mem_of_get? h))
  exact ⟨_, rfl⟩

/-- The content of a file is the body with what is declared replaced. -/
theorem content_of_fileOf {c : Config} {f : Family} {b : Blueprint} {file : File} (h : fileOf c f b = .ok file) :
    file.content = b.substituted (values c f) (choices c) b.pieces := by
  rw [fileOf] at h
  cases hrender : b.render (values c f) (choices c) with
  | error fault =>
    rw [hrender] at h
    cases h
  | ok text =>
    have hcomplete := complete_of_render (areTexts_choices c) hrender
    rw [render_of_complete (areTexts_choices c) hcomplete] at h
    cases h
    rfl

/-- **An adapter begins with the label of its family, its model, and the variable that has the family's key.** -/
theorem adapterOpening_begins {c : Config} {f : Family} {file : File} (h : fileOf c f adapter = .ok file) :
    (adapterOpening f.label c.model f.apiKeyEnv).toList <+: file.content.toList := by
  rw [content_of_fileOf h, substituted, String.toList_ofList]
  exact fill_adapterBody_begins rfl rfl rfl

end Bundle
end FlowBundle
