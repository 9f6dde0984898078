import FlowBundle.Config
/-!
# Model providers

A model id is free text, so its provider is guessed from a word in it: the first family one of whose
words occurs, in any case.  The catalog lists the models on offer, family by family, with the
environment variable that holds the family's key.
-/
namespace FlowBundle

inductive Family where
  | openAI
  | anthropic
  | google
  | openWeight
  | unknown
  deriving DecidableEq, Repr

namespace Family

def id : Family → String
  | .openAI => "openai"
  | .anthropic => "anthropic"
  | .google => "google"
  | .openWeight => "open_weight"
  | .unknown => "unknown"

def fallbackModel : String := "gpt-4o"

def label : Family → String
  | .openAI => "OpenAI"
  | .anthropic => "Anthropic"
  | .google => "Google"
  | .openWeight => "Hugging Face (open-weight models)"
  | .unknown => "unrecognized model, falling back to OpenAI " ++ fallbackModel

def all : List Family := [.openAI, .anthropic, .google, .openWeight, .unknown]

def hints : List (Family × List String) :=
  [(.openAI, ["gpt"]), (.anthropic, ["claude"]), (.google, ["gemini"]), (.openWeight, ["llama", "mistral"])]

def occurs (word : List Char) : List Char → Bool
  | [] => word.isEmpty
  | c :: cs => word.isPrefixOf (c :: cs) || occurs word cs

/-- **The family of a model id.** -/
def ofModel (model : String) : Family :=
  let text := (Text.lower model).toList
  ((hints.find? fun h => h.2.any fun word => occurs word.toList text).map (·.1)).getD .unknown

end Family

structure Offer where
  provider : String
  family : Family
  models : List (String × String)
  apiKeyEnv : String

def catalog : List Offer :=
  [{ provider := "OpenAI", family := .openAI, apiKeyEnv := "OPENAI_API_KEY"
     models := [("gpt-4o", "GPT-4o"), ("gpt-4-turbo", "GPT-4 Turbo"), ("gpt-3.5-turbo", "GPT-3.5 Turbo")] },
   { provider := "Anthropic", family := .anthropic, apiKeyEnv := "ANTHROPIC_API_KEY"
     models := [("claude-3-opus", "Claude 3 Opus"), ("claude-3-sonnet", "Claude 3 Sonnet"),
       ("claude-3-haiku", "Claude 3 Haiku")] },
   { provider := "Google", family := .google, apiKeyEnv := "GOOGLE_API_KEY"
     models := [("gemini-2.0-flash", "Gemini 2.0 Flash")] },
   { provider := "Hugging Face", family := .openWeight, apiKeyEnv := "HUGGINGFACEHUB_API_TOKEN"
     models := [("meta-llama/Llama-2-70b-chat-hf", "Meta Llama 2 70B"),
       ("mistralai/Mistral-7B-Instruct-v0.2", "Mistral 7B Instruct"), ("google/gemma-7b-it", "Google Gemma 7B")] }]

/-- **The variable that holds a family's key**; an unknown family uses that of its fallback. -/
def Family.apiKeyEnv (f : Family) : String :=
  ((catalog.find? fun o => o.family == f).map (·.apiKeyEnv)).getD "OPENAI_API_KEY"

def credentialVariables : List String := catalog.map (·.apiKeyEnv)

end FlowBundle
