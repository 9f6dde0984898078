import Mathlib.Data.List.Basic
import FlowBundle.Proofs.Blueprint.Adapter
/-!
# Bodies filled line by line

No token goes over the end of a line, so a body is filled line by line (`filled_unlines`), and a line without a declared
token stays as it is (`filled_of_fixed`).  The lines that are left in an adapter and in an environment file say where the
model, the key and the temperature stand: each in a line of the body, and not always alone (`exists_content_adapter`,
`content_environment`).
-/
namespace FlowBundle

namespace Piece

variable {replacement? : String → Option String}

/-- **A line feed ends whatever might have become a token.** -/
theorem cut_newline (rest : List Char) : ∀ (hand : Option (List Char)) (cs : List Char),
    cut hand (cs ++ '\n' :: rest) = cut hand cs ++ .plain '\n' :: cut none rest
  | none, [] => by
    rw [List.nil_append, cut_none_cons, if_neg (by decide)]
    rfl
  | some hand, [] => by
    have hnot : isNameChar '\n' = false := by decide
    rw [List.nil_append, cut_some_cons, hnot, if_neg Bool.false_ne_true, if_neg (by simp), cut_none_cons,
      if_neg (by decide)]
    rfl
  | none, c :: cs => by
    rw [List.cons_append, cut_none_cons, cut_none_cons, cut_newline rest (some []) cs, cut_newline rest none cs]
    split <;> rfl
  | some hand, c :: cs => by
    rw [List.cons_append, cut_some_cons, cut_some_cons, cut_none_cons, cut_none_cons, cut_newline rest (some (c :: hand)) cs,
      cut_newline rest none cs, cut_newline rest (some []) cs]
    split
    · rfl
    · split
      · rfl
      · split <;> simp

/-- A text with the tokens filled that there is a text for. -/
def filled (replacement? : String → Option String) (s : String) : String :=
  String.ofList ((cut none s.toList).flatMap (fill replacement?))

/-- **Lines are filled apart.** -/
theorem filled_unlines : ∀ lines : List String,
    filled replacement? (Text.unlines lines) = Text.unlines (lines.map (filled replacement?))
  | [] => rfl
  | line :: lines => by
    have ih := filled_unlines lines
    rw [List.map_cons, Text.unlines_cons, Text.unlines_cons, ← ih, ← String.toList_inj]
    simp [filled, cut_newline, fill]

def names (ps : List Piece) : List String :=
  ps.filterMap fun
    | .plain _ => none
    | .token name => some name

theorem mem_names_iff {name : String} {ps : List Piece} : name ∈ names ps ↔ .token name ∈ ps := by
  rw [names, List.mem_filterMap]
  constructor
  · rintro ⟨p, hp, heq⟩
    cases p with
    | plain c => cases heq
    | token other =>
      cases heq
      exact hp
  · exact fun h => ⟨_, h, rfl⟩

/-- **A line that has none of some tokens.** -/
def IsFixed (slots : List String) (line : String) : Prop := ∀ name ∈ names (cut none line.toList), name ∉ slots

instance (slots : List String) (line : String) : Decidable (IsFixed slots line) :=
  inferInstanceAs (Decidable (∀ name ∈ names (cut none line.toList), name ∉ slots))

theorem isFixed_ofList {slots : List String} {cs : List Char} (h : ∀ name ∈ names (cut none cs), name ∉ slots) :
    IsFixed slots (String.ofList cs) := by
  unfold IsFixed
  rwa [String.toList_ofList]

theorem filled_of_fixed {slots : List String} {line : String} (h : IsFixed slots line)
    (hnone : ∀ name, name ∉ slots → replacement? name = none) : filled replacement? line = line := by
  have hfill : ∀ p ∈ cut none line.toList, fill replacement? p = source p := by
    intro p hp
    cases p with
    | plain c => rfl
    | token name =>
      have hname : replacement? name = none := hnone name (h name (mem_names_iff.2 hp))
      rw [fill, hname]
  have hcs : (cut none line.toList).flatMap source = line.toList := flatMap_source_cut line.toList none
  rw [filled, List.flatMap_congr hfill, hcs, String.ofList_toList]

theorem map_filled_of_forall {lines : List String} (h : ∀ line ∈ lines, filled replacement? line = line) :
    lines.map (filled replacement?) = lines := by
  rw [List.map_congr_left h, List.map_id']

theorem filled_plain {s : String} (h : '{' ∉ s.toList) : filled replacement? s = s := by
  have hfill := fill_cut_plain replacement? h []
  rw [List.append_nil] at hfill
  rw [filled, hfill]
  simp [cut, loose]

section
variable {before token name text : String} (hbefore : '{' ∉ before.toList)
  (htoken : token.toList = source (.token name)) (hname : IsTokenName name) (htext : replacement? name = some text)
include hbefore htoken hname htext

theorem filled_slot (after : String) :
    filled replacement? (before ++ (token ++ after)) = before ++ (text ++ filled replacement? after) := by
  rw [← String.toList_inj]
  have hfill := fill_cut_append hbefore hname htext after.toList
  simp [filled, htoken, hfill]

theorem filled_slot_last : filled replacement? (before ++ token) = before ++ text := by
  have hslot := filled_slot hbefore htoken hname htext ""
  have hempty : filled replacement? "" = "" := filled_plain (by decide)
  rwa [hempty, String.append_empty, String.append_empty] at hslot

end

end Piece

namespace Blueprint

/-- The lines of an adapter that have the settings. -/
def settingLines (model name key temperature memory : String) : List String :=
  ["MODEL = \"" ++ (model ++ "\""),
   "API_KEY = os.getenv(\"" ++ (name ++ ("\") or \"" ++ (key ++ "\""))),
   "TEMPERATURE = " ++ temperature,
   "USE_MEMORY = \"" ++ (memory ++ "\" == \"true\"")]

/-- **The lines of an adapter.** -/
def adapterLines (rest : List String) (label model name key temperature memory : String) : List String :=
  titleLines ++ ("Provider family: " ++ label) :: (importLines ++
    (settingLines model name key temperature memory ++ rest))

theorem exists_adapterLines : ∃ rest, (∀ line ∈ rest, Piece.IsFixed adapter.slots line) ∧ adapterBody = Text.unlines
    (adapterLines rest "{provider_name}" "{model}" "{api_key_env}" "{api_key}" "{temperature}" "{use_memory}") := by
  refine ⟨_, ?_, rfl⟩
  -- To the kernel a literal is a list of characters, but the characters of a text are work.
  repeat
    refine List.forall_mem_cons.2 ⟨?_, ?_⟩
    · first
      | with_reducible apply Piece.isFixed_ofList
        decide +kernel
      | decide +kernel
  exact List.forall_mem_nil _

theorem textFor?_adapter_eq_none (values choices : Json.Members) {name : String} (h : name ∉ adapter.slots) :
    adapter.textFor? values choices name = none := if_neg h

/-- **The settings are filled in where they stand.** -/
theorem filled_settingLines {replacement? : String → Option String} {model name key temperature memory : String}
    (hmodel : replacement? "model" = some model) (hname : replacement? "api_key_env" = some name)
    (hkey : replacement? "api_key" = some key) (htemperature : replacement? "temperature" = some temperature)
    (hmemory : replacement? "use_memory" = some memory) :
    (settingLines "{model}" "{api_key_env}" "{api_key}" "{temperature}" "{use_memory}").map
      (Piece.filled replacement?) = settingLines model name key temperature memory := by
  have hnames : Piece.IsTokenName "model" ∧ Piece.IsTokenName "api_key_env" ∧ Piece.IsTokenName "api_key" ∧
    Piece.IsTokenName "temperature" ∧ Piece.IsTokenName "use_memory" := by decide
  obtain ⟨hmodel', hname', hkey', htemperature', hmemory'⟩ := hnames
  simp only [settingLines, List.map_cons, List.map_nil]
  rw [Piece.filled_slot (by decide) (by decide) hmodel' hmodel, Piece.filled_slot (by decide) (by decide) hname' hname,
    Piece.filled_slot (by decide) (by decide) hkey' hkey,
    Piece.filled_slot_last (by decide) (by decide) htemperature' htemperature,
    Piece.filled_slot (by decide) (by decide) hmemory' hmemory, Piece.filled_plain (by decide),
    Piece.filled_plain (by decide)]

/-- The lines of an environment file, with a text behind each provider's variable. -/
def environmentLines (key : String) : List String :=
  ["# API keys. Every provider variable holds the key entered in the editor.",
   "OPENAI_API_KEY=" ++ key,
   "ANTHROPIC_API_KEY=" ++ key,
   "GOOGLE_API_KEY=" ++ key,
   "HUGGINGFACEHUB_API_TOKEN=" ++ key,
   "",
   "# Server configuration",
   "PORT=5000"]

def environmentPath : String := ".env"

def environment : Blueprint := { path := environmentPath, body := environmentBody, slots := ["api_key"] }

theorem environment_mem_backend : environment ∈ backend :=
  .tail _ (.tail _ (.tail _ (.tail _ (.tail _ (.tail _ (.tail _ (.tail _ (.head _))))))))

theorem environmentBody_eq : environmentBody = Text.unlines (environmentLines "{api_key}") := rfl

theorem filled_environmentLines {replacement? : String → Option String} {key : String}
    (hkey : replacement? "api_key" = some key) :
    (environmentLines "{api_key}").map (Piece.filled replacement?) = environmentLines key := by
  have hname : Piece.IsTokenName "api_key" := by decide
  have hslot : ∀ before : String, '{' ∉ before.toList → Piece.filled replacement? (before ++ "{api_key}") = before ++ key :=
    fun before hbefore => Piece.filled_slot_last hbefore (by decide) hname hkey
  simp only [environmentLines, List.map_cons, List.map_nil]
  rw [hslot _ (by decide), hslot _ (by decide), hslot _ (by decide), hslot _ (by decide), Piece.filled_plain (by decide),
    Piece.filled_plain (by decide), Piece.filled_plain (by decide), Piece.filled_plain (by decide)]

end Blueprint

namespace Bundle

open Blueprint

variable {c : Config} {f : Family} {file : File}

/-- **The lines of an environment file** are its own with the key in four of them. -/
theorem content_environment (h : fileOf c f environment = .ok file) :
    file.content = Text.unlines (environmentLines c.apiKey) := by
  have hcontent : file.content = Piece.filled (environment.textFor? (values c f) (choices c)) environmentBody :=
    content_of_fileOf h
  have hkey : environment.textFor? (values c f) (choices c) "api_key" = some c.apiKey := rfl
  rw [hcontent, environmentBody_eq, Piece.filled_unlines, filled_environmentLines hkey]

/-- **The lines of an adapter** are its own with the settings in five of them. -/
theorem exists_content_adapter : ∃ rest, ∀ {c : Config} {f : Family} {file : File}, fileOf c f adapter = .ok file →
    file.content = Text.unlines (adapterLines rest f.label c.model f.apiKeyEnv c.apiKey c.temperature
      (if c.memory then "true" else "false")) := by
  obtain ⟨rest, hfixed, hbody⟩ := exists_adapterLines
  refine ⟨rest, fun {c f file} h => ?_⟩
  have hcontent : file.content = Piece.filled (adapter.textFor? (values c f) (choices c)) adapterBody :=
    content_of_fileOf h
  have hlines : ∀ lines : List String, (∀ line ∈ lines, line ∈ titleLines ++ importLines) →
      lines.map (Piece.filled (adapter.textFor? (values c f) (choices c))) = lines := fun lines hin =>
    Piece.map_filled_of_forall fun line hline => Piece.filled_plain (brace_not_mem_lines line (hin line hline))
  have hrest : rest.map (Piece.filled (adapter.textFor? (values c f) (choices c))) = rest :=
    Piece.map_filled_of_forall fun line hline =>
      Piece.filled_of_fixed (hfixed line hline) fun name hname => textFor?_adapter_eq_none _ _ hname
  have hlabel : Piece.filled (adapter.textFor? (values c f) (choices c)) ("Provider family: " ++ "{provider_name}") =
      "Provider family: " ++ f.label := by
    have hname : Piece.IsTokenName "provider_name" := by decide
    exact Piece.filled_slot_last (by decide) (by decide) hname rfl
  have hsettings : (settingLines "{model}" "{api_key_env}" "{api_key}" "{temperature}" "{use_memory}").map
      (Piece.filled (adapter.textFor? (values c f) (choices c))) =
      settingLines c.model f.apiKeyEnv c.apiKey c.temperature (if c.memory then "true" else "false") :=
    filled_settingLines rfl rfl rfl rfl rfl
  rw [hcontent, hbody, Piece.filled_unlines, adapterLines, List.map_append, List.map_cons, List.map_append,
    List.map_append, hlines titleLines fun _ h => List.mem_append_left _ h,
    hlines importLines fun _ h => List.mem_append_right _ h, hrest, hlabel, hsettings]
  rfl

end Bundle
end FlowBundle
