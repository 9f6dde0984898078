import FlowBundle.Proofs.Blueprint.Lines
import FlowBundle.Proofs.Builder.Catalog
/-!
# Lines that values open

Values stand in an adapter and in an environment file as they were entered, and what is a line end in a value is one in
the file.  So the files have as many lines as with the default values, and one more for each line that a value opens
(`exists_exceeds`).  A key that was entered with its line end breaks the line of the adapter that it stands in
(`not_sameLines_pastedKey`).
-/
namespace FlowBundle

open Json (Value)
open Text (lineEnds opened IsOneLine unlines)

/-! ## The two files -/

namespace Blueprint

theorem lineEnds_environmentLines (key : String) : lineEnds (unlines (environmentLines key)) = 8 + 4 * opened key := by
  have hbehind : ∀ before : String, IsOneLine before → opened (before ++ key) = opened key :=
    fun _ => Text.opened_behind
  have hcomment : opened "# API keys. Every provider variable holds the key entered in the editor." = 0 :=
    Text.opened_of_isOneLine (by decide +kernel)
  have hempty : opened "" = 0 := by rfl
  have hserver : opened "# Server configuration" = 0 := Text.opened_of_isOneLine (by decide)
  have hport : opened "PORT=5000" = 0 := Text.opened_of_isOneLine (by decide)
  rw [Text.lineEnds_unlines]
  simp only [environmentLines, Text.openedIn, List.length_cons, List.length_nil]
  rw [hbehind _ (by decide), hbehind _ (by decide), hbehind _ (by decide), hbehind _ (by decide), hcomment, hempty,
    hserver, hport]
  omega

/-- **A model and a key open a line with each of their line ends**, being in quotes, and a temperature does so but for the
end of its line. -/
theorem openedIn_settingLines {name memory : String} (hname : IsOneLine name) (hmemory : IsOneLine memory)
    (model key temperature : String) :
    Text.openedIn (settingLines model name key temperature memory) =
      lineEnds model + lineEnds key + opened temperature := by
  simp only [settingLines, Text.openedIn]
  rw [Text.opened_between (by decide) (by decide) (by decide), Text.opened_behind (by decide), Text.opened_behind hname,
    Text.opened_between (by decide) (by decide) (by decide), Text.opened_behind (by decide),
    Text.opened_between (by decide) (by decide) (by decide), Text.lineEnds_eq_zero_iff.2 hmemory]
  omega

/-- Lines exchanged for others: what counts is what they open. -/
theorem lineEnds_exchange {front middle back lines lines' : List String} {line line' : String} {n : Nat}
    (hline : opened line = opened line') (hlength : lines.length = lines'.length)
    (hlines : Text.openedIn lines = Text.openedIn lines' + n) :
    lineEnds (unlines (front ++ line :: (middle ++ (lines ++ back)))) =
      lineEnds (unlines (front ++ line' :: (middle ++ (lines' ++ back)))) + n := by
  simp only [Text.lineEnds_unlines, Text.openedIn_append, Text.openedIn, List.length_append, List.length_cons, hline,
    hlength, hlines]
  omega

theorem lineEnds_adapterLines (rest : List String) {label name memory : String} (hlabel : IsOneLine label)
    (hname : IsOneLine name) (hmemory : IsOneLine memory) (model key temperature : String) :
    lineEnds (unlines (adapterLines rest label model name key temperature memory)) =
      lineEnds (unlines (adapterLines rest "" "" "" "" "" "")) + (lineEnds model + lineEnds key + opened temperature) := by
  have hempty : IsOneLine "" := by decide
  refine lineEnds_exchange ?_ rfl ?_
  · rw [Text.opened_behind (by decide), Text.opened_behind (by decide), Text.opened_of_isOneLine hlabel,
      Text.opened_of_isOneLine hempty]
  · rw [openedIn_settingLines hname hmemory, openedIn_settingLines hempty hempty, Text.lineEnds_eq_zero_iff.2 hempty,
      Text.opened_of_isOneLine hempty]
    omega

theorem isOneLine_label (f : Family) : IsOneLine f.label := by cases f <;> decide

theorem isOneLine_apiKeyEnv (f : Family) : IsOneLine f.apiKeyEnv := by cases f <;> decide

theorem isOneLine_memory (memory : Bool) : IsOneLine (if memory then "true" else "false") := by cases memory <;> decide

end Blueprint

namespace Bundle

open Blueprint

/-- **How many lines a file has**, if there is one at this path. -/
def lineEnds? (b : Bundle) (path : String) : Option Nat := (b.file? path).map fun file => lineEnds file.content

/-- **The files have their own lines, and those that the values open.** -/
theorem exists_lineEnds : ∃ n, ∀ {payload : Value} {w : Workflow}, Workflow.ofPayload payload = .ok w →
    ∃ b, ofPayload Blueprint.backend payload = .ok b ∧
      b.lineEnds? adapterPath = some (n + (lineEnds w.config.model + lineEnds w.config.apiKey +
        opened w.config.temperature)) ∧
      b.lineEnds? environmentPath = some (8 + 4 * opened w.config.apiKey) := by
  obtain ⟨rest, hadapter⟩ := exists_content_adapter
  refine ⟨lineEnds (unlines (adapterLines rest "" "" "" "" "" "")), fun {payload w} h => ?_⟩
  obtain ⟨b, hb, -, hfiles⟩ := exists_bundle h
  obtain ⟨a, ha, hmade⟩ := hfiles _ adapter_mem_backend
  obtain ⟨e, he, hmade'⟩ := hfiles _ environment_mem_backend
  have hfound : b.file? adapterPath = some a := ha
  have hfound' : b.file? environmentPath = some e := he
  refine ⟨b, hb, ?_, ?_⟩
  · rw [lineEnds?, hfound, Option.map_some, hadapter hmade,
      lineEnds_adapterLines rest (isOneLine_label _) (isOneLine_apiKeyEnv _) (isOneLine_memory _)]
  · rw [lineEnds?, hfound', Option.map_some, content_environment hmade', lineEnds_environmentLines]

end Bundle

/-! ## Against the defaults -/

/-- A graph with one model node that says nothing but whether it has a memory. -/
def Workflow.plainGraph (memory : Bool) : Value :=
  .obj [("nodes", .arr [.obj [("type", .str "llm"), ("data", .obj [("memory", .bool memory)])]])]

theorem Workflow.exists_plainGraph (memory : Bool) : ∃ w, ofPayload (plainGraph memory) = .ok w ∧
    w.config = { memory := memory, hasModelNode := true } := by
  cases memory <;> exact ⟨_, rfl, rfl⟩

theorem isOneLine_defaults :
    IsOneLine ({} : Config).model ∧ IsOneLine ({} : Config).apiKey ∧ IsOneLine ({} : Config).temperature := by
  decide

namespace Bundle

open Blueprint

/-- **The adapter and the environment file have as many lines** in one bundle as in the other. -/
def SameLines (b b' : Bundle) : Prop :=
  b.lineEnds? adapterPath = b'.lineEnds? adapterPath ∧ b.lineEnds? environmentPath = b'.lineEnds? environmentPath

/-- How far a bundle's files are from those of a plain one. -/
structure Exceeds (b plain : Bundle) (inAdapter inEnvironment : Nat) : Prop where
  adapter : ∃ n, plain.lineEnds? adapterPath = some n ∧ b.lineEnds? adapterPath = some (n + inAdapter)
  environment : ∃ n, plain.lineEnds? environmentPath = some n ∧ b.lineEnds? environmentPath = some (n + inEnvironment)

theorem Exceeds.sameLines_iff {b plain : Bundle} {inAdapter inEnvironment : Nat}
    (h : b.Exceeds plain inAdapter inEnvironment) : b.SameLines plain ↔ inAdapter = 0 ∧ inEnvironment = 0 := by
  obtain ⟨⟨n, hn, hb⟩, m, hm, hb'⟩ := h
  rw [SameLines, hn, hb, hm, hb', Option.some_inj, Option.some_inj, Nat.add_eq_left, Nat.add_eq_left]

/-- **Beyond the lines of a plain bundle there are those that the values open**: in the adapter the model and the key with
each of their line ends, and the temperature; in the environment file the key, behind each of four variables. -/
theorem exists_exceeds {payload : Value} {w : Workflow} (h : Workflow.ofPayload payload = .ok w) :
    ∃ b plain, ofPayload Blueprint.backend payload = .ok b ∧
      ofPayload Blueprint.backend (Workflow.plainGraph w.config.memory) = .ok plain ∧
      b.Exceeds plain (lineEnds w.config.model + lineEnds w.config.apiKey + opened w.config.temperature)
        (4 * opened w.config.apiKey) := by
  obtain ⟨n, hlines⟩ := exists_lineEnds
  obtain ⟨w₀, hw₀, hconfig⟩ := Workflow.exists_plainGraph w.config.memory
  obtain ⟨b, hb, hadapter, henvironment⟩ := hlines h
  obtain ⟨plain, hplain, hadapter₀, henvironment₀⟩ := hlines hw₀
  obtain ⟨hmodel, hkey, htemperature⟩ := isOneLine_defaults
  have hopened : lineEnds w₀.config.model + lineEnds w₀.config.apiKey + opened w₀.config.temperature = 0 := by
    rw [hconfig, Text.lineEnds_eq_zero_iff.2 hmodel, Text.lineEnds_eq_zero_iff.2 hkey,
      Text.opened_of_isOneLine htemperature]
  have hopened' : opened w₀.config.apiKey = 0 := by rw [hconfig, Text.opened_of_isOneLine hkey]
  rw [hopened] at hadapter₀
  rw [hopened'] at henvironment₀
  exact ⟨b, plain, hb, hplain, ⟨n, hadapter₀, hadapter⟩, 8, henvironment₀, henvironment⟩

/-- **A bundle has the lines of a plain one, and those that the values open.**  So the files have as many lines as with
the default values and the same memory exactly if the model and the key are one line, and the temperature, but for a
carriage return at its end, which goes with the end of the line. -/
theorem sameLines_iff_values {payload : Value} {w : Workflow} (h : Workflow.ofPayload payload = .ok w) :
    ∃ b plain, ofPayload Blueprint.backend payload = .ok b ∧
      ofPayload Blueprint.backend (Workflow.plainGraph w.config.memory) = .ok plain ∧
      b.Exceeds plain (lineEnds w.config.model + lineEnds w.config.apiKey + opened w.config.temperature)
        (4 * opened w.config.apiKey) ∧
      (b.SameLines plain ↔ IsOneLine w.config.model ∧ IsOneLine w.config.apiKey ∧
        ∃ t, IsOneLine t ∧ (w.config.temperature = t ∨ w.config.temperature = t ++ "\r")) := by
  obtain ⟨b, plain, hb, hplain, hexceeds⟩ := exists_exceeds h
  refine ⟨b, plain, hb, hplain, hexceeds, ?_⟩
  rw [hexceeds.sameLines_iff, ← Text.opened_eq_zero_iff, ← Text.lineEnds_eq_zero_iff, ← Text.lineEnds_eq_zero_iff]
  constructor
  · rintro ⟨hsum, -⟩
    omega
  · rintro ⟨hmodel, hkey, htemperature⟩
    have hopened : opened w.config.apiKey = 0 := Text.opened_of_isOneLine (Text.lineEnds_eq_zero_iff.1 hkey)
    omega

/-- A graph whose model node has a key only. -/
def keyGraph (key : String) : Value :=
  .obj [("nodes", .arr [.obj [("type", .str "llm"), ("data", .obj [("apiKey", .str key)])]])]

theorem sameLines_iff_values_key : ∃ w b plain, Workflow.ofPayload (keyGraph "sk-1") = .ok w ∧
    ofPayload Blueprint.backend (keyGraph "sk-1") = .ok b ∧
    ofPayload Blueprint.backend (Workflow.plainGraph false) = .ok plain ∧ b.SameLines plain := by
  obtain ⟨b, plain, hb, hplain, -, hsame⟩ := @sameLines_iff_values (keyGraph "sk-1") _ rfl
  exact ⟨_, b, plain, rfl, hb, hplain, hsame.2 ⟨by decide, by decide, "0.7", by decide, .inl rfl⟩⟩

/-- **A key that was entered with the end of its line opens lines**, without a quote or a backslash in any value. -/
theorem not_sameLines_pastedKey : ∃ w b plain, Workflow.ofPayload (keyGraph "sk-1\n") = .ok w ∧
    (∀ value ∈ [w.config.model, w.config.apiKey, w.config.temperature], '"' ∉ value.toList ∧ '\\' ∉ value.toList) ∧
    ofPayload Blueprint.backend (keyGraph "sk-1\n") = .ok b ∧
    ofPayload Blueprint.backend (Workflow.plainGraph w.config.memory) = .ok plain ∧ ¬ b.SameLines plain := by
  obtain ⟨b, plain, hb, hplain, hexceeds⟩ := @exists_exceeds (keyGraph "sk-1\n") _ rfl
  refine ⟨_, b, plain, rfl, by decide, hb, hplain, fun hsame => ?_⟩
  obtain ⟨-, hnone⟩ := hexceeds.sameLines_iff.1 hsame
  revert hnone
  decide

end Bundle
end FlowBundle
