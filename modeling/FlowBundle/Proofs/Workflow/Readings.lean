import FlowBundle.Simulation.Summary
/-!
# Two readings of an entry

An entry is read in two ways.  Where its text is wanted, only null gives way to something else; where it is asked what
was given, everything gives way that counts as nothing.  A text and null fare alike in both.  The readings part for the
few other values that count as nothing, which have a text all the same: `false`, a zero, and a list or an object with
nothing in it (`givenText_eq_plainText_iff`).

The first message and the key of the model are read both ways.  So the answer of a summary is to the first message that
the summary lists, and the key counts as provided exactly when it is the node's own, if and only if no such value stands
there (`messagesAgree_keysAgree_iff`).
-/
namespace FlowBundle

open Json (Value)

namespace Json.Value

/-- **A value that counts as nothing and has a text**, being neither null nor a text. -/
inductive IsHollow : Value → Prop where
  | no : IsHollow (.bool false)
  | zero : IsHollow (.int 0)
  | floatZero {x : Binary64} (h : x.isZero = true) : IsHollow (.float x)
  | noItems : IsHollow (.arr [])
  | noMembers : IsHollow (.obj [])

/-- What a hollow value may read as. -/
def hollowTexts : List String := ["False", "0", "0.0", "-0.0", "[]", "\x7b\x7d"]

theorem IsHollow.ne_null {v : Value} (h : v.IsHollow) : v ≠ .null := by
  rintro rfl
  cases h

theorem isHollow_iff {v : Value} : v.IsHollow ↔ v.isGiven = false ∧ v ≠ .null ∧ ∀ s, v ≠ .str s := by
  constructor
  · intro h
    cases h with
    | floatZero h => simp [isGiven, h]
    | no | zero | noItems | noMembers => simp [isGiven]
  · rintro ⟨hgiven, hnull, hstr⟩
    cases v with
    | null => exact absurd rfl hnull
    | str s => exact absurd rfl (hstr s)
    | bool b =>
      cases b with
      | false => exact .no
      | true => cases hgiven
    | int n =>
      have hn : n = 0 := by simpa [isGiven] using hgiven
      exact hn ▸ .zero
    | float x => exact .floatZero (by simpa [isGiven] using hgiven)
    | arr items =>
      have hitems : items = [] := by simpa [isGiven] using hgiven
      exact hitems ▸ .noItems
    | obj members =>
      have hmembers : members = [] := by simpa [isGiven] using hgiven
      exact hmembers ▸ .noMembers

theorem text_of_isZero {x : Binary64} (h : x.isZero = true) :
    String.ofList (x.text plainSpelling) = "0.0" ∨ String.ofList (x.text plainSpelling) = "-0.0" := by
  cases x with
  | nan => cases h
  | infinite negative => cases h
  | finite negative s e hcanonical =>
    have hs : s = 0 := by simpa [Binary64.isZero] using h
    subst hs
    cases negative with
    | false => exact .inl rfl
    | true => exact .inr rfl

theorem IsHollow.plainText_mem {v : Value} (h : v.IsHollow) : v.plainText ∈ hollowTexts := by
  cases h with
  | no | zero | noItems | noMembers => decide
  | @floatZero x h =>
    have hplain : (Value.float x).plainText = String.ofList (x.text plainSpelling) := rfl
    rw [hplain]
    rcases text_of_isZero h with htext | htext
    · rw [htext]
      decide
    · rw [htext]
      decide

theorem hollowTexts_not_blank : ∀ s ∈ hollowTexts, Text.allBlank s = false := by decide

theorem IsHollow.not_blank {v : Value} (h : v.IsHollow) : Text.allBlank v.plainText = false :=
  hollowTexts_not_blank _ h.plainText_mem

theorem IsHollow.plainText_ne {v : Value} (h : v.IsHollow) : v.plainText ≠ "" := fun heq => by
  have hblank := h.not_blank
  rw [heq] at hblank
  cases hblank

theorem IsHollow.givenText_eq {v : Value} (h : v.IsHollow) : v.givenText = "" := by
  rw [givenText, (isHollow_iff.1 h).1]
  rfl

theorem givenText_of_not_isHollow {v : Value} (h : ¬ v.IsHollow) (hnull : v ≠ .null) : v.givenText = v.plainText := by
  rw [givenText]
  cases hgiven : v.isGiven with
  | true => rfl
  | false =>
    -- What counts as nothing, and is neither null nor hollow, is the empty text.
    by_cases hstr : ∃ s, v = .str s
    · obtain ⟨s, rfl⟩ := hstr
      have hempty : s = "" := by simpa [isGiven] using hgiven
      rw [hempty]
      rfl
    · exact absurd (isHollow_iff.2 ⟨hgiven, hnull, fun s hs => hstr ⟨s, hs⟩⟩) h

/-- **The readings part for null and for hollow values alone.** -/
theorem givenText_eq_plainText_iff {v : Value} : v.givenText = v.plainText ↔ v ≠ .null ∧ ¬ v.IsHollow := by
  constructor
  · intro h
    refine ⟨?_, fun hhollow => hhollow.plainText_ne (h.symm.trans hhollow.givenText_eq)⟩
    rintro rfl
    exact absurd h (by decide)
  · rintro ⟨hnull, hhollow⟩
    exact givenText_of_not_isHollow hhollow hnull

end Json.Value

/-! ## The first message -/

namespace Workflow

/-- What the first chat input has for a message. -/
def firstMessage? (w : Workflow) : Option Value := (w.firstNode? chatInputType).bind Config.messageOf

/-- **The first message is the first of the messages**, if there is one. -/
def MessagesAgree (w : Workflow) : Prop :=
  ∀ first, w.config.firstMessage = some first → w.config.messages.head? = some first

theorem firstMessage_config (w : Workflow) :
    w.config.firstMessage = Config.firstMessageOf (w.nodesOfType chatInputType) := by
  rw [config]
  cases w.firstNode? modelType <;> rfl

theorem messages_config (w : Workflow) :
    w.config.messages = (w.nodesOfType chatInputType).map fun n => Config.givenText (Config.messageOf n) := by
  rw [config]
  cases w.firstNode? modelType <;> rfl

/-- **A first message is set if the first chat input has a message that is not null**, and it is the text of that. -/
theorem firstMessage_eq_some_iff {w : Workflow} {first : String} :
    w.config.firstMessage = some first ↔ ∃ v, w.firstMessage? = some v ∧ v ≠ .null ∧ first = v.plainText := by
  rw [firstMessage_config, firstMessage?, firstNode?]
  cases w.nodesOfType chatInputType with
  | nil => simp [Config.firstMessageOf]
  | cons n inputs =>
    rw [Config.firstMessageOf, List.head?_cons, Option.bind_some]
    cases hmessage : Config.messageOf n with
    | none => simp
    | some v =>
      cases v with
      | null => simp
      | bool | int | float | str | arr | obj => simp [eq_comm]

theorem head?_messages {w : Workflow} {v : Value} (h : w.firstMessage? = some v) :
    w.config.messages.head? = some v.givenText := by
  obtain ⟨n, hn, hv⟩ := Option.bind_eq_some_iff.1 h
  rw [firstNode?] at hn
  rw [messages_config, List.head?_map, hn, Option.map_some, hv]
  rfl

/-- **A first message that is hollow is read as its text, and listed as an empty one.** -/
theorem firstMessage_of_isHollow {w : Workflow} {v : Value} (h : w.firstMessage? = some v) (hhollow : v.IsHollow) :
    w.config.firstMessage = some v.plainText ∧ w.config.messages.head? = some "" := by
  refine ⟨firstMessage_eq_some_iff.2 ⟨v, h, hhollow.ne_null, rfl⟩, ?_⟩
  rw [head?_messages h, hhollow.givenText_eq]

theorem messagesAgree_iff {w : Workflow} : w.MessagesAgree ↔ ∀ v, w.firstMessage? = some v → ¬ v.IsHollow := by
  constructor
  · intro h v hv hhollow
    obtain ⟨hfirst, hhead⟩ := firstMessage_of_isHollow hv hhollow
    have heq := h _ hfirst
    rw [hhead] at heq
    exact hhollow.plainText_ne (Option.some.inj heq).symm
  · intro h first hfirst
    obtain ⟨v, hv, hnull, rfl⟩ := firstMessage_eq_some_iff.1 hfirst
    rw [head?_messages hv, Value.givenText_of_not_isHollow (h v hv) hnull]

end Workflow

/-! ## The key -/

/-- **A text is the node's own** if the node has an entry with this text, which is neither null nor blank. -/
def Node.HasOwn (n : Node) (key text : String) : Prop :=
  ∃ v, n.entry? key = some v ∧ v ≠ .null ∧ Text.allBlank v.plainText = false ∧ text = v.plainText

namespace Config

/-- The text of an entry that is neither null nor blank stands against any default. -/
theorem textOr_of_not_blank {default : String} {v : Value} (hnull : v ≠ .null)
    (hblank : Text.allBlank v.plainText = false) : textOr default (some v) = v.plainText := by
  cases v with
  | null => exact absurd rfl hnull
  | bool | int | float | str | arr | obj => rw [textOr, if_neg (by rw [hblank]; exact Bool.false_ne_true)]; nofun

/-- An entry that is absent, null or blank gives way to any default. -/
theorem textOr_eq_default {entry : Option Value}
    (h : ∀ v, entry = some v → v ≠ .null → Text.allBlank v.plainText = true) (default : String) :
    textOr default entry = default := by
  cases entry with
  | none => rfl
  | some v =>
    cases v with
    | null => rfl
    | bool | int | float | str | arr | obj =>
      rw [textOr, if_pos (h _ rfl (by nofun))]
      nofun

/-- **A text is the node's own exactly when it is read whatever the default.** -/
theorem hasOwn_iff_forall_textOr {n : Node} {key text : String} :
    n.HasOwn key text ↔ ∀ default, textOr default (n.entry? key) = text := by
  constructor
  · rintro ⟨v, hv, hnull, hblank, rfl⟩ default
    rw [hv, textOr_of_not_blank hnull hblank]
  · intro h
    by_cases hown : ∃ v, n.entry? key = some v ∧ v ≠ .null ∧ Text.allBlank v.plainText = false
    · obtain ⟨v, hv, hnull, hblank⟩ := hown
      have htext := h ""
      rw [hv, textOr_of_not_blank hnull hblank] at htext
      exact ⟨v, hv, hnull, hblank, htext.symm⟩
    · -- Two defaults would be read as the same text.
      have hgives : ∀ v, n.entry? key = some v → v ≠ .null → Text.allBlank v.plainText = true :=
        fun v hv hnull => Bool.not_eq_false _ ▸ fun hblank => hown ⟨v, hv, hnull, hblank⟩
      have hempty := h ""
      have hother := h "0"
      rw [textOr_eq_default hgives] at hempty hother
      exact absurd (hempty.trans hother.symm) (by decide)

end Config

namespace Workflow

/-- What the first model node has for a key. -/
def apiKey? (w : Workflow) : Option Value := (w.firstNode? modelType).bind fun n => n.entry? "apiKey"

/-- **The key counts as provided exactly when it is the node's own**, if there is a model node. -/
def KeysAgree (w : Workflow) : Prop :=
  ∀ n, w.firstNode? modelType = some n → (w.config.apiKeyProvided = true ↔ n.HasOwn "apiKey" w.config.apiKey)

theorem apiKey_config {w : Workflow} {n : Node} (h : w.firstNode? modelType = some n) :
    w.config.apiKey = Config.textOr ({} : Config).apiKey (n.entry? "apiKey") := by
  rw [config, h]
  rfl

theorem hasOwn_apiKey_iff {w : Workflow} {n : Node} (h : w.firstNode? modelType = some n) :
    n.HasOwn "apiKey" w.config.apiKey ↔
      ∃ v, n.entry? "apiKey" = some v ∧ v ≠ .null ∧ Text.allBlank v.plainText = false := by
  constructor
  · rintro ⟨v, hv, hnull, hblank, -⟩
    exact ⟨v, hv, hnull, hblank⟩
  · rintro ⟨v, hv, hnull, hblank⟩
    refine ⟨v, hv, hnull, hblank, ?_⟩
    rw [apiKey_config h, hv, Config.textOr_of_not_blank hnull hblank]

/-- **A key counts as provided if its text is not blank and it counts as more than nothing.** -/
theorem apiKeyProvided_iff {w : Workflow} {n : Node} (h : w.firstNode? modelType = some n) :
    w.config.apiKeyProvided = true ↔
      ∃ v, n.entry? "apiKey" = some v ∧ v ≠ .null ∧ ¬ v.IsHollow ∧ Text.allBlank v.plainText = false := by
  have hprovided : w.config.apiKeyProvided = !Text.allBlank (Config.givenText (n.entry? "apiKey")) := by
    rw [config, h]
    rfl
  rw [hprovided, Bool.not_eq_true', Config.givenText]
  constructor
  · intro hblank
    cases hv : n.entry? "apiKey" with
    | none =>
      rw [hv] at hblank
      cases hblank
    | some v =>
      rw [hv, Option.getD_some] at hblank
      have hnull : v ≠ .null := by
        rintro rfl
        cases hblank
      have hhollow : ¬ v.IsHollow := fun hhollow => by
        rw [hhollow.givenText_eq] at hblank
        cases hblank
      rw [Value.givenText_of_not_isHollow hhollow hnull] at hblank
      exact ⟨v, rfl, hnull, hhollow, hblank⟩
  · rintro ⟨v, hv, hnull, hhollow, hblank⟩
    rw [hv, Option.getD_some, Value.givenText_of_not_isHollow hhollow hnull, hblank]

/-- **A hollow key is the node's own, and does not count as provided.** -/
theorem apiKey_of_isHollow {w : Workflow} {v : Value} (h : w.apiKey? = some v) (hhollow : v.IsHollow) :
    w.config.apiKey = v.plainText ∧ w.config.apiKeyProvided = false := by
  obtain ⟨n, hn, hv⟩ := Option.bind_eq_some_iff.1 h
  constructor
  · rw [apiKey_config hn, hv, Config.textOr_of_not_blank hhollow.ne_null hhollow.not_blank]
  · rw [← Bool.not_eq_true, apiKeyProvided_iff hn]
    rintro ⟨v', hv', -, hnot, -⟩
    rw [hv] at hv'
    cases hv'
    exact hnot hhollow

theorem keysAgree_iff {w : Workflow} : w.KeysAgree ↔ ∀ v, w.apiKey? = some v → ¬ v.IsHollow := by
  constructor
  · intro h v hv hhollow
    obtain ⟨n, hn, hentry⟩ := Option.bind_eq_some_iff.1 hv
    have hprovided := (h n hn).2 ((hasOwn_apiKey_iff hn).2 ⟨v, hentry, hhollow.ne_null, hhollow.not_blank⟩)
    rw [(apiKey_of_isHollow hv hhollow).2] at hprovided
    cases hprovided
  · intro h n hn
    rw [apiKeyProvided_iff hn, hasOwn_apiKey_iff hn]
    constructor
    · rintro ⟨v, hv, hnull, -, hblank⟩
      exact ⟨v, hv, hnull, hblank⟩
    · rintro ⟨v, hv, hnull, hblank⟩
      exact ⟨v, hv, hnull, h v (by rw [apiKey?, hn, Option.bind_some, hv]), hblank⟩

/-! ## The summary -/

/-- **The message that the summary answers is the first one it lists**, under their heading. -/
def ListsFirst (w : Workflow) : Prop :=
  ∀ first, w.config.firstMessage = some first →
    (Simulation.messageLines w.config.messages)[1]? = some (Simulation.messageLine first)

theorem hollowTexts_show : ∀ s ∈ Value.hollowTexts, Simulation.messageLine s ≠ Simulation.messageLine "" := by decide

theorem messageLines_of_head? {messages : List String} {first : String} (h : messages.head? = some first) :
    (Simulation.messageLines messages)[1]? = some (Simulation.messageLine first) := by
  cases messages with
  | nil => cases h
  | cons m rest =>
    cases h
    rfl

theorem listsFirst_iff {w : Workflow} : w.ListsFirst ↔ ∀ v, w.firstMessage? = some v → ¬ v.IsHollow := by
  constructor
  · intro h v hv hhollow
    obtain ⟨hfirst, hhead⟩ := firstMessage_of_isHollow hv hhollow
    have hline := h _ hfirst
    rw [messageLines_of_head? hhead] at hline
    exact hollowTexts_show _ hhollow.plainText_mem (Option.some.inj hline).symm
  · intro h first hfirst
    exact messageLines_of_head? (messagesAgree_iff.2 h first hfirst)

/-- **The readings of an entry agree unless it is hollow**, of the first message, of its line in the summary and of the
key.  A hollow message is answered by its text and listed as an empty one; a hollow key is used as it is, and does not
count as provided. -/
theorem messagesAgree_keysAgree_iff (w : Workflow) :
    (w.MessagesAgree ↔ ∀ v, w.firstMessage? = some v → ¬ v.IsHollow) ∧
    (w.ListsFirst ↔ ∀ v, w.firstMessage? = some v → ¬ v.IsHollow) ∧
    (w.KeysAgree ↔ ∀ v, w.apiKey? = some v → ¬ v.IsHollow) ∧
    (∀ v, w.firstMessage? = some v → v.IsHollow →
      w.config.firstMessage = some v.plainText ∧ w.config.messages.head? = some "") ∧
    ∀ v, w.apiKey? = some v → v.IsHollow → w.config.apiKey = v.plainText ∧ w.config.apiKeyProvided = false :=
  ⟨messagesAgree_iff, listsFirst_iff, keysAgree_iff, fun _ => firstMessage_of_isHollow, fun _ => apiKey_of_isHollow⟩

/-- A graph whose input says zero, and whose model has `false` for a key. -/
def hollowGraph : Value :=
  .obj [("nodes", .arr [.obj [("type", .str "chatInput"), ("data", .obj [("message", .int 0)])],
    .obj [("type", .str "llm"), ("data", .obj [("apiKey", .bool false)])]])]

theorem not_messagesAgree_hollowGraph :
    ∃ w, ofPayload hollowGraph = .ok w ∧ ¬ w.MessagesAgree ∧ ¬ w.ListsFirst ∧ ¬ w.KeysAgree :=
  ⟨_, rfl, fun h => messagesAgree_iff.1 h _ rfl .zero, fun h => listsFirst_iff.1 h _ rfl .zero,
    fun h => keysAgree_iff.1 h _ rfl .no⟩

end Workflow
end FlowBundle
