import FlowBundle.Builder.Basic
import FlowBundle.Proofs.Settings.Range
import FlowBundle.Proofs.Workflow.ReadBack
import FlowBundle.Settings.Environment
/-!
# What an environment gives

Three variables give numbers, and one that is not set gives its default.  Either there is a first text that is no number,
and that is the answer (`FirstUnread`), or the environment gives a delay and two limits (`Gives`).  Then the options have
the right kinds, so nothing but the range of the numbers is left to be wrong with them.  What comes out are settings that
the stores of a builder can be made with, without being asked again (`settings_or_first_fault`).
-/
namespace FlowBundle

open Json (Value Members)

namespace Environment

/-- What the text of a variable is read as, or the default if it is not set. -/
def read? {α : Type} (env : Environment) (name : String) (default : α) (read : String → Option α) : Option α :=
  match env.text? name with
  | none => some default
  | some text => read text

def integer? (text : String) : Option Int :=
  match NumberText.readInteger text with
  | .integer n => some n
  | _ => none

def delay? (env : Environment) : Option Binary64 :=
  env.read? "SIMULATED_DELAY_SECONDS" (Binary64.ofRatio false 3 2) NumberText.readFloat?

def historyLimit? (env : Environment) : Option Int := env.read? "HISTORY_LIMIT" 20 integer?

def maxArchives? (env : Environment) : Option Int := env.read? "MAX_ARCHIVES" 32 integer?

def origins (env : Environment) : List String := ((env.text? "CORS_ORIGINS").map originsOf).getD ["*"]

def level (env : Environment) : String :=
  ((env.text? "LOG_LEVEL").map fun text => Text.upper (Text.strip text)).getD "INFO"

/-- **The numbers that an environment gives**, each by its text or by default. -/
structure Gives (env : Environment) (delay : Binary64) (history archives : Int) : Prop where
  delay_eq : env.delay? = some delay
  history_eq : env.historyLimit? = some history
  archives_eq : env.maxArchives? = some archives

/-- A text that is no integer, or one with too many digits. -/
inductive NotInteger (text : String) : Fault → Prop where
  | unreadable (h : NumberText.readInteger text = .unreadable) : NotInteger text (.noInteger text)
  | tooLong {digits : Nat} (h : NumberText.readInteger text = .tooLong digits) : NotInteger text (.longInteger digits)

/-- **The first text that is no number**: the delay comes before the history, and both before the archives. -/
inductive FirstUnread (env : Environment) : Fault → Prop where
  | delay {text : String} (h : env.text? "SIMULATED_DELAY_SECONDS" = some text)
      (hread : NumberText.readFloat? text = none) : FirstUnread env (.noNumber text)
  | history {delay : Binary64} {text : String} {fault : Fault} (hdelay : env.delay? = some delay)
      (h : env.text? "HISTORY_LIMIT" = some text) (hread : NotInteger text fault) : FirstUnread env fault
  | archives {delay : Binary64} {history : Int} {text : String} {fault : Fault} (hdelay : env.delay? = some delay)
      (hhistory : env.historyLimit? = some history) (h : env.text? "MAX_ARCHIVES" = some text)
      (hread : NotInteger text fault) : FirstUnread env fault

/-! ## One variable -/

theorem read?_eq_none_iff {α : Type} {env : Environment} {name : String} {default : α} {read : String → Option α} :
    env.read? name default read = none ↔ ∃ text, env.text? name = some text ∧ read text = none := by
  unfold read?
  cases env.text? name <;> simp

theorem integer?_eq_none_iff {text : String} : integer? text = none ↔ ∃ fault, NotInteger text fault := by
  unfold integer?
  constructor
  · intro h
    cases hread : NumberText.readInteger text with
    | integer n => simp [hread] at h
    | tooLong digits => exact ⟨_, .tooLong hread⟩
    | unreadable => exact ⟨_, .unreadable hread⟩
  · rintro ⟨fault, h⟩
    cases h <;> simp [*]

theorem exists_notInteger {env : Environment} {name : String} {default : Int}
    (h : env.read? name default integer? = none) : ∃ text fault, env.text? name = some text ∧ NotInteger text fault := by
  obtain ⟨text, htext, hread⟩ := read?_eq_none_iff.1 h
  obtain ⟨fault, hfault⟩ := integer?_eq_none_iff.1 hread
  exact ⟨text, fault, htext, hfault⟩

/-- **An environment has a first text that is no number, or gives three numbers.** -/
theorem unread_or_gives (env : Environment) :
    (∃ fault, env.FirstUnread fault) ∨ ∃ delay history archives, env.Gives delay history archives := by
  cases hdelay : env.delay? with
  | none =>
    obtain ⟨text, htext, hread⟩ := read?_eq_none_iff.1 hdelay
    exact .inl ⟨_, .delay htext hread⟩
  | some delay =>
    cases hhistory : env.historyLimit? with
    | none =>
      obtain ⟨text, fault, htext, hfault⟩ := exists_notInteger hhistory
      exact .inl ⟨fault, .history hdelay htext hfault⟩
    | some history =>
      cases harchives : env.maxArchives? with
      | none =>
        obtain ⟨text, fault, htext, hfault⟩ := exists_notInteger harchives
        exact .inl ⟨fault, .archives hdelay hhistory htext hfault⟩
      | some archives => exact .inr ⟨delay, history, archives, hdelay, hhistory, harchives⟩

section
variable {env : Environment} {name : String} (key : String) {read : String → Except Fault Value}

/-- **What is read is received as an option**, or left out for its default. -/
theorem given_of_read {α : Type} {default x : α} {value? : String → Option α} (form : α → Value)
    (hread : ∀ text y, value? text = some y → read text = .ok (form y)) (h : env.read? name default value? = some x) :
    ∃ o : Option Value, env.given name key read = .ok (received key o) ∧ o.getD (form default) = form x := by
  unfold read? at h
  unfold given
  cases htext : env.text? name with
  | none =>
    rw [htext] at h
    exact ⟨none, rfl, congrArg form (Option.some.inj h)⟩
  | some text =>
    rw [htext] at h
    refine ⟨some (form x), ?_, rfl⟩
    simp [hread text x h, received, Except.map]

theorem given_of_text {text : String} {fault : Fault} (htext : env.text? name = some text)
    (hread : read text = .error fault) : env.given name key read = .error fault := by
  simp [given, htext, hread, Except.map]

end

theorem readNumber_of_readFloat? {text : String} {x : Binary64} (h : NumberText.readFloat? text = some x) :
    readNumber text = .ok (.float x) := by
  simp [readNumber, h]

theorem readInteger_of_integer? {text : String} {n : Int} (h : integer? text = some n) :
    readInteger text = .ok (.int n) := by
  unfold integer? at h
  unfold readInteger
  cases hread : NumberText.readInteger text <;> simp_all

theorem readInteger_of_notInteger {text : String} {fault : Fault} (h : NotInteger text fault) :
    readInteger text = .error fault := by
  cases h <;> simp [readInteger, *]

/-! ## All variables -/

theorem given_delay {env : Environment} {delay : Binary64} (h : env.delay? = some delay) :
    ∃ o : Option Value, env.given "SIMULATED_DELAY_SECONDS" "simulated_delay_seconds" readNumber =
      .ok (received "simulated_delay_seconds" o) ∧ o.getD (.float (Binary64.ofRatio false 3 2)) = .float delay :=
  given_of_read _ Value.float (fun _ _ => readNumber_of_readFloat?) h

theorem given_history {env : Environment} {history : Int} (h : env.historyLimit? = some history) :
    ∃ o : Option Value, env.given "HISTORY_LIMIT" "history_limit" readInteger = .ok (received "history_limit" o) ∧
      o.getD (.int 20) = .int history :=
  given_of_read _ Value.int (fun _ _ => readInteger_of_integer?) h

theorem given_archives {env : Environment} {archives : Int} (h : env.maxArchives? = some archives) :
    ∃ o : Option Value, env.given "MAX_ARCHIVES" "max_archives" readInteger = .ok (received "max_archives" o) ∧
      o.getD (.int 32) = .int archives :=
  given_of_read _ Value.int (fun _ _ => readInteger_of_integer?) h

theorem given_origins (env : Environment) :
    ∃ o : Option Value, env.given "CORS_ORIGINS" "cors_origins" (fun text => .ok (.arr ((originsOf text).map .str))) =
      .ok (received "cors_origins" o) ∧ o.getD (.arr [.str "*"]) = .arr (env.origins.map .str) := by
  unfold given origins
  cases env.text? "CORS_ORIGINS" with
  | none => exact ⟨none, rfl, rfl⟩
  | some text => exact ⟨some _, rfl, rfl⟩

theorem given_level (env : Environment) :
    ∃ o : Option Value, env.given "LOG_LEVEL" "log_level" (fun text => .ok (.str (Text.upper (Text.strip text)))) =
      .ok (received "log_level" o) ∧ o.getD (.str "INFO") = .str env.level := by
  unfold given level
  cases env.text? "LOG_LEVEL" with
  | none => exact ⟨none, rfl, rfl⟩
  | some text => exact ⟨some _, rfl, rfl⟩

/-- Options that were received one after the other give what each of them gives. -/
theorem gives_of_received {d n m os l : Option Value} {delay : Binary64} {history archives : Int} {origins : List String}
    {level : String} (hdelay : d.getD (.float (Binary64.ofRatio false 3 2)) = .float delay)
    (hhistory : n.getD (.int 20) = .int history) (harchives : m.getD (.int 32) = .int archives)
    (horigins : os.getD (.arr [.str "*"]) = .arr (origins.map .str)) (hlevel : l.getD (.str "INFO") = .str level) :
    Settings.Gives (received "simulated_delay_seconds" d ++ (received "history_limit" n ++ (received "max_archives" m ++
      (received "cors_origins" os ++ (received "log_level" l ++ []))))) delay history archives origins level
      defaultFilename := by
  have hempty : ∀ key, Members.get? ([] : Members) key = none := fun _ => rfl
  constructor <;> unfold Settings.optionValue <;>
    simp only [get?_received_self, get?_received_of_ne, hempty, ne_eq, String.reduceEq, not_false_eq_true]
  · exact hdelay
  · exact hhistory
  · exact harchives
  · exact horigins
  · exact hlevel
  · rfl

/-- **The options of an environment have the right kinds.** -/
theorem Gives.exists_options {env : Environment} {delay : Binary64} {history archives : Int}
    (h : env.Gives delay history archives) :
    ∃ options, env.options = .ok options ∧
      Settings.Gives options delay history archives env.origins env.level defaultFilename := by
  obtain ⟨d, hd, hdelay⟩ := given_delay h.delay_eq
  obtain ⟨n, hn, hhistory⟩ := given_history h.history_eq
  obtain ⟨m, hm, harchives⟩ := given_archives h.archives_eq
  obtain ⟨os, hos, horigins⟩ := given_origins env
  obtain ⟨l, hl, hlevel⟩ := given_level env
  refine ⟨_, ?_, gives_of_received hdelay hhistory harchives horigins hlevel⟩
  simp [options, hd, hn, hm, hos, hl, bind, Except.bind, pure, Except.pure]

/-! ## Settings -/

theorem FirstUnread.settings_eq {env : Environment} {fault : Fault} (h : env.FirstUnread fault) :
    env.settings = .error fault := by
  unfold settings options
  cases h with
  | @delay text htext hread =>
    have hno : readNumber text = .error (.noNumber text) := by simp [readNumber, hread]
    have hd := given_of_text "simulated_delay_seconds" htext hno
    simp [hd, bind, Except.bind]
  | history hdelay htext hread =>
    obtain ⟨d, hd, -⟩ := given_delay hdelay
    have hn := given_of_text "history_limit" htext (readInteger_of_notInteger hread)
    simp [hd, hn, bind, Except.bind]
  | archives hdelay hhistory htext hread =>
    obtain ⟨d, hd, -⟩ := given_delay hdelay
    obtain ⟨n, hn, -⟩ := given_history hhistory
    have hm := given_of_text "max_archives" htext (readInteger_of_notInteger hread)
    simp [hd, hn, hm, bind, Except.bind]

/-- **An environment that gives numbers stands for settings with them**, or the full report says why not. -/
theorem Gives.reported_or_has {env : Environment} {delay : Binary64} {history archives : Int}
    (h : env.Gives delay history archives) :
    (∃ vs, vs ≠ [] ∧ Settings.FullReport delay history archives vs ∧ env.settings = .error (.invalid vs)) ∨
    ∃ s, env.settings = .ok s ∧ s.Has delay history archives env.origins env.level defaultFilename := by
  obtain ⟨options, hoptions, hgives⟩ := h.exists_options
  unfold settings
  rw [hoptions]
  rcases hgives.reported_or_has with ⟨vs, hne, hfull, heq⟩ | ⟨s, heq, hhas⟩
  · exact .inl ⟨vs, hne, hfull, by simp [heq, Except.mapError]⟩
  · exact .inr ⟨s, by simp [heq, Except.mapError], hhas⟩

/-- The defaults are within their ranges. -/
theorem exists_settings_nil : ∃ s, settings [] = .ok s := by
  have hdelay : ∃ q, (Binary64.ofRatio false 3 2).value? = some q ∧ 0 ≤ q ∧ q ≤ 30 :=
    Binary64.within_iff.1 ⟨Binary64.isNonneg_iff.1 (by decide +kernel), Binary64.isAtMost_iff.1 (by decide +kernel)⟩
  have hgives : Gives [] (Binary64.ofRatio false 3 2) 20 32 := ⟨rfl, rfl, rfl⟩
  rcases hgives.reported_or_has with ⟨vs, hne, hfull, -⟩ | ⟨s, hs, -⟩
  · exact absurd (hfull.eq_nil_iff.2 ⟨hdelay, by decide, by decide⟩) hne
  · exact ⟨s, hs⟩

/-- **The stores of a builder are made with the limits of its settings**, and none of them refuses. -/
theorem stores_ofSettings (s : Settings) :
    Chat.Histories.ofLimit s.historyLimit = .ok (Builder.ofSettings s).histories ∧
    Shelf.ofCapacity s.maxArchives s.filename = .ok (Builder.ofSettings s).shelf := by
  have htwo : (2 : Int) ≤ s.historyLimit := Int.ofNat_le.2 s.two_le_historyLimit
  have hone : (1 : Int) ≤ s.maxArchives := Int.ofNat_le.2 s.one_le_maxArchives
  constructor
  · simp [Chat.Histories.ofLimit, TooSmall.check, htwo, Builder.ofSettings, Except.map]
  · simp [Shelf.ofCapacity, TooSmall.check, hone, Builder.ofSettings, Except.map]

/-- **What an environment comes to.**  The first text that is no number is the answer.  If there is none, the environment
gives three numbers, and the answer is the full report of those out of range or, if they are all within, settings that
have them.  Whatever settings there are, from an environment or from options, the stores of a builder take their limits. -/
theorem settings_or_first_fault (env : Environment) :
    ((∃ fault, env.FirstUnread fault) ∨ ∃ delay history archives, env.Gives delay history archives) ∧
    (∀ fault, env.FirstUnread fault → env.settings = .error fault) ∧
    (∀ delay history archives, env.Gives delay history archives →
      (∃ vs, vs ≠ [] ∧ Settings.FullReport delay history archives vs ∧ env.settings = .error (.invalid vs)) ∨
      ∃ s, env.settings = .ok s ∧
        s.delay = delay ∧ (s.historyLimit : Int) = history ∧ (s.maxArchives : Int) = archives ∧
        (∃ q, s.delay.value? = some q ∧ 0 ≤ q ∧ q ≤ 30) ∧ 2 ≤ s.historyLimit ∧ 1 ≤ s.maxArchives) ∧
    ∀ s : Settings,
      Chat.Histories.ofLimit s.historyLimit = .ok (Builder.ofSettings s).histories ∧
      Shelf.ofCapacity s.maxArchives s.filename = .ok (Builder.ofSettings s).shelf ∧
      (Builder.ofSettings s).histories.limit = s.historyLimit ∧ (Builder.ofSettings s).shelf.capacity = s.maxArchives := by
  refine ⟨unread_or_gives env, fun fault h => h.settings_eq, fun delay history archives h => ?_, fun s => ?_⟩
  · rcases h.reported_or_has with hreported | ⟨s, hs, hhas⟩
    · exact .inl hreported
    · exact .inr ⟨s, hs, hhas.delay_eq, hhas.history_eq, hhas.archives_eq, s.within, s.two_le_historyLimit,
        s.one_le_maxArchives⟩
  · obtain ⟨hhistories, hshelf⟩ := stores_ofSettings s
    exact ⟨hhistories, hshelf, rfl, rfl⟩

/-- A delay that is no number, a limit in groups of digits, and one that is too small. -/
def oddNumbers : Environment :=
  [("AWB_SIMULATED_DELAY_SECONDS", "nan"), ("AWB_HISTORY_LIMIT", " 1_0 "), ("AWB_MAX_ARCHIVES", "0")]

/-- A limit that is no integer, before one that is none either. -/
def oddTexts : Environment :=
  [("AWB_MAX_ARCHIVES", "many"), ("AWB_HISTORY_LIMIT", "2.5"), ("AWB_SIMULATED_DELAY_SECONDS", "")]

theorem settings_or_first_fault_odd :
    (∃ vs, vs ≠ [] ∧ Settings.FullReport .nan 10 0 vs ∧ oddNumbers.settings = .error (.invalid vs)) ∧
    oddTexts.settings = .error (.noInteger "2.5") := by
  obtain ⟨-, -, hnumbers, -⟩ := settings_or_first_fault oddNumbers
  obtain ⟨-, htexts, -⟩ := settings_or_first_fault oddTexts
  have hgives : oddNumbers.Gives .nan 10 0 := ⟨by rfl, by rfl, by rfl⟩
  have hdelay : oddTexts.delay? = some (Binary64.ofRatio false 3 2) := by rfl
  have hfirst : oddTexts.FirstUnread (.noInteger "2.5") := .history hdelay (by rfl) (.unreadable (by rfl))
  refine ⟨?_, htexts _ hfirst⟩
  rcases hnumbers .nan 10 0 hgives with hreported | ⟨s, -, hdelay, -, -, ⟨q, hq, -⟩, -⟩
  · exact hreported
  · rw [hdelay] at hq
    cases hq

end Environment
end FlowBundle
