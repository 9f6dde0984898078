import FlowBundle.Proofs.Binary64.Order
import FlowBundle.Proofs.Violation
import FlowBundle.Settings.Options
/-!
# Numbers out of range

Options whose kinds are right can still be out of range, and that is all that can be wrong with them.  What is out of
range is a relation between the three numbers and violations (`OutOfRange`).  The options stand for settings that have
their values if there is no such violation, and otherwise all of them are reported, one for a field at most, in the order
of the fields (`Gives.reported_or_has`).
-/
namespace FlowBundle

open Json (Value Members)

namespace Settings

/-- **What is out of range**: a delay is no greater than thirty and no less than zero, and the limits are large enough
for the stores.  What is no number is not within any bounds. -/
inductive OutOfRange (delay : Binary64) (history archives : Int) : Violation → Prop where
  | above (h : ¬ delay.AtMost 30) :
      OutOfRange delay history archives ⟨["simulated_delay_seconds"], .atMost 30, .float delay⟩
  | below (hle : delay.AtMost 30) (h : ¬ delay.AtLeast 0) :
      OutOfRange delay history archives ⟨["simulated_delay_seconds"], .atLeast 0, .float delay⟩
  | history (h : history < 2) : OutOfRange delay history archives ⟨["history_limit"], .atLeast 2, .int history⟩
  | archives (h : archives < 1) : OutOfRange delay history archives ⟨["max_archives"], .atLeast 1, .int archives⟩

/-- **A full report**: each violation and nothing else, in the order of the fields. -/
structure FullReport (delay : Binary64) (history archives : Int) (vs : List Violation) : Prop where
  mem_iff : ∀ v, v ∈ vs ↔ OutOfRange delay history archives v
  ordered : (vs.map (·.place)).Sublist [["simulated_delay_seconds"], ["history_limit"], ["max_archives"]]

theorem FullReport.eq_nil_iff {delay : Binary64} {history archives : Int} {vs : List Violation}
    (h : FullReport delay history archives vs) :
    vs = [] ↔ (∃ q, delay.value? = some q ∧ 0 ≤ q ∧ q ≤ 30) ∧ 2 ≤ history ∧ 1 ≤ archives := by
  rw [← Binary64.within_iff, List.eq_nil_iff_forall_not_mem]
  constructor
  · intro hnone
    have hright : ∀ v, ¬ OutOfRange delay history archives v := fun v hv => hnone v ((h.mem_iff v).2 hv)
    have hle : delay.AtMost 30 := Classical.not_not.1 fun hnot => hright _ (.above hnot)
    have hge : delay.AtLeast 0 := Classical.not_not.1 fun hnot => hright _ (.below hle hnot)
    exact ⟨⟨hge, hle⟩, Int.not_lt.1 fun hlt => hright _ (.history hlt), Int.not_lt.1 fun hlt => hright _ (.archives hlt)⟩
  · rintro ⟨⟨hge, hle⟩, hhistory, harchives⟩ v hv
    cases (h.mem_iff v).1 hv with
    | above hnot => exact hnot hle
    | below _ hnot => exact hnot hge
    | history hlt => omega
    | archives hlt => omega

/-! ## One option -/

/-- **A delay passes, or is too large, or is too small.** -/
theorem delayOf_cases (place : List String) (x : Binary64) :
    (x.AtMost 30 ∧ x.AtLeast 0 ∧ ∃ y, y.1 = x ∧ Setting.delayOf place (.float x) = .ok y) ∨
    (¬ x.AtMost 30 ∧ Setting.delayOf place (.float x) = .error [⟨place, .atMost 30, .float x⟩]) ∨
    (x.AtMost 30 ∧ ¬ x.AtLeast 0 ∧ Setting.delayOf place (.float x) = .error [⟨place, .atLeast 0, .float x⟩]) := by
  have hthirty : x.isAtMost 30 = true ↔ x.AtMost 30 := Binary64.isAtMost_iff
  unfold Setting.delayOf Setting.numberOf
  rw [← hthirty, ← Binary64.isNonneg_iff]
  by_cases hle : x.isAtMost 30 = true
  · by_cases hge : x.isNonneg = true <;> simp [hle, hge]
  · simp [hle]

/-- **A limit passes, or is too small.** -/
theorem atLeast_cases (least : Nat) (place : List String) (n : Int) :
    (least ≤ n ∧ ∃ m, (m.1 : Int) = n ∧ Setting.atLeast least place (.int n) = .ok m) ∨
    (n < least ∧ Setting.atLeast least place (.int n) = .error [⟨place, .atLeast least, .int n⟩]) := by
  unfold Setting.atLeast Setting.integerOf
  by_cases h : (least : Int) ≤ n
  · simp [h, Int.le_trans (Int.natCast_nonneg least) h]
  · simp [h, Int.not_le.1 h]

section
variable {place : List String} {v : Violation}

theorem mem_violations_delayOf {x : Binary64} :
    v ∈ (Setting.delayOf place (.float x)).violations ↔
      ¬ x.AtMost 30 ∧ v = ⟨place, .atMost 30, .float x⟩ ∨
      x.AtMost 30 ∧ ¬ x.AtLeast 0 ∧ v = ⟨place, .atLeast 0, .float x⟩ := by
  rcases delayOf_cases place x with ⟨hle, hge, y, -, heq⟩ | ⟨hnot, heq⟩ | ⟨hle, hnot, heq⟩ <;>
    simp [Checked.violations, *]

theorem mem_violations_atLeast {least : Nat} {n : Int} :
    v ∈ (Setting.atLeast least place (.int n)).violations ↔ n < least ∧ v = ⟨place, .atLeast least, .int n⟩ := by
  rcases atLeast_cases least place n with ⟨hle, m, -, heq⟩ | ⟨hlt, heq⟩
  · simp [Checked.violations, heq, Int.not_lt.2 hle]
  · simp [Checked.violations, heq, hlt]

end

theorem places_delayOf (place : List String) (x : Binary64) :
    ((Setting.delayOf place (.float x)).violations.map (·.place)).Sublist [place] := by
  rcases delayOf_cases place x with ⟨-, -, y, -, heq⟩ | ⟨-, heq⟩ | ⟨-, -, heq⟩ <;> simp [Checked.violations, heq]

theorem places_atLeast (least : Nat) (place : List String) (n : Int) :
    ((Setting.atLeast least place (.int n)).violations.map (·.place)).Sublist [place] := by
  rcases atLeast_cases least place n with ⟨-, m, -, heq⟩ | ⟨-, heq⟩ <;> simp [Checked.violations, heq]

theorem explains_delayOf (place : List String) (x : Binary64) : (Setting.delayOf place (.float x)).Explains := by
  rcases delayOf_cases place x with ⟨-, -, y, -, heq⟩ | ⟨-, heq⟩ | ⟨-, -, heq⟩ <;> simp [Checked.Explains, heq]

theorem explains_atLeast (least : Nat) (place : List String) (n : Int) :
    (Setting.atLeast least place (.int n)).Explains := by
  rcases atLeast_cases least place n with ⟨-, m, -, heq⟩ | ⟨-, heq⟩ <;> simp [Checked.Explains, heq]

theorem delayOf_eq_ok {place : List String} {x : Binary64} {y : { x : Binary64 // x.isNonneg = true ∧ x.isAtMost 30 = true }}
    (h : Setting.delayOf place (.float x) = .ok y) : y.1 = x := by
  rcases delayOf_cases place x with ⟨-, -, z, hz, heq⟩ | ⟨-, heq⟩ | ⟨-, -, heq⟩ <;> rw [heq] at h <;> cases h
  exact hz

theorem atLeast_eq_ok {least : Nat} {place : List String} {n : Int} {m : { n : Nat // least ≤ n }}
    (h : Setting.atLeast least place (.int n) = .ok m) : (m.1 : Int) = n := by
  rcases atLeast_cases least place n with ⟨-, k, hk, heq⟩ | ⟨-, heq⟩ <;> rw [heq] at h <;> cases h
  exact hk

theorem textsOf_texts (place : List String) (texts : List String) :
    Setting.textsOf place (.arr (texts.map .str)) = .ok texts :=
  Checked.all_map 0 texts fun _ _ _ => rfl

/-! ## All options -/

/-- The value of an option, or its default. -/
def optionValue (options : Members) (key : String) : Value :=
  (options.get? key).getD ((defaults.get? key).getD .null)

/-- **Options of the right kinds**, given or by default. -/
structure Gives (options : Members) (delay : Binary64) (history archives : Int) (origins : List String)
    (level filename : String) : Prop where
  delay_eq : optionValue options "simulated_delay_seconds" = .float delay
  history_eq : optionValue options "history_limit" = .int history
  archives_eq : optionValue options "max_archives" = .int archives
  origins_eq : optionValue options "cors_origins" = .arr (origins.map .str)
  level_eq : optionValue options "log_level" = .str level
  filename_eq : optionValue options "archive_filename" = .str filename

/-- The delay of settings is a number within its range. -/
theorem within (s : Settings) : ∃ q, s.delay.value? = some q ∧ 0 ≤ q ∧ q ≤ 30 :=
  Binary64.within_iff.1 ⟨Binary64.isNonneg_iff.1 s.delay_nonneg, Binary64.isAtMost_iff.1 s.delay_le⟩

/-- **Settings with these values.** -/
structure Has (s : Settings) (delay : Binary64) (history archives : Int) (origins : List String)
    (level filename : String) : Prop where
  delay_eq : s.delay = delay
  history_eq : (s.historyLimit : Int) = history
  archives_eq : (s.maxArchives : Int) = archives
  origins_eq : s.origins = origins
  level_eq : s.logLevel = level
  filename_eq : s.filename = filename

section
variable {s : Settings} {delay : Binary64} {history archives : Int} {origins : List String} {level filename : String}
  (h : s.Has delay history archives origins level filename)
include h

theorem Has.eq_nil_of_fullReport {vs : List Violation} (hfull : FullReport delay history archives vs) : vs = [] := by
  obtain ⟨rfl, rfl, rfl, -, -, -⟩ := h
  refine hfull.eq_nil_iff.2 ⟨s.within, ?_, ?_⟩
  · exact Int.ofNat_le.2 s.two_le_historyLimit
  · exact Int.ofNat_le.2 s.one_le_maxArchives

theorem Has.eq_of_has {s' : Settings} {origins' : List String}
    (h' : s'.Has delay history archives origins' level filename) : s' = { s with origins := origins' } := by
  obtain ⟨hdelay, hhistory, harchives, -, hlevel, hfilename⟩ := h
  obtain ⟨hdelay', hhistory', harchives', horigins', hlevel', hfilename'⟩ := h'
  have hlimit : s'.historyLimit = s.historyLimit := Int.ofNat_inj.1 (hhistory'.trans hhistory.symm)
  have hmost : s'.maxArchives = s.maxArchives := Int.ofNat_inj.1 (harchives'.trans harchives.symm)
  cases s
  cases s'
  simp_all

end

/-- Numbers within their ranges, and the texts. -/
abbrev Passed : Type :=
  { x : Binary64 // x.isNonneg = true ∧ x.isAtMost 30 = true } × { n : Nat // 2 ≤ n } × { n : Nat // 1 ≤ n } ×
    List String × String × String

def ofPassed : Passed → Settings
  | (⟨delay, hnonneg, hle⟩, ⟨history, htwo⟩, ⟨archives, hone⟩, origins, level, filename) =>
    { delay := delay, historyLimit := history, maxArchives := archives, origins := origins
      logLevel := level, filename := filename, delay_nonneg := hnonneg, delay_le := hle
      two_le_historyLimit := htwo, one_le_maxArchives := hone }

theorem option_eq {α : Type} (check : List String → Value → Checked α) {options : Members} {key : String} {v : Value}
    (h : optionValue options key = v) : option check options key = check [key] v := by
  subst h
  rfl

section
variable {options : Members} {delay : Binary64} {history archives : Int} {origins : List String}
  {level filename : String} (h : Gives options delay history archives origins level filename)
include h

/-- Of such options, only the numbers can be refused. -/
theorem Gives.ofOptions_eq : ofOptions options =
    (Checked.both (Setting.delayOf ["simulated_delay_seconds"] (.float delay))
      (Checked.both (Setting.atLeast 2 ["history_limit"] (.int history))
        (Checked.both (Setting.atLeast 1 ["max_archives"] (.int archives))
          (.ok (origins, level, filename))))).map ofPassed := by
  unfold ofOptions
  rw [option_eq _ h.delay_eq, option_eq _ h.history_eq, option_eq _ h.archives_eq, option_eq _ h.origins_eq,
    option_eq _ h.level_eq, option_eq _ h.filename_eq, textsOf_texts]
  rfl

theorem Gives.has {s : Settings} (hs : ofOptions options = .ok s) : s.Has delay history archives origins level filename := by
  rw [h.ofOptions_eq] at hs
  obtain ⟨⟨⟨d, hge, hle⟩, ⟨n, htwo⟩, ⟨m, hone⟩, texts⟩, hall, rfl⟩ := Checked.map_eq_ok hs
  obtain ⟨hdelay, hall⟩ := Checked.both_eq_ok hall
  obtain ⟨hhistory, hall⟩ := Checked.both_eq_ok hall
  obtain ⟨harchives, htexts⟩ := Checked.both_eq_ok hall
  cases htexts
  exact ⟨delayOf_eq_ok hdelay, atLeast_eq_ok hhistory, atLeast_eq_ok harchives, rfl, rfl, rfl⟩

theorem Gives.explains : (ofOptions options).Explains := by
  rw [h.ofOptions_eq]
  have htexts : Checked.Explains (.ok (origins, level, filename)) := fun heq => nomatch heq
  exact ((explains_delayOf _ delay).both
    ((explains_atLeast 2 _ history).both ((explains_atLeast 1 _ archives).both htexts))).map ofPassed

/-- **All that can be wrong with options of the right kinds is the range of a number.** -/
theorem Gives.fullReport : FullReport delay history archives (ofOptions options).violations := by
  have heq : (ofOptions options).violations =
      (Setting.delayOf ["simulated_delay_seconds"] (.float delay)).violations ++
        ((Setting.atLeast 2 ["history_limit"] (.int history)).violations ++
          (Setting.atLeast 1 ["max_archives"] (.int archives)).violations) := by
    rw [h.ofOptions_eq, Checked.violations_map, Checked.violations_both, Checked.violations_both, Checked.violations_both]
    simp [Checked.violations]
  rw [heq]
  refine ⟨fun v => ?_, ?_⟩
  · rw [List.mem_append, List.mem_append, mem_violations_delayOf, mem_violations_atLeast, mem_violations_atLeast]
    constructor
    · rintro ((⟨hnot, rfl⟩ | ⟨hle, hnot, rfl⟩) | ⟨hlt, rfl⟩ | ⟨hlt, rfl⟩)
      · exact .above hnot
      · exact .below hle hnot
      · exact .history hlt
      · exact .archives hlt
    · intro hv
      cases hv with
      | above hnot => exact .inl (.inl ⟨hnot, rfl⟩)
      | below hle hnot => exact .inl (.inr ⟨hle, hnot, rfl⟩)
      | history hlt => exact .inr (.inl ⟨hlt, rfl⟩)
      | archives hlt => exact .inr (.inr ⟨hlt, rfl⟩)
  · rw [List.map_append, List.map_append]
    exact (places_delayOf ..).append ((places_atLeast ..).append (places_atLeast ..))

/-- **Options of the right kinds stand for settings with their values, or the full report says why not.** -/
theorem Gives.reported_or_has :
    (∃ vs, vs ≠ [] ∧ FullReport delay history archives vs ∧ ofOptions options = .error vs) ∨
    ∃ s, ofOptions options = .ok s ∧ s.Has delay history archives origins level filename := by
  by_cases hnone : (ofOptions options).violations = []
  · obtain ⟨s, hs⟩ := h.explains.isOk_iff.2 hnone
    exact .inr ⟨s, hs, h.has hs⟩
  · exact .inl ⟨_, hnone, h.fullReport, Checked.eq_error_of_violations_ne_nil hnone⟩

end

end Settings
end FlowBundle
