import FlowBundle.Proofs.Settings.Environment
import FlowBundle.Proofs.Table
import FlowBundle.Proofs.Text.Split
import FlowBundle.Proofs.Text.Trim
/-!
# Origins between commas

The pieces of a text write a list of origins if each origin is in a piece of its own, in order, with nothing but blanks
around it, and all other pieces are blank (`Written`).  The pieces of a text write the origins that are read from it
(`exists_pieces`), and whatever pieces write some proper origins, these are read from their text
(`originsOf_of_written`).  Nothing else in the settings depends on that text (`AgreeElsewhere.settings_eq`).
-/
namespace FlowBundle
namespace Environment

open Text (CleanEnds isBlank)

/-- **One origin**: it shows something, has no comma, and no blanks at its ends. -/
structure Proper (origin : String) : Prop where
  not_blank : Text.allBlank origin = false
  no_comma : ',' ∉ origin.toList
  clean : CleanEnds isBlank origin.toList

/-- **What pieces write.** -/
inductive Written : List (List Char) → List String → Prop where
  | nil : Written [] []
  | blank {piece : List Char} {pieces : List (List Char)} {origins : List String}
      (h : ∀ c ∈ piece, isBlank c = true) (rest : Written pieces origins) : Written (piece :: pieces) origins
  | origin {before after : List Char} {origin : String} {pieces : List (List Char)} {origins : List String}
      (hbefore : ∀ c ∈ before, isBlank c = true) (hafter : ∀ c ∈ after, isBlank c = true)
      (rest : Written pieces origins) : Written ((before ++ origin.toList ++ after) :: pieces) (origin :: origins)

/-- What is read from pieces. -/
def originsIn (pieces : List (List Char)) : List String :=
  (pieces.map fun piece => String.ofList (Text.trimChars isBlank piece)).filter (· != "")

theorem originsOf_eq (text : String) : originsOf text = originsIn (Text.split ',' text.toList) := rfl

theorem originsIn_cons (piece : List Char) (pieces : List (List Char)) : originsIn (piece :: pieces) =
    if Text.trimChars isBlank piece = [] then originsIn pieces
    else String.ofList (Text.trimChars isBlank piece) :: originsIn pieces := by
  unfold originsIn
  by_cases h : Text.trimChars isBlank piece = []
  · simp [h]
  · have hne : String.ofList (Text.trimChars isBlank piece) ≠ "" := by simpa [← String.toList_inj] using h
    simp [h, hne]

/-! ## From pieces to origins -/

/-- **Pieces write what is read from them.** -/
theorem written_originsIn : ∀ pieces : List (List Char), Written pieces (originsIn pieces)
  | [] => .nil
  | piece :: pieces => by
    have ih := written_originsIn pieces
    rw [originsIn_cons]
    by_cases h : Text.trimChars isBlank piece = []
    · rw [if_pos h]
      exact .blank (Text.trimChars_eq_nil_iff.1 h) ih
    · rw [if_neg h]
      obtain ⟨before, after, hpiece, hbefore, hafter⟩ := Text.exists_trimChars isBlank piece
      have hwritten : Written ((before ++ (String.ofList (Text.trimChars isBlank piece)).toList ++ after) :: pieces)
        (String.ofList (Text.trimChars isBlank piece) :: originsIn pieces) := .origin hbefore hafter ih
      rwa [String.toList_ofList, ← hpiece] at hwritten

theorem proper_of_mem_originsIn {pieces : List (List Char)} (hpieces : ∀ piece ∈ pieces, ',' ∉ piece) {origin : String}
    (h : origin ∈ originsIn pieces) : Proper origin := by
  unfold originsIn at h
  obtain ⟨hmem, hne⟩ := List.mem_filter.1 h
  obtain ⟨piece, hpiece, rfl⟩ := List.mem_map.1 hmem
  obtain ⟨before, after, heq, -, -⟩ := Text.exists_trimChars isBlank piece
  have hclean := Text.cleanEnds_trimChars isBlank piece
  have hshown : Text.trimChars isBlank piece ≠ [] := by simpa [← String.toList_inj] using hne
  constructor
  · obtain ⟨c, hc, hnot⟩ := hclean.exists_of_ne_nil hshown
    unfold Text.allBlank
    rw [String.toList_ofList, List.all_eq_false]
    exact ⟨c, hc, by rw [hnot]; exact Bool.false_ne_true⟩
  · intro hcomma
    rw [String.toList_ofList] at hcomma
    exact hpieces piece hpiece (heq ▸ List.mem_append_left _ (List.mem_append_right _ hcomma))
  · rw [String.toList_ofList]
    exact hclean

/-! ## From origins to pieces -/

/-- Origins write themselves. -/
theorem written_map_toList : ∀ origins : List String, Written (origins.map String.toList) origins
  | [] => .nil
  | origin :: origins => by
    have hnone : ∀ c ∈ ([] : List Char), isBlank c = true := by simp
    simpa using Written.origin hnone hnone (written_map_toList origins)

section
variable {pieces : List (List Char)} {origins : List String} (h : Written pieces origins)
  (hproper : ∀ origin ∈ origins, Proper origin)
include h hproper

/-- **What pieces write is read from them.** -/
theorem originsIn_of_written : originsIn pieces = origins := by
  induction h with
  | nil => rfl
  | blank hblank _ ih => rw [originsIn_cons, if_pos (Text.trimChars_eq_nil_iff.2 hblank), ih hproper]
  | @origin before after origin pieces origins hbefore hafter _ ih =>
    obtain ⟨⟨hnot, -, hclean⟩, hrest⟩ := List.forall_mem_cons.1 hproper
    have hne : origin.toList ≠ [] := by
      intro hnil
      simp [Text.allBlank, hnil] at hnot
    rw [originsIn_cons, Text.trimChars_around hclean hbefore hafter, if_neg hne, String.ofList_toList, ih hrest]

theorem no_comma_of_written : ∀ piece ∈ pieces, ',' ∉ piece := by
  have hcomma : ∀ cs : List Char, (∀ c ∈ cs, isBlank c = true) → ',' ∉ cs := fun cs hcs hmem => by
    have hblank := hcs ',' hmem
    revert hblank
    decide
  induction h with
  | nil => simp
  | blank hblank _ ih =>
    rw [List.forall_mem_cons]
    exact ⟨hcomma _ hblank, ih hproper⟩
  | origin hbefore hafter _ ih =>
    obtain ⟨⟨-, hnone, -⟩, hrest⟩ := List.forall_mem_cons.1 hproper
    rw [List.forall_mem_cons]
    exact ⟨by simp [hcomma _ hbefore, hcomma _ hafter, hnone], ih hrest⟩

/-- **Origins are read from a text of pieces that write them.** -/
theorem originsOf_of_written (hne : origins ≠ []) : originsOf (String.ofList ([','].intercalate pieces)) = origins := by
  have hpieces : pieces ≠ [] := by
    rintro rfl
    cases h
    exact hne rfl
  rw [originsOf_eq, String.toList_ofList, Text.split_intercalate hpieces (no_comma_of_written h hproper)]
  exact originsIn_of_written h hproper

end

/-- **The pieces of a text write the origins that are read from it.** -/
theorem exists_pieces (text : String) : ∃ pieces, [','].intercalate pieces = text.toList ∧
    (∀ piece ∈ pieces, ',' ∉ piece) ∧ Written pieces (originsOf text) ∧ ∀ origin ∈ originsOf text, Proper origin :=
  ⟨Text.split ',' text.toList, Text.intercalate_split _, fun _ => Text.not_mem_of_mem_split, written_originsIn _,
    fun _ => proper_of_mem_originsIn fun _ => Text.not_mem_of_mem_split⟩

/-! ## What else is set -/

/-- **Environments that differ in the text of the origins at most.** -/
def AgreeElsewhere (env env' : Environment) : Prop := ∀ name, name ≠ "CORS_ORIGINS" → env'.text? name = env.text? name

theorem variable_ne {name : String} (h : name ≠ "CORS_ORIGINS") : "AWB_" ++ name ≠ "AWB_CORS_ORIGINS" := by
  have hname : "AWB_CORS_ORIGINS" = "AWB_" ++ "CORS_ORIGINS" := by decide
  rw [hname]
  simpa [← String.toList_inj] using h

theorem agreeElsewhere_erase (env : Environment) : AgreeElsewhere (Table.erase "AWB_CORS_ORIGINS" env) env := by
  intro name hname
  unfold text?
  rw [Table.lookup_erase_of_ne (variable_ne hname)]

theorem agreeElsewhere_put (text : String) (env : Environment) :
    AgreeElsewhere env (Table.put "AWB_CORS_ORIGINS" text env) := by
  intro name hname
  unfold text?
  rw [Table.lookup_put_of_ne text (variable_ne hname)]

theorem origins_put (env : Environment) {text : String} {os : List String} (h : originsOf text = os) (hne : os ≠ []) :
    origins (Table.put "AWB_CORS_ORIGINS" text env) = os := by
  have htext : text ≠ "" := by
    rintro rfl
    exact hne h.symm
  have hfound : text? (Table.put "AWB_CORS_ORIGINS" text env) "CORS_ORIGINS" = some text := by
    show Option.filter _ (List.lookup "AWB_CORS_ORIGINS" _) = _
    simp [Table.lookup_put_self, htext]
  simp [origins, hfound, h]

theorem AgreeElsewhere.gives {env env' : Environment} (h : AgreeElsewhere env env') {delay : Binary64}
    {history archives : Int} (hgives : env.Gives delay history archives) : env'.Gives delay history archives := by
  obtain ⟨hdelay, hhistory, harchives⟩ := hgives
  constructor
  · rw [delay?, read?, h _ (by decide)]
    exact hdelay
  · rw [historyLimit?, read?, h _ (by decide)]
    exact hhistory
  · rw [maxArchives?, read?, h _ (by decide)]
    exact harchives

theorem AgreeElsewhere.level_eq {env env' : Environment} (h : AgreeElsewhere env env') : env'.level = env.level := by
  rw [level, level, h _ (by decide)]

/-- **Only the origins depend on the text of the origins.** -/
theorem AgreeElsewhere.settings_eq {env env' : Environment} (h : AgreeElsewhere env env') {s : Settings}
    (hs : env.settings = .ok s) : env'.settings = .ok { s with origins := env'.origins } := by
  rcases unread_or_gives env with ⟨fault, hfault⟩ | ⟨delay, history, archives, hgives⟩
  · rw [hfault.settings_eq] at hs
    cases hs
  have hhas : s.Has delay history archives env.origins env.level defaultFilename := by
    rcases hgives.reported_or_has with ⟨vs, -, -, heq⟩ | ⟨s', heq, hhas⟩
    · rw [heq] at hs
      cases hs
    · rw [heq] at hs
      cases hs
      exact hhas
  rcases (h.gives hgives).reported_or_has with ⟨vs, hne, hfull, -⟩ | ⟨s', hs', hhas'⟩
  · exact absurd (hhas.eq_nil_of_fullReport hfull) hne
  · rw [h.level_eq] at hhas'
    rw [hs', hhas.eq_of_has hhas']

/-- **The origins of an environment.**  If it has any text for them and its other variables pass, the settings are those
of the others with the origins that the pieces of the text write, and these are proper.  Unless there are none, every text
whose pieces write them, with more blanks or blank pieces, makes the same settings. -/
theorem settings_of_origins {env : Environment} {text : String} {s₀ : Settings}
    (htext : env.text? "CORS_ORIGINS" = some text)
    (hother : Environment.settings (Table.erase "AWB_CORS_ORIGINS" env) = .ok s₀) :
    ∃ s : Settings, env.settings = .ok s ∧ s = { s₀ with origins := s.origins } ∧
      (∃ pieces, [','].intercalate pieces = text.toList ∧ (∀ piece ∈ pieces, ',' ∉ piece) ∧ Written pieces s.origins) ∧
      (∀ origin ∈ s.origins, Proper origin) ∧
      (s.origins ≠ [] → ∀ pieces, Written pieces s.origins →
        Environment.settings (Table.put "AWB_CORS_ORIGINS" (String.ofList ([','].intercalate pieces)) env) = .ok s) := by
  have hs := (agreeElsewhere_erase env).settings_eq hother
  have horigins : env.origins = originsOf text := by rw [origins, htext]; rfl
  rw [horigins] at hs
  obtain ⟨pieces, hjoined, hcomma, hwritten, hproper⟩ := exists_pieces text
  refine ⟨_, hs, rfl, ⟨pieces, hjoined, hcomma, hwritten⟩, hproper, fun hne pieces' hwritten' => ?_⟩
  rw [(agreeElsewhere_put _ env).settings_eq hs]
  have hset := origins_put env (originsOf_of_written hwritten' hproper hne) hne
  rw [hset]

def spacedOrigins : Environment := [("AWB_CORS_ORIGINS", " http://a ,, http://b,")]

theorem settings_of_origins_spaced : ∃ s : Settings, spacedOrigins.settings = .ok s ∧
    s.origins = ["http://a", "http://b"] ∧
    Environment.settings (Table.put "AWB_CORS_ORIGINS" "http://a,http://b" spacedOrigins) = .ok s := by
  obtain ⟨s₀, hother⟩ := exists_settings_nil
  have htext : spacedOrigins.text? "CORS_ORIGINS" = some " http://a ,, http://b," := by rfl
  obtain ⟨s, hs, -, -, -, hagain⟩ := settings_of_origins htext hother
  have horigins : s.origins = ["http://a", "http://b"] := by
    have heq := ((agreeElsewhere_erase spacedOrigins).settings_eq hother).symm.trans hs
    rw [← Except.ok.inj heq]
    rfl
  have hjoined := hagain (by simp [horigins]) _ (written_map_toList s.origins)
  rw [horigins, show String.ofList ([','].intercalate (["http://a", "http://b"].map String.toList)) = "http://a,http://b"
    by decide] at hjoined
  exact ⟨s, hs, horigins, hjoined⟩

end Environment
end FlowBundle
