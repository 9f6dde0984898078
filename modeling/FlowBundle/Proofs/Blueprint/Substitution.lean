import FlowBundle.Proofs.Blueprint.Cutting
import FlowBundle.Proofs.Blueprint.Rendering
import FlowBundle.Proofs.Json.Members
import FlowBundle.Proofs.Table
/-!
# Rendering is substitution

A blueprint that lacks nothing is rendered to its body with every declared token replaced, all of them at once
(`render_of_complete`): the pieces are those of the body alone, so what is put in is never looked at again.  One that
lacks something is refused for the first thing that it lacks (`render_eq_error_iff`).  Nothing else depends on the order
in which slots and fragments are declared (`render_is_substitution`).
-/
namespace FlowBundle

namespace Blueprint

open Json (Value Members)

/-- **Every choice that is made is a text.** -/
def AreTexts (choices : Members) : Prop := ∀ key v, choices.get? key = some v → ∃ s, v = .str s

def selected? (choices : Members) (f : Fragment) : Option String :=
  match choices.get? f.choice with
  | some (.str name) => f.variants.lookup name
  | _ => none

/-- **What stands for a token**: the variant of the fragment of this name, or else the value of the slot. -/
def textFor? (b : Blueprint) (values choices : Members) (name : String) : Option String :=
  match b.fragments.lookup name with
  | some f => selected? choices f
  | none => if name ∈ b.slots then (values.get? name).map Value.plainText else none

/-- **Nothing is missing.** -/
def Complete (b : Blueprint) (values choices : Members) : Prop :=
  (∀ slot ∈ b.slots, (values.get? slot).isSome = true) ∧ ∀ e ∈ b.fragments, (selected? choices e.2).isSome = true

/-- **The first thing that is missing**: a slot without a value, or, if every slot has one, a fragment of which the
choice selects no variant. -/
inductive FirstMissing (b : Blueprint) (values choices : Members) : Fault → Prop where
  | slot (pre : List String) (slot : String) (post : List String) (hsplit : b.slots = pre ++ slot :: post)
    (hpre : ∀ s ∈ pre, (values.get? s).isSome = true) (hnone : values.get? slot = none) :
    FirstMissing b values choices (.noValue b.path slot)
  | fragment (pre : List (String × Fragment)) (e : String × Fragment) (post : List (String × Fragment))
    (hslots : ∀ s ∈ b.slots, (values.get? s).isSome = true) (hsplit : b.fragments = pre ++ e :: post)
    (hpre : ∀ e' ∈ pre, (selected? choices e'.2).isSome = true) (hnone : selected? choices e.2 = none) :
    FirstMissing b values choices (.noVariant b.path e.2.choice ((choices.get? e.2.choice).getD .null))

variable {b : Blueprint} {values choices : Members}

theorem slotText_eq (path slot : String) :
    slotText path values slot =
      match values.get? slot with
      | some v => .ok (slot, v.plainText)
      | none => .error (.noValue path slot) := rfl

theorem variantText_eq (h : AreTexts choices) (path : String) (e : String × Fragment) :
    variantText path choices e =
      match selected? choices e.2 with
      | some text => .ok (e.1, text)
      | none => .error (.noVariant path e.2.choice ((choices.get? e.2.choice).getD .null)) := by
  rw [variantText, selected?]
  cases hget : choices.get? e.2.choice with
  | none => rfl
  | some v =>
    obtain ⟨name, rfl⟩ := h _ v hget
    cases hlookup : e.2.variants.lookup name with
    | none => simp only [hlookup, Option.getD_some]
    | some text => simp only [hlookup, Option.getD_some]

/-! ## Faults -/

theorem slotText_isOk_iff {path slot : String} :
    (∃ r, slotText path values slot = .ok r) ↔ (values.get? slot).isSome = true := by
  rw [slotText_eq]
  cases values.get? slot <;> simp

theorem slotText_eq_error_iff {path slot : String} {fault : Fault} :
    slotText path values slot = .error fault ↔ values.get? slot = none ∧ fault = .noValue path slot := by
  rw [slotText_eq]
  cases values.get? slot <;> simp [eq_comm]

theorem variantText_isOk_iff (h : AreTexts choices) {path : String} {e : String × Fragment} :
    (∃ r, variantText path choices e = .ok r) ↔ (selected? choices e.2).isSome = true := by
  rw [variantText_eq h]
  cases selected? choices e.2 <;> simp

theorem variantText_eq_error_iff (h : AreTexts choices) {path : String} {e : String × Fragment} {fault : Fault} :
    variantText path choices e = .error fault ↔
      selected? choices e.2 = none ∧ fault = .noVariant path e.2.choice ((choices.get? e.2.choice).getD .null) := by
  rw [variantText_eq h]
  cases selected? choices e.2 <;> simp [eq_comm]

theorem exists_slotTexts_iff (path : String) {slots : List String} :
    (∃ rs, slots.mapM (slotText path values) = .ok rs) ↔ ∀ s ∈ slots, (values.get? s).isSome = true :=
  ⟨fun ⟨_, hrs⟩ s hs => slotText_isOk_iff.1 (isOk_of_mapM_eq_ok hrs s hs),
    fun hall => mapM_isOk slots fun s hs => slotText_isOk_iff.2 (hall s hs)⟩

theorem exists_variantTexts_iff (h : AreTexts choices) (path : String) {fragments : List (String × Fragment)} :
    (∃ rs, fragments.mapM (variantText path choices) = .ok rs) ↔
      ∀ e ∈ fragments, (selected? choices e.2).isSome = true :=
  ⟨fun ⟨_, hrs⟩ e he => (variantText_isOk_iff h).1 (isOk_of_mapM_eq_ok hrs e he),
    fun hall => mapM_isOk fragments fun e he => (variantText_isOk_iff h).2 (hall e he)⟩

theorem replacements_eq_error_iff (h : AreTexts choices) {fault : Fault} :
    b.replacements values choices = .error fault ↔ FirstMissing b values choices fault := by
  rw [replacements]
  constructor
  · intro herror
    cases hslots : b.slots.mapM (slotText b.path values) with
    | error e =>
      rw [hslots] at herror
      cases herror
      obtain ⟨pre, slot, post, hsplit, hpre, hslot⟩ := mapM_eq_error_iff.1 hslots
      obtain ⟨hnone, rfl⟩ := slotText_eq_error_iff.1 hslot
      exact .slot pre slot post hsplit (fun s hs => slotText_isOk_iff.1 (hpre s hs)) hnone
    | ok slots =>
      cases hfragments : b.fragments.mapM (variantText b.path choices) with
      | error e =>
        rw [hslots, hfragments] at herror
        cases herror
        obtain ⟨pre, e, post, hsplit, hpre, hvariant⟩ := mapM_eq_error_iff.1 hfragments
        obtain ⟨hnone, rfl⟩ := (variantText_eq_error_iff h).1 hvariant
        exact .fragment pre e post ((exists_slotTexts_iff b.path).1 ⟨slots, hslots⟩) hsplit
          (fun e' he' => (variantText_isOk_iff h).1 (hpre e' he')) hnone
      | ok fragments =>
        rw [hslots, hfragments] at herror
        cases herror
  · rintro (⟨pre, slot, post, hsplit, hpre, hnone⟩ | ⟨pre, e, post, hslots, hsplit, hpre, hnone⟩)
    · have herror : b.slots.mapM (slotText b.path values) = .error (.noValue b.path slot) :=
        mapM_eq_error_iff.2 ⟨pre, slot, post, hsplit, fun s hs => slotText_isOk_iff.2 (hpre s hs),
          slotText_eq_error_iff.2 ⟨hnone, rfl⟩⟩
      rw [herror]
    · obtain ⟨slots, hok⟩ := (exists_slotTexts_iff b.path).2 hslots
      have herror := (mapM_eq_error_iff (f := variantText b.path choices)).2 ⟨pre, e, post, hsplit,
        fun e' he' => (variantText_isOk_iff h).2 (hpre e' he'), (variantText_eq_error_iff h).2 ⟨hnone, rfl⟩⟩
      rw [hok, herror]

/-- **What is missing first is what a rendering is refused for.** -/
theorem render_eq_error_iff (h : AreTexts choices) {fault : Fault} :
    b.render values choices = .error fault ↔ FirstMissing b values choices fault := by
  rw [← replacements_eq_error_iff h, render]
  cases b.replacements values choices <;> simp [Except.map]

/-! ## Texts -/

theorem lookup_slotTexts (path name : String) : ∀ {slots : List String} {rs : List (String × String)},
    slots.mapM (slotText path values) = .ok rs →
      rs.lookup name = if name ∈ slots then (values.get? name).map Value.plainText else none
  | [], _, h => by
    cases h
    rfl
  | slot :: slots, _, h => by
    obtain ⟨r, rs', hslot, hrs, rfl⟩ := mapM_cons_eq_ok.1 h
    have ih := lookup_slotTexts path name hrs
    rw [slotText_eq] at hslot
    cases hvalue : values.get? slot with
    | none =>
      rw [hvalue] at hslot
      cases hslot
    | some v =>
      rw [hvalue] at hslot
      cases hslot
      by_cases hname : name = slot
      · rw [hname, List.lookup_cons_self, if_pos List.mem_cons_self, hvalue, Option.map_some]
      · rw [List.lookup_cons, beq_false_of_ne hname, ih]
        simp [hname]

theorem lookup_variantTexts (h : AreTexts choices) (path name : String) : ∀ {fragments : List (String × Fragment)}
    {rs : List (String × String)}, fragments.mapM (variantText path choices) = .ok rs →
      rs.lookup name = (fragments.lookup name).bind (selected? choices)
  | [], _, hok => by
    cases hok
    rfl
  | e :: fragments, _, hok => by
    obtain ⟨r, rs', hvariant, hrs, rfl⟩ := mapM_cons_eq_ok.1 hok
    have ih := lookup_variantTexts h path name hrs
    rw [variantText_eq h] at hvariant
    cases hselected : selected? choices e.2 with
    | none =>
      rw [hselected] at hvariant
      cases hvariant
    | some text =>
      rw [hselected] at hvariant
      cases hvariant
      by_cases hname : name = e.1
      · rw [hname, List.lookup_cons_self, List.lookup_cons_self, Option.bind_some, hselected]
      · rw [List.lookup_cons, List.lookup_cons, beq_false_of_ne hname, ih]

theorem lookup_replacements (h : AreTexts choices) {rs : List (String × String)}
    (hrs : b.replacements values choices = .ok rs) (name : String) :
    rs.lookup name = b.textFor? values choices name := by
  rw [replacements] at hrs
  cases hslots : b.slots.mapM (slotText b.path values) with
  | error e =>
    rw [hslots] at hrs
    cases hrs
  | ok slots =>
    cases hfragments : b.fragments.mapM (variantText b.path choices) with
    | error e =>
      rw [hslots, hfragments] at hrs
      cases hrs
    | ok fragments =>
      rw [hslots, hfragments] at hrs
      cases hrs
      rw [List.lookup_append, lookup_slotTexts b.path name hslots, lookup_variantTexts h b.path name hfragments,
        textFor?]
      cases hlookup : b.fragments.lookup name with
      | none => rfl
      | some f =>
        have hmem : (name, f) ∈ b.fragments := by
          obtain ⟨pre, post, hsplit, -⟩ := List.lookup_eq_some_iff.1 hlookup
          rw [hsplit]
          exact List.mem_append_right _ List.mem_cons_self
        have hsome := (exists_variantTexts_iff h b.path).1 ⟨fragments, hfragments⟩ (name, f) hmem
        obtain ⟨text, htext⟩ := Option.isSome_iff_exists.1 hsome
        simp only [Option.bind_some, htext, Option.some_or]

theorem exists_replacements_iff (h : AreTexts choices) :
    (∃ rs, b.replacements values choices = .ok rs) ↔ b.Complete values choices := by
  rw [Complete, ← exists_slotTexts_iff b.path, ← exists_variantTexts_iff h b.path, replacements]
  cases b.slots.mapM (slotText b.path values) <;> cases b.fragments.mapM (variantText b.path choices) <;> simp

/-- The body with every token for which there is a text replaced. -/
def substituted (b : Blueprint) (values choices : Members) (ps : List Piece) : String :=
  String.ofList (ps.flatMap (Piece.fill (b.textFor? values choices)))

/-- **Where nothing is missing, every declared token is replaced**, and nothing else. -/
theorem render_of_complete (h : AreTexts choices) (hcomplete : b.Complete values choices) :
    b.render values choices = .ok (b.substituted values choices b.pieces) := by
  obtain ⟨rs, hrs⟩ := (exists_replacements_iff h).2 hcomplete
  have htexts : (fun name => rs.lookup name) = b.textFor? values choices :=
    funext (lookup_replacements h hrs)
  rw [render, hrs, substituted, ← htexts]
  rfl

theorem complete_of_render (h : AreTexts choices) {text : String} (hok : b.render values choices = .ok text) :
    b.Complete values choices := by
  rw [← exists_replacements_iff h]
  rw [render] at hok
  cases hrs : b.replacements values choices with
  | error fault =>
    rw [hrs] at hok
    cases hok
  | ok rs => exact ⟨rs, rfl⟩

/-! ## The order of declaration -/

/-- **The same blueprint**, but for the order in which its slots and its fragments are declared. -/
structure Reordered (b b' : Blueprint) : Prop where
  path_eq : b'.path = b.path
  body_eq : b'.body = b.body
  slots_perm : b.slots.Perm b'.slots
  fragments_perm : b.fragments.Perm b'.fragments

theorem Reordered.complete_iff {b b' : Blueprint} (h : b.Reordered b') :
    b'.Complete values choices ↔ b.Complete values choices := by
  simp only [Complete, h.slots_perm.mem_iff, h.fragments_perm.mem_iff]

theorem Reordered.textFor?_eq {b b' : Blueprint} (h : b.Reordered b') (hkeys : (Table.keys b.fragments).Nodup) :
    b'.textFor? values choices = b.textFor? values choices := by
  funext name
  simp only [textFor?, Table.lookup_perm h.fragments_perm hkeys, h.slots_perm.mem_iff]

theorem Reordered.toOption_render_eq {b b' : Blueprint} (h : b.Reordered b')
    (hkeys : (Table.keys b.fragments).Nodup) (htexts : AreTexts choices) :
    (b'.render values choices).toOption = (b.render values choices).toOption := by
  by_cases hcomplete : b.Complete values choices
  · rw [render_of_complete htexts hcomplete, render_of_complete htexts (h.complete_iff.2 hcomplete), substituted,
      substituted, pieces, pieces, h.textFor?_eq hkeys, h.body_eq]
  · have hnone : ∀ {b'' : Blueprint}, ¬ b''.Complete values choices → (b''.render values choices).toOption = none := by
      intro b'' hmissing
      cases hrender : b''.render values choices with
      | error fault => rfl
      | ok text => exact absurd (complete_of_render htexts hrender) hmissing
    rw [hnone hcomplete, hnone fun hb' => hcomplete (h.complete_iff.1 hb')]

/-- **Rendering is substitution.**  A blueprint is refused if a slot has no value or a choice selects no variant, and
then for the first of them.  Else the body, cut into plain text and tokens in the only possible way, becomes the plain
text as it is, the text of every declared token, and every other token as it is.  In what order slots and fragments are
declared makes no difference to the text. -/
theorem render_is_substitution {b : Blueprint} {values choices : Members} (htexts : AreTexts choices)
    (hkeys : (Table.keys b.fragments).Nodup) :
    ((∃ fault, b.render values choices = .error fault) ↔
      (∃ slot ∈ b.slots, values.get? slot = none) ∨ ∃ e ∈ b.fragments, selected? choices e.2 = none) ∧
    (∀ fault, b.render values choices = .error fault ↔ FirstMissing b values choices fault) ∧
    (∃ ps, ∀ ps', Piece.IsCutting b.body.toList ps' ↔ ps' = ps) ∧
    (∀ ps text, Piece.IsCutting b.body.toList ps → b.render values choices = .ok text →
      text.toList = ps.flatMap fun
        | .plain c => [c]
        | .token name =>
          match b.textFor? values choices name with
          | some text => text.toList
          | none => '{' :: (name.toList ++ ['}'])) ∧
    ∀ b', b.Reordered b' → (b'.render values choices).toOption = (b.render values choices).toOption := by
  refine ⟨?_, fun fault => render_eq_error_iff htexts, ⟨b.pieces, fun ps => Piece.isCutting_iff⟩,
    fun ps text hps hok => ?_, fun b' h => h.toOption_render_eq hkeys htexts⟩
  · constructor
    · rintro ⟨fault, herror⟩
      rcases (render_eq_error_iff htexts).1 herror with
        ⟨pre, slot, post, hsplit, -, hnone⟩ | ⟨pre, e, post, -, hsplit, -, hnone⟩
      · exact .inl ⟨slot, hsplit ▸ List.mem_append_right _ List.mem_cons_self, hnone⟩
      · exact .inr ⟨e, hsplit ▸ List.mem_append_right _ List.mem_cons_self, hnone⟩
    · intro hmissing
      cases hrender : b.render values choices with
      | error fault => exact ⟨fault, rfl⟩
      | ok text =>
        obtain ⟨hslots, hfragments⟩ := complete_of_render htexts hrender
        rcases hmissing with ⟨slot, hmem, hnone⟩ | ⟨e, hmem, hnone⟩
        · have hsome := hslots slot hmem
          rw [hnone] at hsome
          cases hsome
        · have hsome := hfragments e hmem
          rw [hnone] at hsome
          cases hsome
  · rw [render_of_complete htexts (complete_of_render htexts hok)] at hok
    obtain rfl := Except.ok.inj hok
    obtain rfl := Piece.isCutting_iff.1 hps
    rw [substituted, String.toList_ofList]
    exact congrArg (List.flatMap · _) (funext fun p => by cases p <;> rfl)

/-- A blueprint with braces that are no tokens, a fragment named like a slot, and texts that spell tokens. -/
def braces : Blueprint :=
  { path := "braces", body := "{a}{b}\x7d\x7b{a}{A}{}\x7bc", slots := ["a", "b"]
    fragments := [("b", ⟨"mode", [("on", "{a}")]⟩)] }

theorem render_is_substitution_braces :
    AreTexts [("mode", .str "on")] ∧ (Table.keys braces.fragments).Nodup ∧
    Piece.IsCutting braces.body.toList braces.pieces ∧
    braces.render [("a", .str "\x7bb"), ("b", .null)] [("mode", .str "on")] = .ok "\x7bb{a}\x7d\x7b\x7bb{A}{}\x7bc" ∧
    "\x7bb{a}\x7d\x7b\x7bb{A}{}\x7bc".toList = (braces.pieces.flatMap fun
      | .plain c => [c]
      | .token name =>
        match braces.textFor? [("a", .str "\x7bb"), ("b", .null)] [("mode", .str "on")] name with
        | some text => text.toList
        | none => '{' :: (name.toList ++ ['}'])) := by
  have htexts : AreTexts [("mode", .str "on")] := by
    intro key v h
    obtain ⟨-, rfl⟩ := Prod.mk.inj (List.mem_singleton.1 (Json.Members.mem_of_get? h))
    exact ⟨"on", rfl⟩
  have hkeys : (Table.keys braces.fragments).Nodup := by decide
  have hcutting := Piece.isCutting_cut braces.body.toList
  have hrender : braces.render [("a", .str "\x7bb"), ("b", .null)] [("mode", .str "on")] =
      .ok "\x7bb{a}\x7d\x7b\x7bb{A}{}\x7bc" := by rfl
  exact ⟨htexts, hkeys, hcutting, hrender,
    (render_is_substitution htexts hkeys).2.2.2.1 braces.pieces _ hcutting hrender⟩

end Blueprint
end FlowBundle
