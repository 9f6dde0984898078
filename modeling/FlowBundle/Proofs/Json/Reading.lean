import FlowBundle.Proofs.Json.Numeral
import FlowBundle.Proofs.Json.Quoted
/-!
# What the reader does

One fact for each way that reading a value, an item or a member can succeed, stated without the lengths that the reader
carries along.
-/
namespace FlowBundle
namespace Json

/-- **What a value at the front of a text is read as**, with so much room, and what is left behind it. -/
def Reads (room : Nat) (s : List Char) (v : Value) (rest : List Char) : Prop :=
  ∃ h, readValue room s = .ok ⟨v, rest, h⟩

/-- What the items of a list from one of them on are read as, behind those that are done. -/
def ReadsItems (room : Nat) (done : List Value) (s : List Char) (vs : List Value) (rest : List Char) : Prop :=
  ∃ h, readItems room done s = .ok ⟨vs, rest, h⟩

def ReadsMembers (room : Nat) (done : Members) (s : List Char) (ms : Members) (rest : List Char) : Prop :=
  ∃ h, readMembers room done s = .ok ⟨ms, rest, h⟩

variable {room : Nat}

theorem length_of_skipLayout {s rest : List Char} {c : Char} (h : skipLayout s = c :: rest) : rest.length < s.length := by
  have hle := length_skipLayout_le s
  rw [h] at hle
  exact hle

theorem skipLayout_append {l : List Char} (hl : ∀ c ∈ l, isLayout c = true) (s : List Char) :
    skipLayout (l ++ s) = skipLayout s :=
  List.dropWhile_append_of_pos hl

/-! ## Texts and numbers -/

theorem reads_str {body cs rest : List Char} (h : readString (body.length + 1) [] body = .ok (cs, rest)) :
    Reads room ('"' :: body) (.str (String.ofList cs)) rest := by
  refine ⟨Nat.lt_succ_of_lt (length_readString h), ?_⟩
  rw [readValue]
  split
  · rename_i h'
    rw [h] at h'
    cases h'
  · rename_i h'
    rw [h] at h'
    cases h'
    rfl

def NumberHead : List Char → Prop
  | '-' :: c :: _ => c.isDigit = true
  | c :: _ => c.isDigit = true
  | [] => False

theorem NumberHead.exists_cons {s : List Char} (h : NumberHead s) :
    ∃ c tail, s = c :: tail ∧ (c = '-' ∨ c.isDigit = true) := by
  unfold NumberHead at h
  split at h
  · exact ⟨'-', _, rfl, .inl rfl⟩
  · exact ⟨_, _, rfl, .inr h⟩
  · exact h.elim

theorem isLayout_of_isDigit {c : Char} (hc : c.isDigit = true) : isLayout c = false := by
  rw [Bool.eq_false_iff]
  intro hl
  simp only [isLayout, Bool.or_eq_true, beq_iff_eq] at hl
  rcases hl with ((rfl | rfl) | rfl) | rfl <;> cases hc

theorem numberHead_of_readNumeral {s rest : List Char} {n : Numeral} (h : readNumeral s = some (n, rest)) :
    NumberHead s := by
  unfold readNumeral at h
  split at h
  · obtain ⟨c, tail, rfl, hc⟩ := digit_of_readUnsigned h
    exact hc
  · obtain ⟨c, tail, rfl, hc⟩ := digit_of_readUnsigned h
    unfold NumberHead
    split
    · rename_i heq
      cases heq
      cases hc
    · rename_i heq
      cases heq
      exact hc
    · rename_i heq
      cases heq

theorem reads_number {s rest : List Char} {n : Numeral} {v : Value} (hn : readNumeral s = some (n, rest))
    (hv : n.value = .ok v) : Reads room s v rest := by
  have hs := numberHead_of_readNumeral hn
  refine ⟨length_readNumeral hn, ?_⟩
  rw [readValue]
  · unfold readNumber
    split
    · rename_i h
      rw [hn] at h
      cases h
    · rename_i h
      rw [hn] at h
      cases h
      rw [hv]
      rfl
  -- No other kind of value begins with a digit or a sign before a digit.
  all_goals
    rintro tail rfl
    cases hs

/-- **No value begins with layout, with the end of a list, or with a byte order mark.** -/
theorem head_of_reads {s rest : List Char} {v : Value} (h : Reads room s v rest) :
    ∃ c tail, s = c :: tail ∧ isLayout c = false ∧ c ≠ ']' ∧ c ≠ '\ufeff' := by
  obtain ⟨hlt, h⟩ := h
  unfold readValue at h
  split at h
  · exact ⟨_, _, rfl, by decide, by decide, by decide⟩
  · exact ⟨_, _, rfl, by decide, by decide, by decide⟩
  · exact ⟨_, _, rfl, by decide, by decide, by decide⟩
  · exact ⟨_, _, rfl, by decide, by decide, by decide⟩
  · exact ⟨_, _, rfl, by decide, by decide, by decide⟩
  · exact ⟨_, _, rfl, by decide, by decide, by decide⟩
  · exact ⟨_, _, rfl, by decide, by decide, by decide⟩
  · exact ⟨_, _, rfl, by decide, by decide, by decide⟩
  · exact ⟨_, _, rfl, by decide, by decide, by decide⟩
  · unfold readNumber at h
    split at h
    · cases h
    · rename_i hn
      obtain ⟨c, tail, rfl, rfl | hc⟩ := numberHead_of_readNumeral hn |>.exists_cons
      · exact ⟨_, _, rfl, by decide, by decide, by decide⟩
      · refine ⟨c, tail, rfl, isLayout_of_isDigit hc, ?_, ?_⟩
        · rintro rfl
          cases hc
        · rintro rfl
          cases hc

/-! ## Lists -/

theorem reads_arr_nil {body rest : List Char} (h : skipLayout body = ']' :: rest) :
    Reads (room + 1) ('[' :: body) (.arr []) rest := by
  refine ⟨Nat.lt_succ_of_lt (length_of_skipLayout h), ?_⟩
  rw [readValue]
  split
  · rename_i h'
    rw [h] at h'
    cases h'
    rfl
  · rename_i hno
    exact (hno rest h).elim

theorem reads_arr {body rest : List Char} {vs : List Value} (hne : ∀ tail, skipLayout body ≠ ']' :: tail)
    (h : ReadsItems room [] (skipLayout body) vs rest) : Reads (room + 1) ('[' :: body) (.arr vs) rest := by
  obtain ⟨hlt, hread⟩ := h
  refine ⟨Nat.lt_succ_of_lt (Nat.lt_of_lt_of_le hlt (length_skipLayout_le body)), ?_⟩
  rw [readValue]
  split
  · rename_i h'
    exact (hne _ h').elim
  · rw [hread]
    rfl

theorem readsItems_last {done : List Value} {s after rest : List Char} {v : Value} (hv : Reads room s v after)
    (h : skipLayout after = ']' :: rest) : ReadsItems room done s (done.reverse ++ [v]) rest := by
  obtain ⟨hlt, hread⟩ := hv
  refine ⟨Nat.lt_trans (length_of_skipLayout h) hlt, ?_⟩
  rw [readItems, hread]
  simp only
  split
  · rename_i h'
    rw [h] at h'
    cases h'
    simp only [List.reverse_cons]
  · rename_i h'
    rw [h] at h'
    cases h'
  · rename_i hno _
    exact (hno rest h).elim

theorem readsItems_more {done vs : List Value} {s after behind rest : List Char} {v : Value} (hv : Reads room s v after)
    (h : skipLayout after = ',' :: behind) (hmore : ReadsItems room (v :: done) (skipLayout behind) vs rest) :
    ReadsItems room done s vs rest := by
  obtain ⟨hlt, hread⟩ := hv
  obtain ⟨hlt', hread'⟩ := hmore
  have hle := Nat.lt_of_lt_of_le hlt' (length_skipLayout_le behind)
  refine ⟨Nat.lt_trans (Nat.lt_trans hle (length_of_skipLayout h)) hlt, ?_⟩
  rw [readItems, hread]
  simp only
  split
  · rename_i h'
    rw [h] at h'
    cases h'
  · rename_i h'
    rw [h] at h'
    cases h'
    rw [hread']
    rfl
  · rename_i hno
    exact (hno behind h).elim

theorem skipLayout_cons {c : Char} (hc : isLayout c = false) (s : List Char) : skipLayout (c :: s) = c :: s :=
  List.dropWhile_cons_of_neg (by rw [hc]; decide)

theorem skipLayout_of_reads {s rest : List Char} {v : Value} (h : Reads room s v rest) :
    skipLayout s = s ∧ ∀ tail, s ≠ ']' :: tail := by
  obtain ⟨c, tail, rfl, hc, hne, -⟩ := head_of_reads h
  refine ⟨skipLayout_cons hc tail, fun tail' heq => ?_⟩
  cases heq
  exact hne rfl

theorem skipLayout_of_readsItems {done vs : List Value} {s rest : List Char} (h : ReadsItems room done s vs rest) :
    skipLayout s = s ∧ ∀ tail, s ≠ ']' :: tail := by
  obtain ⟨hlt, hread⟩ := h
  unfold readItems at hread
  split at hread
  · cases hread
  · rename_i hv
    exact skipLayout_of_reads ⟨_, hv⟩

theorem reads_arr_of_layout {l s rest : List Char} {vs : List Value} (hl : ∀ c ∈ l, isLayout c = true)
    (h : ReadsItems room [] s vs rest) : Reads (room + 1) ('[' :: (l ++ s)) (.arr vs) rest := by
  obtain ⟨hskip, hne⟩ := skipLayout_of_readsItems h
  have hs : skipLayout (l ++ s) = s := by rw [skipLayout_append hl, hskip]
  refine reads_arr ?_ ?_
  · rw [hs]
    exact hne
  · rw [hs]
    exact h

/-- **More brackets than there is room for are not read.** -/
theorem readValue_brackets : ∀ {room n : Nat}, room < n →
    readValue room (List.replicate n '[') = .error (.tooDeep .array)
  | _, 0, h => (Nat.not_lt_zero _ h).elim
  | 0, n + 1, _ => by rw [List.replicate_succ, readValue]
  | room + 1, n + 1, h => by
    obtain ⟨m, rfl⟩ : ∃ m, n = m + 1 := ⟨n - 1, by omega⟩
    have hskip : skipLayout (List.replicate (m + 1) '[') = List.replicate (m + 1) '[' :=
      skipLayout_cons (by decide) _
    have hitems : readItems room [] (skipLayout (List.replicate (m + 1) '[')) = .error (.tooDeep .array) := by
      rw [hskip, readItems, readValue_brackets (Nat.lt_of_succ_lt_succ h)]
    rw [List.replicate_succ, readValue]
    split
    · rename_i h'
      rw [hskip] at h'
      cases h'
    · rw [hitems]
      rfl

/-! ## Objects -/

theorem reads_obj_nil {body rest : List Char} (h : skipLayout body = '}' :: rest) :
    Reads (room + 1) ('{' :: body) (.obj []) rest := by
  refine ⟨Nat.lt_succ_of_lt (length_of_skipLayout h), ?_⟩
  rw [readValue]
  split
  · rename_i h'
    rw [h] at h'
    cases h'
    rfl
  · rename_i hno
    exact (hno rest h).elim

theorem reads_obj {body rest : List Char} {ms : Members} (hne : ∀ tail, skipLayout body ≠ '}' :: tail)
    (h : ReadsMembers room [] (skipLayout body) ms rest) : Reads (room + 1) ('{' :: body) (.obj ms) rest := by
  obtain ⟨hlt, hread⟩ := h
  refine ⟨Nat.lt_succ_of_lt (Nat.lt_of_lt_of_le hlt (length_skipLayout_le body)), ?_⟩
  rw [readValue]
  split
  · rename_i h'
    exact (hne _ h').elim
  · rw [hread]
    rfl

/-- **A member at the front of a text**: its name, its value, and what is left behind it. -/
def ReadsMember (room : Nat) (s : List Char) (key : String) (v : Value) (after : List Char) : Prop :=
  ∃ body afterKey afterColon cs, s = '"' :: body ∧ key = String.ofList cs ∧
    readString (body.length + 1) [] body = .ok (cs, afterKey) ∧ skipLayout afterKey = ':' :: afterColon ∧
    Reads room (skipLayout afterColon) v after

/-- **What is left behind a member**: the end of the object, or a comma and more members. -/
def ReadsMembersBehind (room : Nat) (done : Members) (after : List Char) (ms : Members) (rest : List Char) : Prop :=
  (skipLayout after = '}' :: rest ∧ ms = done) ∨
    ∃ behind, skipLayout after = ',' :: behind ∧ ReadsMembers room done (skipLayout behind) ms rest

theorem ReadsMembersBehind.length_lt {done ms : Members} {after rest : List Char}
    (h : ReadsMembersBehind room done after ms rest) : rest.length < after.length := by
  rcases h with ⟨h, -⟩ | ⟨behind, h, hlt, -⟩
  · exact length_of_skipLayout h
  · have h1 := length_of_skipLayout h
    have h2 := length_skipLayout_le behind
    omega

theorem readsMembers_of_readsMember {done ms : Members} {s after rest : List Char} {key : String} {v : Value}
    (hm : ReadsMember room s key v after) (hbehind : ReadsMembersBehind room (done.put key v) after ms rest) :
    ReadsMembers room done s ms rest := by
  obtain ⟨body, afterKey, afterColon, cs, rfl, rfl, htext, hcolon, hltv, hv⟩ := hm
  have h1 := hbehind.length_lt
  have h2 := length_readString htext
  have h3 := length_of_skipLayout hcolon
  have h4 := length_skipLayout_le afterColon
  refine ⟨by rw [List.length_cons]; omega, ?_⟩
  rw [readMembers]
  split
  · rename_i h'
    rw [htext] at h'
    cases h'
  rename_i h'
  rw [htext] at h'
  cases h'
  simp only
  split
  case h_2 hno => exact (hno afterColon hcolon).elim
  rename_i h'
  rw [hcolon] at h'
  cases h'
  rw [hv]
  simp only
  rcases hbehind with ⟨h, rfl⟩ | ⟨behind, h, hlt, hread⟩
  · split
    · rename_i h'
      rw [h] at h'
      cases h'
      rfl
    · rename_i h'
      rw [h] at h'
      cases h'
    · rename_i hno _
      exact (hno rest h).elim
  · split
    · rename_i h'
      rw [h] at h'
      cases h'
    · rename_i h'
      rw [h] at h'
      cases h'
      rw [hread]
      rfl
    · rename_i hno
      exact (hno behind h).elim

theorem skipLayout_of_readsMembers {done ms : Members} {s rest : List Char} (h : ReadsMembers room done s ms rest) :
    skipLayout s = s ∧ ∀ tail, s ≠ '}' :: tail := by
  obtain ⟨hlt, hread⟩ := h
  unfold readMembers at hread
  split at hread
  · exact ⟨skipLayout_cons (by decide) _, fun tail heq => by cases heq⟩
  · cases hread

theorem reads_obj_of_layout {l s rest : List Char} {ms : Members} (hl : ∀ c ∈ l, isLayout c = true)
    (h : ReadsMembers room [] s ms rest) : Reads (room + 1) ('{' :: (l ++ s)) (.obj ms) rest := by
  obtain ⟨hskip, hne⟩ := skipLayout_of_readsMembers h
  have hs : skipLayout (l ++ s) = s := by rw [skipLayout_append hl, hskip]
  refine reads_obj ?_ ?_
  · rw [hs]
    exact hne
  · rw [hs]
    exact h

end Json
end FlowBundle
