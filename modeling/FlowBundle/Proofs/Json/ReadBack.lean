import FlowBundle.Proofs.Json.Readable
/-!
# What is written reads back

A value that is written is read as itself, in any style, and whatever stands behind it, if there is room for its depth
(`reads_write`).  Two things do not survive every text: an object whose members share a name, of which one would be
left, and an integer too long to be read.  `Value.Readable` rules them out, at every depth.
-/
namespace FlowBundle
namespace Json

/-! ## Layout -/

variable (st : Style)

theorem isLayout_breakAt (depth : Nat) : ∀ c ∈ st.breakAt depth, isLayout c = true := by
  intro c hc
  unfold Style.breakAt at hc
  split at hc
  · cases hc
  · rcases List.mem_cons.1 hc with rfl | hc
    · decide
    · rw [List.eq_of_mem_replicate hc]
      decide

theorem isLayout_space : ∀ c ∈ [' '], isLayout c = true := by
  intro c hc
  rw [List.mem_singleton.1 hc]
  rfl

theorem exists_separator (depth : Nat) :
    ∃ l, st.separator depth = ',' :: l ∧ ∀ c ∈ l, isLayout c = true := by
  unfold Style.separator
  split
  · exact ⟨[' '], rfl, isLayout_space⟩
  · exact ⟨_, rfl, isLayout_breakAt st depth⟩

theorem endsNumber_cons {c : Char} (h : c.isDigit = false ∧ c ≠ '.' ∧ c ≠ 'e' ∧ c ≠ 'E') (s : List Char) :
    EndsNumber (c :: s) := by
  intro d hd
  cases hd
  exact h

theorem endsNumber_of_layout {l s : List Char} (hl : ∀ c ∈ l, isLayout c = true) (hs : EndsNumber s) :
    EndsNumber (l ++ s) := by
  cases l with
  | nil => exact hs
  | cons c l =>
    refine endsNumber_cons ?_ _
    have hc := hl c List.mem_cons_self
    simp only [isLayout, Bool.or_eq_true, beq_iff_eq] at hc
    rcases hc with ((rfl | rfl) | rfl) | rfl <;> decide

/-! ## Single values -/

variable {room : Nat}

theorem reads_float (x : Binary64) {rest : List Char} (hrest : EndsNumber rest) :
    Reads room (x.text spelling ++ rest) (.float x) rest := by
  cases x with
  | nan => exact ⟨by simp [Binary64.text, spelling]; omega, by simp [Binary64.text, spelling, readValue]⟩
  | infinite negative =>
    cases negative with
    | false => exact ⟨by simp [Binary64.text, spelling]; omega, by simp [Binary64.text, spelling, readValue]⟩
    | true => exact ⟨by simp [Binary64.text, spelling]; omega, by simp [Binary64.text, spelling, readValue]⟩
  | finite negative s e h =>
    obtain ⟨n, hn, hvalue⟩ := readNumeral_text negative h hrest
    exact reads_number hn hvalue

theorem exists_writeString (ascii : Bool) (s : String) (rest : List Char) :
    ∃ body, writeString ascii s ++ rest = '"' :: body ∧ ∀ opening, readString opening [] body = .ok (s.toList, rest) := by
  refine ⟨s.toList.flatMap (escapedChar ascii) ++ '"' :: rest, ?_,
    fun opening => readString_escaped ascii opening rest _ []⟩
  rw [writeString, List.cons_append, List.append_assoc, List.singleton_append]

theorem reads_writeString (ascii : Bool) (s : String) (rest : List Char) :
    Reads room (writeString ascii s ++ rest) (.str s) rest := by
  obtain ⟨body, hbody, hread⟩ := exists_writeString ascii s rest
  rw [hbody, ← String.ofList_toList (s := s)]
  exact reads_str (hread _)

theorem readsMember_write {t : List Char} {v : Value} (key : String)
    (hv : ∀ rest, EndsNumber rest → Reads room (t ++ rest) v rest) (rest : List Char) (hrest : EndsNumber rest) :
    ReadsMember room (writeString st.ascii key ++ [':', ' '] ++ t ++ rest) key v rest := by
  have hread := hv rest hrest
  obtain ⟨body, hbody, htext⟩ := exists_writeString st.ascii key (':' :: ' ' :: (t ++ rest))
  refine ⟨body, _, ' ' :: (t ++ rest), key.toList, ?_, String.ofList_toList.symm, htext _,
    skipLayout_cons (by decide) _, ?_⟩
  · rw [← hbody]
    simp only [List.append_assoc, List.cons_append, List.nil_append]
  · have hspace : skipLayout (' ' :: (t ++ rest)) = skipLayout (t ++ rest) := skipLayout_append isLayout_space _
    rwa [hspace, (skipLayout_of_reads hread).1]

theorem put_of_nodup {done ms : Members} {k : String} {v : Value}
    (h : (Table.keys (done ++ (k, v) :: ms)).Nodup) : done.put k v = done ++ [(k, v)] := by
  refine Table.put_of_not_mem v done fun hmem => ?_
  rw [Table.keys, List.map_append, List.nodup_append] at h
  exact h.2.2 k hmem k List.mem_cons_self rfl

/-! ## Values at any depth -/

mutual
/-- **A readable value reads back**, whatever stands behind it. -/
theorem reads_write (depth : Nat) : ∀ {v : Value}, v.Readable → ∀ {room : Nat}, v.depth ≤ room →
    ∀ rest, EndsNumber rest → Reads room (write st depth v ++ rest) v rest
  | .null, _, _, _, rest, _ => ⟨by simp [write]; omega, by simp [write, readValue]⟩
  | .bool true, _, _, _, rest, _ => ⟨by simp [write]; omega, by simp [write, readValue]⟩
  | .bool false, _, _, _, rest, _ => ⟨by simp [write]; omega, by simp [write, readValue]⟩
  | .int n, hv, _, _, rest, hrest => by
    cases hv with
    | int hn =>
      obtain ⟨numeral, hread, hvalue⟩ := readNumeral_writeInt hn hrest
      rw [write]
      exact reads_number hread hvalue
  | .float x, _, _, _, rest, hrest => by
    rw [write]
    exact reads_float x hrest
  | .str s, _, _, _, rest, _ => by
    rw [write]
    exact reads_writeString st.ascii s rest
  | .arr [], _, _, hdepth, rest, _ => by
    obtain ⟨less, rfl, -⟩ := depth_arr_le.1 hdepth
    rw [write]
    exact reads_arr_nil (skipLayout_cons (by decide) rest)
  | .arr (v :: vs), hv, _, hdepth, rest, _ => by
    cases hv with
    | arr h =>
      obtain ⟨less, rfl, hitems⟩ := depth_arr_le.1 hdepth
      rw [List.forall_mem_cons] at h hitems
      have hfirst := reads_write (depth + 1) h.1 hitems.1
      have hread := readsItems_write (depth + 1) vs h.2 hitems.2 [] hfirst (isLayout_breakAt st depth) rest
      rw [write, List.cons_append]
      simp only [List.append_assoc, List.cons_append, List.nil_append]
      exact reads_arr_of_layout (isLayout_breakAt st (depth + 1)) hread
  | .obj [], _, _, hdepth, rest, _ => by
    obtain ⟨less, rfl, -⟩ := depth_obj_le.1 hdepth
    rw [write]
    exact reads_obj_nil (skipLayout_cons (by decide) rest)
  | .obj ((k, v) :: ms), hv, _, hdepth, rest, _ => by
    cases hv with
    | obj hkeys h =>
      obtain ⟨less, rfl, hmembers⟩ := depth_obj_le.1 hdepth
      rw [List.forall_mem_cons] at h hmembers
      have hfirst := readsMember_write st k (reads_write (depth + 1) h.1 hmembers.1)
      have hread := readsMembers_write (depth + 1) ms h.2 hmembers.2 [] hkeys hfirst (isLayout_breakAt st depth) rest
      rw [write, List.cons_append]
      simp only [List.append_assoc, List.cons_append, List.nil_append] at hread ⊢
      exact reads_obj_of_layout (isLayout_breakAt st (depth + 1)) hread

theorem readsItems_write (depth : Nat) : ∀ (vs : List Value), (∀ v ∈ vs, v.Readable) →
    ∀ {room : Nat}, (∀ v ∈ vs, v.depth ≤ room) →
    ∀ (done : List Value) {s : List Char} {v : Value}, (∀ rest, EndsNumber rest → Reads room (s ++ rest) v rest) →
    ∀ {close : List Char}, (∀ c ∈ close, isLayout c = true) → ∀ rest,
    ReadsItems room done (s ++ (writeItems st depth vs ++ (close ++ ']' :: rest))) (done.reverse ++ v :: vs) rest
  | [], _, _, _, done, s, v, hv, close, hclose, rest => by
    have hends : EndsNumber (close ++ ']' :: rest) := endsNumber_of_layout hclose (endsNumber_cons (by decide) rest)
    rw [writeItems, List.nil_append]
    refine readsItems_last (hv _ hends) ?_
    rw [skipLayout_append hclose]
    exact skipLayout_cons (by decide) rest
  | w :: vs, h, _, hdepth, done, s, v, hv, close, hclose, rest => by
    rw [List.forall_mem_cons] at h hdepth
    have hw := reads_write depth h.1 hdepth.1
    have ih := readsItems_write depth vs h.2 hdepth.2 (v :: done) hw hclose rest
    obtain ⟨l, hl, hlayout⟩ := exists_separator st depth
    rw [List.reverse_cons, List.append_assoc, List.singleton_append] at ih
    rw [writeItems, hl]
    simp only [List.append_assoc, List.cons_append]
    refine readsItems_more (hv _ (endsNumber_cons (by decide) _)) (skipLayout_cons (by decide) _) ?_
    rw [skipLayout_append hlayout, (skipLayout_of_readsItems ih).1]
    exact ih

theorem readsMembers_write (depth : Nat) : ∀ (ms : Members), (∀ m ∈ ms, m.2.Readable) →
    ∀ {room : Nat}, (∀ m ∈ ms, m.2.depth ≤ room) →
    ∀ (done : Members) {s : List Char} {k : String} {v : Value}, (Table.keys (done ++ (k, v) :: ms)).Nodup →
    (∀ rest, EndsNumber rest → ReadsMember room (s ++ rest) k v rest) →
    ∀ {close : List Char}, (∀ c ∈ close, isLayout c = true) → ∀ rest,
    ReadsMembers room done (s ++ (writeMembers st depth ms ++ (close ++ '}' :: rest))) (done ++ (k, v) :: ms) rest
  | [], _, _, _, done, s, k, v, hkeys, hv, close, hclose, rest => by
    have hends : EndsNumber (close ++ '}' :: rest) := endsNumber_of_layout hclose (endsNumber_cons (by decide) rest)
    rw [writeMembers, List.nil_append, ← put_of_nodup hkeys]
    refine readsMembers_of_readsMember (hv _ hends) (.inl ⟨?_, rfl⟩)
    rw [skipLayout_append hclose]
    exact skipLayout_cons (by decide) rest
  | (l, w) :: ms, h, _, hdepth, done, s, k, v, hkeys, hv, close, hclose, rest => by
    rw [List.forall_mem_cons] at h hdepth
    have hw := readsMember_write st l (reads_write depth h.1 hdepth.1)
    have hput := put_of_nodup hkeys
    rw [List.append_cons] at hkeys
    have ih := readsMembers_write depth ms h.2 hdepth.2 (done ++ [(k, v)]) hkeys hw hclose rest
    obtain ⟨sep, hsep, hlayout⟩ := exists_separator st depth
    rw [writeMembers, hsep]
    simp only [List.append_assoc, List.cons_append, List.nil_append] at ih ⊢
    refine readsMembers_of_readsMember (hv _ (endsNumber_cons (by decide) _)) (.inr ⟨_, skipLayout_cons (by decide) _, ?_⟩)
    rw [hput, skipLayout_append hlayout, (skipLayout_of_readsMembers ih).1]
    exact ih
end

/-! ## Texts as a whole -/

theorem readChars_of_reads {s rest : List Char} {v : Value} (h : Reads room (skipLayout s) v rest)
    (hrest : skipLayout rest = []) : readChars room s = .ok v := by
  obtain ⟨hlt, h⟩ := h
  rw [readChars, h]
  simp only [hrest]

/-- **What is written is read as what was written**, in any style and with any layout behind it, if there is room. -/
theorem readWithin_text_append {v : Value} (hv : v.Readable) (hdepth : v.depth ≤ room) (st : Style) {layout : String}
    (hlayout : ∀ c ∈ layout.toList, isLayout c = true) : readWithin room (v.text st ++ layout) = .ok v := by
  have hends : EndsNumber (layout.toList ++ []) := endsNumber_of_layout hlayout fun c hc => by cases hc
  rw [List.append_nil] at hends
  have hread := reads_write st 0 hv hdepth layout.toList hends
  obtain ⟨c, tail, hcons, -, -, hmark⟩ := head_of_reads hread
  unfold readWithin Value.text
  rw [String.toList_append, String.toList_ofList]
  split
  · rename_i h
    rw [hcons] at h
    cases h
    exact absurd rfl hmark
  · have hend : skipLayout (layout.toList ++ []) = [] := skipLayout_append hlayout []
    rw [List.append_nil] at hend
    refine readChars_of_reads ?_ hend
    rw [(skipLayout_of_reads hread).1]
    exact hread

theorem depth_le_length_text (v : Value) (st : Style) (layout : String) : v.depth ≤ (v.text st ++ layout).length := by
  have hle := depth_le_length_write st 0 v
  rw [String.length_append, Value.text, String.length_ofList]
  omega

/-- **What is written is read as what was written**, in any style and with any layout behind it. -/
theorem read_text_append {v : Value} (hv : v.Readable) (st : Style) {layout : String}
    (hlayout : ∀ c ∈ layout.toList, isLayout c = true) : read (v.text st ++ layout) = .ok v :=
  readWithin_text_append hv (depth_le_length_text v st layout) st hlayout

theorem readWithin_text {v : Value} (hv : v.Readable) (hdepth : v.depth ≤ room) (st : Style) :
    readWithin room (v.text st) = .ok v := by
  have hread := @readWithin_text_append room v hv hdepth st "" fun c hc => by cases hc
  rwa [String.append_empty] at hread

/-- **What is written on its own is read as what was written**, whatever the indent. -/
theorem read_text {v : Value} (hv : v.Readable) (indent : Option Int) : read (v.text { indent := indent }) = .ok v := by
  have hdepth := depth_le_length_text v { indent := indent } ""
  rw [String.append_empty] at hdepth
  exact readWithin_text hv hdepth _

/-- A row of brackets is a text that is too deep to be read. -/
theorem readWithin_brackets {n : Nat} (h : room < n) :
    readWithin room (String.ofList (List.replicate n '[')) = .error (.tooDeep .array) := by
  obtain ⟨m, rfl⟩ : ∃ m, n = m + 1 := ⟨n - 1, by omega⟩
  have hskip : skipLayout (List.replicate (m + 1) '[') = List.replicate (m + 1) '[' := skipLayout_cons (by decide) _
  have hvalue : readValue room (skipLayout (List.replicate (m + 1) '[')) = .error (.tooDeep .array) := by
    rw [hskip, readValue_brackets h]
  have hchars : readChars room (List.replicate (m + 1) '[') = .error (.tooDeep .array) := by
    rw [readChars, hvalue]
    rfl
  unfold readWithin
  rw [String.toList_ofList]
  exact hchars

/-- **The readable values are the values of texts**, as far as there is room for them. -/
theorem readableIn_iff_exists_text {v : Value} : v.ReadableIn room ↔ ∃ text, readWithin room text = .ok v :=
  ⟨fun hv => ⟨_, readWithin_text hv.readable hv.depth_le {}⟩, fun ⟨_, h⟩ => readableIn_of_readWithin h⟩

theorem readable_iff_exists_text {v : Value} : v.Readable ↔ ∃ text, read text = .ok v :=
  ⟨fun hv => ⟨_, read_text hv none⟩, fun ⟨_, h⟩ => (readableIn_of_readWithin h).readable⟩

end Json
end FlowBundle
