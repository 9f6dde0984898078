import FlowBundle.Proofs.Json.Depth
import FlowBundle.Proofs.Json.Reading
/-!
# What is read

Not every value can come out of a text: a later member replaces an earlier one of the same name, so names are not
repeated, and an integer has no more digits than are read.  Nor does a value take more room than there is.  That is all
there is to it (`readableIn_of_readWithin`); the other direction is that such a value is read from what is written for it.
-/
namespace FlowBundle
namespace Json

/-- **The values that a text can say**: names are not repeated in an object, and no integer is longer than the reader
allows. -/
inductive Value.Readable : Value → Prop
  | null : Readable .null
  | bool (b : Bool) : Readable (.bool b)
  | int {n : Int} (h : (Nat.toDigits 10 n.natAbs).length ≤ maxDigits) : Readable (.int n)
  | float (x : Binary64) : Readable (.float x)
  | str (s : String) : Readable (.str s)
  | arr {items : List Value} (h : ∀ v ∈ items, Readable v) : Readable (.arr items)
  | obj {ms : Members} (hkeys : (Table.keys ms).Nodup) (h : ∀ m ∈ ms, Readable m.2) : Readable (.obj ms)

mutual
def Value.decReadable : (v : Value) → Decidable v.Readable
  | .null => isTrue .null
  | .bool b => isTrue (.bool b)
  | .int n => decidable_of_iff ((Nat.toDigits 10 n.natAbs).length ≤ maxDigits) ⟨.int, fun | .int h => h⟩
  | .float x => isTrue (.float x)
  | .str s => isTrue (.str s)
  | .arr items =>
    have := decReadableItems items
    decidable_of_iff (∀ v ∈ items, v.Readable) ⟨.arr, fun | .arr h => h⟩
  | .obj ms =>
    have := decReadableMembers ms
    decidable_of_iff ((Table.keys ms).Nodup ∧ ∀ m ∈ ms, m.2.Readable)
      ⟨fun h => .obj h.1 h.2, fun | .obj hkeys h => ⟨hkeys, h⟩⟩

def decReadableItems : (items : List Value) → Decidable (∀ v ∈ items, v.Readable)
  | [] => isTrue fun _ hv => absurd hv List.not_mem_nil
  | v :: vs =>
    have := v.decReadable
    have := decReadableItems vs
    decidable_of_iff (v.Readable ∧ ∀ w ∈ vs, w.Readable) List.forall_mem_cons.symm

def decReadableMembers : (ms : Members) → Decidable (∀ m ∈ ms, m.2.Readable)
  | [] => isTrue fun _ hm => absurd hm List.not_mem_nil
  | (k, v) :: ms =>
    have := v.decReadable
    have := decReadableMembers ms
    decidable_of_iff (v.Readable ∧ ∀ m ∈ ms, m.2.Readable)
      (List.forall_mem_cons (p := fun m : String × Value => m.2.Readable) (a := (k, v))).symm
end

instance (v : Value) : Decidable v.Readable := v.decReadable

/-- **The values that a text can say** to a reader with so much room. -/
structure Value.ReadableIn (room : Nat) (v : Value) : Prop where
  readable : v.Readable
  depth_le : v.depth ≤ room

theorem Value.ReadableIn.arr {room : Nat} {vs : List Value} (h : ∀ v ∈ vs, v.ReadableIn room) :
    (Value.arr vs).ReadableIn (room + 1) :=
  ⟨.arr fun v hv => (h v hv).readable, depth_arr_le.2 ⟨room, rfl, fun v hv => (h v hv).depth_le⟩⟩

theorem Value.ReadableIn.obj {room : Nat} {ms : Members} (hkeys : (Table.keys ms).Nodup)
    (h : ∀ m ∈ ms, m.2.ReadableIn room) : (Value.obj ms).ReadableIn (room + 1) :=
  ⟨.obj hkeys fun m hm => (h m hm).readable, depth_obj_le.2 ⟨room, rfl, fun m hm => (h m hm).depth_le⟩⟩

/-- **What can be read can be written** with the room that it takes. -/
theorem fits_of_readable {v : Value} (h : v.Readable) : ∀ {room : Nat}, v.depth ≤ room → v.Fits room := by
  induction h with
  | null | bool | float | str => exact fun _ => rfl
  | int h => exact fun _ => if_neg (Nat.not_lt.2 h)
  | arr h ih =>
    intro room hdepth
    obtain ⟨less, rfl, hitems⟩ := depth_arr_le.1 hdepth
    exact fits_arr.2 fun v hv => ih v hv (hitems v hv)
  | obj hkeys h ih =>
    intro room hdepth
    obtain ⟨less, rfl, hmembers⟩ := depth_obj_le.1 hdepth
    exact fits_obj.2 fun m hm => ih m hm (hmembers m hm)

/-! ## Numbers -/

theorem natOf_lt : ∀ ds : List Char, Digits ds → natOf ds < 10 ^ ds.length
  | [], _ => Nat.one_pos
  | d :: ds, h => by
    have hd : d.isDigit = true := h d List.mem_cons_self
    have hvalue : natOf [d] ≤ 9 := by
      rw [Char.isDigit, Bool.and_eq_true, decide_eq_true_iff, decide_eq_true_iff] at hd
      have hle : d.toNat ≤ 57 := hd.2
      show 10 * 0 + (d.toNat - 48) ≤ 9
      omega
    have ih := natOf_lt ds fun c hc => h c (List.mem_cons_of_mem d hc)
    rw [← List.singleton_append, natOf_append, List.length_append, Nat.pow_add, List.length_singleton, Nat.pow_one]
    calc natOf [d] * 10 ^ ds.length + natOf ds < natOf [d] * 10 ^ ds.length + 10 ^ ds.length := Nat.add_lt_add_left ih _
      _ = (natOf [d] + 1) * 10 ^ ds.length := (Nat.succ_mul _ _).symm
      _ ≤ 10 * 10 ^ ds.length := Nat.mul_le_mul_right _ (Nat.succ_le_succ hvalue)

theorem digits_readWhole (s : List Char) : Digits (readWhole s).1 := by
  unfold readWhole
  split
  · exact digits_zeros 1
  · exact fun c hc => List.all_eq_true.1 List.all_takeWhile c hc

theorem digits_of_readUnsigned {negative : Bool} {s rest : List Char} {n : Numeral}
    (h : readUnsigned negative s = some (n, rest)) : Digits n.whole := by
  have hwhole := digits_readWhole s
  unfold readUnsigned at h
  simp only at h
  split at h
  · cases h
  · split at h <;> cases h <;> exact hwhole

theorem digits_of_readNumeral {s rest : List Char} {n : Numeral} (h : readNumeral s = some (n, rest)) :
    Digits n.whole := by
  unfold readNumeral at h
  split at h <;> exact digits_of_readUnsigned h

theorem readableIn_of_value {n : Numeral} (hn : Digits n.whole) {v : Value} (h : n.value = .ok v) (room : Nat) :
    v.ReadableIn room := by
  unfold Numeral.value at h
  split at h
  · split at h
    · cases h
    · rename_i hle
      cases h
      refine ⟨.int ?_, Nat.zero_le room⟩
      have hlt : natOf n.whole < 10 ^ maxDigits :=
        Nat.lt_of_lt_of_le (natOf_lt n.whole hn) (Nat.pow_le_pow_right (by decide) (Nat.not_lt.1 hle))
      have habs : (if n.negative then -(natOf n.whole : Int) else natOf n.whole).natAbs = natOf n.whole := by
        split
        · exact Int.natAbs_neg _
        · rfl
      rw [habs, Nat.length_toDigits_le_iff (by decide) (by decide)]
      exact hlt
  · cases h
    exact ⟨.float _, Nat.zero_le room⟩

theorem readableIn_of_readNumber {s : List Char} {p : Parsed Value s.length} (h : readNumber s = .ok p) (room : Nat) :
    p.value.ReadableIn room := by
  unfold readNumber at h
  split at h
  · cases h
  · rename_i n rest hn
    cases hvalue : n.value with
    | error stop =>
      rw [hvalue] at h
      cases h
    | ok v =>
      rw [hvalue] at h
      cases h
      exact readableIn_of_value (digits_of_readNumeral hn) hvalue room

/-! ## Values -/

variable {room : Nat}

theorem readableIn_put {ms : Members} (hkeys : (Table.keys ms).Nodup) (h : ∀ m ∈ ms, m.2.ReadableIn room) (key : String)
    {v : Value} (hv : v.ReadableIn room) :
    (Table.keys (ms.put key v)).Nodup ∧ ∀ m ∈ ms.put key v, m.2.ReadableIn room := by
  refine ⟨Table.nodup_keys_put key v hkeys, fun m hm => ?_⟩
  rcases Table.mem_put hm with rfl | hm
  · exact hv
  · exact h m hm

/-- A value is readable on its own, or it is read item by item or member by member, with less room. -/
theorem reads_cases {s rest : List Char} {v : Value} (h : Reads room s v rest) : v.ReadableIn room ∨
    (∃ less body vs, room = less + 1 ∧ s = '[' :: body ∧ v = .arr vs ∧ ReadsItems less [] (skipLayout body) vs rest) ∨
    (∃ less body ms, room = less + 1 ∧ s = '{' :: body ∧ v = .obj ms ∧
      ReadsMembers less [] (skipLayout body) ms rest) := by
  obtain ⟨hlt, h⟩ := h
  unfold readValue at h
  split at h
  · split at h
    · cases h
    · cases h
      exact .inl ⟨.str _, Nat.zero_le room⟩
  · rename_i body
    split at h
    · cases h
    rename_i less
    split at h
    · cases h
      exact .inl (.obj List.nodup_nil fun m hm => absurd hm List.not_mem_nil)
    · cases hread : readMembers less [] (skipLayout body) with
      | error stop =>
        rw [hread] at h
        cases h
      | ok p =>
        rw [hread] at h
        cases h
        exact .inr (.inr ⟨less, body, p.value, rfl, rfl, rfl, p.shorter, hread⟩)
  · rename_i body
    split at h
    · cases h
    rename_i less
    split at h
    · cases h
      exact .inl (.arr fun v hv => absurd hv List.not_mem_nil)
    · cases hread : readItems less [] (skipLayout body) with
      | error stop =>
        rw [hread] at h
        cases h
      | ok p =>
        rw [hread] at h
        cases h
        exact .inr (.inl ⟨less, body, p.value, rfl, rfl, rfl, p.shorter, hread⟩)
  · cases h
    exact .inl ⟨.null, Nat.zero_le room⟩
  · cases h
    exact .inl ⟨.bool true, Nat.zero_le room⟩
  · cases h
    exact .inl ⟨.bool false, Nat.zero_le room⟩
  · cases h
    exact .inl ⟨.float _, Nat.zero_le room⟩
  · cases h
    exact .inl ⟨.float _, Nat.zero_le room⟩
  · cases h
    exact .inl ⟨.float _, Nat.zero_le room⟩
  · exact .inl (readableIn_of_readNumber h room)

theorem readsItems_cases {done vs : List Value} {s rest : List Char} (h : ReadsItems room done s vs rest) :
    ∃ v after, Reads room s v after ∧ (vs = (v :: done).reverse ∨
      ∃ behind, skipLayout after = ',' :: behind ∧ ReadsItems room (v :: done) (skipLayout behind) vs rest) := by
  obtain ⟨hlt, h⟩ := h
  unfold readItems at h
  split at h
  · cases h
  · rename_i v after hafter hread
    refine ⟨v, after, ⟨hafter, hread⟩, ?_⟩
    split at h
    · cases h
      exact .inl rfl
    · rename_i behind hcomma
      cases hmore : readItems room (v :: done) (skipLayout behind) with
      | error stop =>
        rw [hmore] at h
        cases h
      | ok p =>
        rw [hmore] at h
        cases h
        exact .inr ⟨behind, hcomma, p.shorter, hmore⟩
    · cases h

theorem readsMembers_cases {done ms : Members} {s rest : List Char} (h : ReadsMembers room done s ms rest) :
    ∃ key v front after, front.length < s.length ∧ Reads room front v after ∧ (ms = done.put key v ∨
      ∃ behind, skipLayout after = ',' :: behind ∧ ReadsMembers room (done.put key v) (skipLayout behind) ms rest) := by
  obtain ⟨hlt, h⟩ := h
  unfold readMembers at h
  split at h
  · split at h
    · cases h
    · rename_i key afterKey hread
      have hkey := length_readString hread
      simp only at h
      split at h
      · rename_i afterColon hcolon
        have hlen := length_of_skipLayout hcolon
        have hle := length_skipLayout_le afterColon
        split at h
        · cases h
        · rename_i v after hafter hvalue
          refine ⟨String.ofList key, v, skipLayout afterColon, after, ?_, ⟨hafter, hvalue⟩, ?_⟩
          · rw [List.length_cons]
            omega
          split at h
          · cases h
            exact .inl rfl
          · rename_i behind hcomma
            cases hmore : readMembers room (done.put (String.ofList key) v) (skipLayout behind) with
            | error stop =>
              rw [hmore] at h
              cases h
            | ok p =>
              rw [hmore] at h
              cases h
              exact .inr ⟨behind, hcomma, p.shorter, hmore⟩
          · cases h
      · cases h
  · cases h

mutual
/-- **What is read at the front of a text is readable.** -/
theorem readableIn_of_reads {room : Nat} {s rest : List Char} {v : Value} (h : Reads room s v rest) :
    v.ReadableIn room := by
  obtain hv | ⟨less, body, vs, rfl, rfl, rfl, hitems⟩ | ⟨less, body, ms, rfl, rfl, rfl, hmembers⟩ := reads_cases h
  · exact hv
  · have hle := Nat.lt_succ_of_le (length_skipLayout_le body)
    exact .arr (readableIn_of_readsItems (fun v hv => absurd hv List.not_mem_nil) hitems)
  · have hle := Nat.lt_succ_of_le (length_skipLayout_le body)
    have hnone : (Table.keys ([] : Members)).Nodup := List.nodup_nil
    have hms := readableIn_of_readsMembers hnone (fun m hm => absurd hm List.not_mem_nil) hmembers
    exact .obj hms.1 hms.2
termination_by (s.length, 0)

theorem readableIn_of_readsItems {room : Nat} {done vs : List Value} {s rest : List Char}
    (hdone : ∀ v ∈ done, v.ReadableIn room) (h : ReadsItems room done s vs rest) : ∀ v ∈ vs, v.ReadableIn room := by
  obtain ⟨v, after, hv, hmore⟩ := readsItems_cases h
  have hall : ∀ w ∈ v :: done, w.ReadableIn room := by
    intro w hw
    rcases List.mem_cons.1 hw with rfl | hw
    · exact readableIn_of_reads hv
    · exact hdone w hw
  obtain rfl | ⟨behind, hcomma, hmore⟩ := hmore
  · exact fun w hw => hall w (List.mem_reverse.1 hw)
  · have hlt := Nat.lt_trans (Nat.lt_of_le_of_lt (length_skipLayout_le behind) (length_of_skipLayout hcomma)) hv.1
    exact readableIn_of_readsItems hall hmore
termination_by (s.length, 1)

theorem readableIn_of_readsMembers {room : Nat} {done ms : Members} {s rest : List Char}
    (hkeys : (Table.keys done).Nodup) (hdone : ∀ m ∈ done, m.2.ReadableIn room) (h : ReadsMembers room done s ms rest) :
    (Table.keys ms).Nodup ∧ ∀ m ∈ ms, m.2.ReadableIn room := by
  obtain ⟨key, v, front, after, hfront, hv, hmore⟩ := readsMembers_cases h
  have hput := readableIn_put hkeys hdone key (readableIn_of_reads hv)
  obtain rfl | ⟨behind, hcomma, hmore⟩ := hmore
  · exact hput
  · have hlt := Nat.lt_trans (Nat.lt_of_le_of_lt (length_skipLayout_le behind) (length_of_skipLayout hcomma)) hv.1
    exact readableIn_of_readsMembers hput.1 hput.2 hmore
termination_by (s.length, 1)
end

theorem readableIn_of_readChars {s : List Char} {v : Value} (h : readChars room s = .ok v) : v.ReadableIn room := by
  unfold readChars at h
  split at h
  · cases h
  · rename_i p hread
    split at h
    · cases h
      exact readableIn_of_reads ⟨p.shorter, hread⟩
    · cases h

/-- **Whatever is read is readable**, in the room that there was. -/
theorem readableIn_of_readWithin {text : String} {v : Value} (h : readWithin room text = .ok v) : v.ReadableIn room := by
  unfold readWithin at h
  split at h
  · cases h
  · exact readableIn_of_readChars h

end Json
end FlowBundle
