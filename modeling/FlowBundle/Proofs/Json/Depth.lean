import FlowBundle.Json.Overrun
/-!
# How deep values lie in one another

The depth of a value is the room that it takes to be read.  What can be written can also be written with more room
(`Value.Fits.mono`), and of a list or an object every part can be written with the room that is left.
-/
namespace FlowBundle
namespace Json

mutual
/-- **How many lists and objects lie in one another**, empty ones too. -/
def Value.depth : Value → Nat
  | .arr items => depthItems items + 1
  | .obj members => depthMembers members + 1
  | _ => 0

def depthItems : List Value → Nat
  | [] => 0
  | v :: vs => max v.depth (depthItems vs)

def depthMembers : List (String × Value) → Nat
  | [] => 0
  | (_, v) :: ms => max v.depth (depthMembers ms)
end

theorem depthItems_le {room : Nat} : ∀ {vs : List Value}, depthItems vs ≤ room ↔ ∀ v ∈ vs, v.depth ≤ room
  | [] => by simp [depthItems]
  | v :: vs => by rw [depthItems, Nat.max_le, depthItems_le, List.forall_mem_cons]

theorem depthMembers_le {room : Nat} : ∀ {ms : Members}, depthMembers ms ≤ room ↔ ∀ m ∈ ms, m.2.depth ≤ room
  | [] => by simp [depthMembers]
  | m :: ms => by rw [depthMembers, Nat.max_le, depthMembers_le, List.forall_mem_cons]

theorem depth_arr_le {room : Nat} {vs : List Value} :
    (Value.arr vs).depth ≤ room ↔ ∃ less, room = less + 1 ∧ ∀ v ∈ vs, v.depth ≤ less := by
  rw [Value.depth]
  constructor
  · intro h
    exact ⟨room - 1, by omega, depthItems_le.1 (Nat.le_sub_one_of_lt h)⟩
  · rintro ⟨less, rfl, h⟩
    exact Nat.succ_le_succ (depthItems_le.2 h)

theorem depth_obj_le {room : Nat} {ms : Members} :
    (Value.obj ms).depth ≤ room ↔ ∃ less, room = less + 1 ∧ ∀ m ∈ ms, m.2.depth ≤ less := by
  rw [Value.depth]
  constructor
  · intro h
    exact ⟨room - 1, by omega, depthMembers_le.1 (Nat.le_sub_one_of_lt h)⟩
  · rintro ⟨less, rfl, h⟩
    exact Nat.succ_le_succ (depthMembers_le.2 h)

/-! ## The text is longer than the value is deep -/

mutual
theorem depth_le_length_write (st : Style) (depth : Nat) : ∀ v : Value, v.depth ≤ (write st depth v).length
  | .null | .bool _ | .int _ | .float _ | .str _ => Nat.zero_le _
  | .arr [] => by simp [Value.depth, depthItems, write]
  | .arr (v :: vs) => by
    have hfirst := depth_le_length_write st (depth + 1) v
    have hrest := depthItems_le_length_writeItems st (depth + 1) vs
    simp only [Value.depth, depthItems, write, List.length_cons, List.length_append]
    omega
  | .obj [] => by simp [Value.depth, depthMembers, write]
  | .obj ((key, v) :: ms) => by
    have hfirst := depth_le_length_write st (depth + 1) v
    have hrest := depthMembers_le_length_writeMembers st (depth + 1) ms
    simp only [Value.depth, depthMembers, write, List.length_cons, List.length_append]
    omega

theorem depthItems_le_length_writeItems (st : Style) (depth : Nat) : ∀ vs : List Value,
    depthItems vs ≤ (writeItems st depth vs).length
  | [] => Nat.zero_le _
  | v :: vs => by
    have hfirst := depth_le_length_write st depth v
    have hrest := depthItems_le_length_writeItems st depth vs
    simp only [depthItems, writeItems, List.length_append]
    omega

theorem depthMembers_le_length_writeMembers (st : Style) (depth : Nat) : ∀ ms : Members,
    depthMembers ms ≤ (writeMembers st depth ms).length
  | [] => Nat.zero_le _
  | m :: ms => by
    have hfirst := depth_le_length_write st depth m.2
    have hrest := depthMembers_le_length_writeMembers st depth ms
    simp only [depthMembers, writeMembers, List.length_append]
    omega
end

/-! ## What can be written -/

theorem overrunItems?_eq_none {room : Nat} : ∀ {vs : List Value},
    overrunItems? room vs = none ↔ ∀ v ∈ vs, v.Fits room
  | [] => by simp [overrunItems?]
  | v :: vs => by rw [overrunItems?, Option.or_eq_none_iff, overrunItems?_eq_none, List.forall_mem_cons, Value.Fits]

theorem overrunMembers?_eq_none {room : Nat} : ∀ {ms : Members},
    overrunMembers? room ms = none ↔ ∀ m ∈ ms, m.2.Fits room
  | [] => by simp [overrunMembers?]
  | m :: ms => by
    rw [overrunMembers?, Option.or_eq_none_iff, overrunMembers?_eq_none, List.forall_mem_cons, Value.Fits]

theorem fits_arr {room : Nat} {vs : List Value} : (Value.arr vs).Fits (room + 1) ↔ ∀ v ∈ vs, v.Fits room := by
  cases vs with
  | nil => simp [Value.Fits, Value.overrun?]
  | cons v vs => exact @overrunItems?_eq_none room (v :: vs)

theorem fits_obj {room : Nat} {ms : Members} : (Value.obj ms).Fits (room + 1) ↔ ∀ m ∈ ms, m.2.Fits room := by
  cases ms with
  | nil => simp [Value.Fits, Value.overrun?]
  | cons m ms => exact @overrunMembers?_eq_none room (m :: ms)

/-- What has a part that is written takes some room. -/
theorem Value.Fits.arr {room : Nat} {vs : List Value} (h : (Value.arr vs).Fits room) (hne : vs ≠ []) :
    ∃ less, room = less + 1 ∧ ∀ v ∈ vs, v.Fits less := by
  obtain ⟨v, vs, rfl⟩ := List.exists_cons_of_ne_nil hne
  cases room with
  | zero => cases h
  | succ less => exact ⟨less, rfl, fits_arr.1 h⟩

theorem Value.Fits.obj {room : Nat} {ms : Members} (h : (Value.obj ms).Fits room) (hne : ms ≠ []) :
    ∃ less, room = less + 1 ∧ ∀ m ∈ ms, m.2.Fits less := by
  obtain ⟨m, ms, rfl⟩ := List.exists_cons_of_ne_nil hne
  cases room with
  | zero => cases h
  | succ less => exact ⟨less, rfl, fits_obj.1 h⟩

mutual
/-- **More room does no harm.** -/
theorem Value.Fits.mono {room more : Nat} (hle : room ≤ more) : ∀ {v : Value}, v.Fits room → v.Fits more
  | .null, _ | .bool _, _ | .float _, _ | .str _, _ | .arr [], _ | .obj [], _ => rfl
  | .int _, h => h
  | .arr (v :: vs), h => by
    obtain ⟨less, rfl, hitems⟩ := h.arr (List.cons_ne_nil v vs)
    obtain ⟨rest, rfl⟩ := Nat.exists_eq_add_of_le' (Nat.one_le_of_lt hle)
    exact fits_arr.2 (fits_items_mono (Nat.le_of_succ_le_succ hle) hitems)
  | .obj (m :: ms), h => by
    obtain ⟨less, rfl, hmembers⟩ := h.obj (List.cons_ne_nil m ms)
    obtain ⟨rest, rfl⟩ := Nat.exists_eq_add_of_le' (Nat.one_le_of_lt hle)
    exact fits_obj.2 (fits_members_mono (Nat.le_of_succ_le_succ hle) hmembers)

theorem fits_items_mono {room more : Nat} (hle : room ≤ more) : ∀ {vs : List Value},
    (∀ v ∈ vs, v.Fits room) → ∀ v ∈ vs, v.Fits more
  | [], _ => fun _ hv => nomatch hv
  | _ :: _, h => List.forall_mem_cons.2
    ⟨(List.forall_mem_cons.1 h).1.mono hle, fits_items_mono hle (List.forall_mem_cons.1 h).2⟩

theorem fits_members_mono {room more : Nat} (hle : room ≤ more) : ∀ {ms : Members},
    (∀ m ∈ ms, m.2.Fits room) → ∀ m ∈ ms, m.2.Fits more
  | [], _ => fun _ hm => nomatch hm
  | (_, v) :: _, h => List.forall_mem_cons.2
    ⟨(show v.Fits room from (List.forall_mem_cons.1 h).1).mono hle, fits_members_mono hle (List.forall_mem_cons.1 h).2⟩
end

end Json
end FlowBundle
