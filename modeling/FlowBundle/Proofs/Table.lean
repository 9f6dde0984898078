import FlowBundle.Table
/-!
# What a table holds

A key can be looked up if it is one of the keys (`isSome_lookup_iff`).  Where keys stand once, the order of the table
does not matter (`lookup_perm`), and what is found in a part of the table is found in all of it (`lookup_of_sublist`).
-/
namespace FlowBundle
namespace Table

variable {κ α : Type} [DecidableEq κ]

theorem isSome_lookup_iff {key : κ} : ∀ {t : List (κ × α)}, (t.lookup key).isSome = true ↔ key ∈ keys t
  | [] => by simp [keys]
  | (k, v) :: rest => by
    have ih : (rest.lookup key).isSome = true ↔ key ∈ keys rest := isSome_lookup_iff
    rw [keys, List.map_cons, List.mem_cons, List.lookup_cons]
    by_cases h : key = k
    · simp [h]
    · rw [beq_false_of_ne h, ih, keys]
      simp [h]

theorem lookup_perm {key : κ} {t t' : List (κ × α)} (h : t.Perm t') (hnodup : (keys t).Nodup) :
    t.lookup key = t'.lookup key := by
  induction h with
  | nil => rfl
  | cons e _ ih =>
    obtain ⟨k, v⟩ := e
    rw [List.lookup_cons, List.lookup_cons, ih (List.nodup_cons.1 hnodup).2]
  | swap e e' rest =>
    obtain ⟨k, v⟩ := e
    obtain ⟨k', v'⟩ := e'
    have hne : k' ≠ k := by simpa [keys] using (List.nodup_cons.1 hnodup).1 ∘ List.mem_cons.2 ∘ Or.inl
    simp only [List.lookup_cons]
    by_cases hk : key = k
    · rw [beq_false_of_ne fun heq : key = k' => hne (heq.symm.trans hk)]
    · rw [beq_false_of_ne hk]
  | @trans l l' _ h _ ih ih' =>
    have hkeys : (keys l).Perm (keys l') := h.map Prod.fst
    exact (ih hnodup).trans (ih' (hkeys.nodup_iff.1 hnodup))

theorem lookup_of_sublist {key : κ} {value : α} {t t' : List (κ × α)} (h : t.Sublist t') :
    (keys t').Nodup → t.lookup key = some value → t'.lookup key = some value := by
  induction h with
  | slnil => exact fun _ hfound => hfound
  | @cons t rest e h ih =>
    intro hnodup hfound
    obtain ⟨k, v⟩ := e
    have hmem : key ∈ keys t := isSome_lookup_iff.1 (Option.isSome_of_eq_some hfound)
    have hne : key ≠ k := fun heq => (List.nodup_cons.1 hnodup).1 (heq ▸ (h.map Prod.fst).subset hmem)
    rw [List.lookup_cons, beq_false_of_ne hne]
    exact ih (List.nodup_cons.1 hnodup).2 hfound
  | cons_cons e h ih =>
    intro hnodup hfound
    obtain ⟨k, v⟩ := e
    rw [List.lookup_cons] at hfound ⊢
    split at hfound
    · exact hfound
    · exact ih (List.nodup_cons.1 hnodup).2 hfound

theorem keys_erase (key : κ) (t : List (κ × α)) : keys (erase key t) = (keys t).filter fun k => decide (k ≠ key) := by
  rw [keys, keys, List.filter_map]
  rfl

/-! ## Values set and entries erased, again and again -/

theorem keys_put (key : κ) (value : α) : ∀ t : List (κ × α),
    keys (put key value t) = if key ∈ keys t then keys t else keys t ++ [key]
  | [] => rfl
  | (k, v) :: rest => by
    have hcons : ∀ (w : α) (t : List (κ × α)), keys ((k, w) :: t) = k :: keys t := fun _ _ => rfl
    by_cases h : k = key
    · subst h
      rw [put, if_pos rfl, hcons, hcons, if_pos List.mem_cons_self]
    · rw [put, if_neg h, hcons, hcons, keys_put key value rest]
      by_cases hmem : key ∈ keys rest
      · rw [if_pos hmem, if_pos (List.mem_cons_of_mem k hmem)]
      · rw [if_neg hmem, if_neg fun hin => (List.mem_cons.1 hin).elim (Ne.symm h) hmem, List.cons_append]

theorem mem_keys_put {key other : κ} {value : α} {t : List (κ × α)} :
    other ∈ keys (put key value t) ↔ other = key ∨ other ∈ keys t := by
  rw [keys_put]
  split
  · exact ⟨.inr, fun h => h.elim (fun heq => by rwa [heq]) id⟩
  · rw [List.mem_append, List.mem_singleton, or_comm]

theorem put_put (key : κ) (value first : α) : ∀ t : List (κ × α), put key value (put key first t) = put key value t
  | [] => by rw [put, put, put, if_pos rfl]
  | (k, v) :: rest => by
    by_cases h : k = key
    · rw [put, put, if_pos h, if_pos h, put, if_pos rfl]
    · rw [put, put, if_neg h, if_neg h, put, if_neg h, put_put key value first rest]

theorem erase_put (key : κ) (value : α) : ∀ t : List (κ × α), erase key (put key value t) = erase key t
  | [] => by rw [put, erase_cons_self]
  | (k, v) :: rest => by
    by_cases h : k = key
    · rw [put, if_pos h, h, erase_cons_self, erase_cons_self]
    · rw [put, if_neg h, erase_cons_of_ne h, erase_cons_of_ne h, erase_put key value rest]

theorem put_of_lookup_eq_some {key : κ} {value : α} : ∀ {t : List (κ × α)}, t.lookup key = some value →
    put key value t = t
  | (k, v) :: rest, hfound => by
    rw [List.lookup_cons] at hfound
    by_cases h : k = key
    · rw [h, BEq.rfl] at hfound
      rw [put, if_pos h, h, Option.some.inj hfound]
    · rw [beq_false_of_ne (Ne.symm h)] at hfound
      rw [put, if_neg h, put_of_lookup_eq_some hfound]

theorem erase_of_not_mem {key : κ} {t : List (κ × α)} (h : key ∉ keys t) : erase key t = t :=
  List.filter_eq_self.2 fun _ he => decide_eq_true fun heq => h (heq ▸ List.mem_map_of_mem he)

end Table
end FlowBundle
