/-!
# Tables

A table is a list of keys with their values, in the order in which the keys came in.  A key stands
in it once if every value got in by `put`.  Looking up is the list look-up of the library.
-/
namespace FlowBundle
namespace Table

/-- **A value set**: a key that is there keeps its place and gets the new value, a new key goes to
the end. -/
def put {κ α : Type} [DecidableEq κ] (key : κ) (value : α) : List (κ × α) → List (κ × α)
  | [] => [(key, value)]
  | (k, v) :: rest => if k = key then (key, value) :: rest else (k, v) :: put key value rest

def erase {κ α : Type} [DecidableEq κ] (key : κ) (t : List (κ × α)) : List (κ × α) :=
  t.filter fun e => decide (e.1 ≠ key)

def keys {κ α : Type} (t : List (κ × α)) : List κ := t.map (·.1)

theorem lookup_put_self {κ α : Type} [DecidableEq κ] (key : κ) (value : α) :
    ∀ t : List (κ × α), (put key value t).lookup key = some value
  | [] => by simp [put]
  | (k, v) :: rest => by
    by_cases h : k = key
    · simp [put, h]
    · simp [put, h, List.lookup_cons, lookup_put_self key value rest, beq_false_of_ne (Ne.symm h)]

theorem lookup_put_of_ne {κ α : Type} [DecidableEq κ] {key other : κ} (value : α) (hne : other ≠ key) :
    ∀ t : List (κ × α), (put key value t).lookup other = t.lookup other
  | [] => by simp [put, List.lookup_cons, beq_false_of_ne hne]
  | (k, v) :: rest => by
    by_cases h : k = key
    · subst h
      simp [put, List.lookup_cons, beq_false_of_ne hne]
    · simp [put, h, List.lookup_cons, lookup_put_of_ne value hne rest]

theorem put_of_not_mem {κ α : Type} [DecidableEq κ] {key : κ} (value : α) :
    ∀ t : List (κ × α), key ∉ keys t → put key value t = t ++ [(key, value)]
  | [], _ => rfl
  | (k, v) :: rest, h => by
    rw [keys, List.map_cons, List.mem_cons, not_or] at h
    rw [put, if_neg (Ne.symm h.1), put_of_not_mem value rest h.2, List.cons_append]

theorem mem_put {κ α : Type} [DecidableEq κ] {key : κ} {value : α} {e : κ × α} :
    ∀ {t : List (κ × α)}, e ∈ put key value t → e = (key, value) ∨ e ∈ t
  | [], h => .inl (List.mem_singleton.1 h)
  | (k, v) :: rest, h => by
    rw [put] at h
    split at h
    · rcases List.mem_cons.1 h with rfl | h
      · exact .inl rfl
      · exact .inr (List.mem_cons_of_mem _ h)
    · rcases List.mem_cons.1 h with rfl | h
      · exact .inr List.mem_cons_self
      · rcases mem_put h with he | he
        · exact .inl he
        · exact .inr (List.mem_cons_of_mem _ he)

/-- A key stands in a table once if every value got in by `put`. -/
theorem nodup_keys_put {κ α : Type} [DecidableEq κ] (key : κ) (value : α) :
    ∀ {t : List (κ × α)}, (keys t).Nodup → (keys (put key value t)).Nodup
  | [], _ => List.nodup_cons.2 ⟨List.not_mem_nil, List.nodup_nil⟩
  | (k, v) :: rest, h => by
    have hcons := List.nodup_cons.1 h
    rw [put]
    split
    · rename_i hk
      exact hk ▸ h
    · rename_i hk
      refine List.nodup_cons.2 ⟨fun hmem => ?_, nodup_keys_put key value hcons.2⟩
      obtain ⟨e, he, hek⟩ := List.mem_map.1 hmem
      rcases mem_put he with rfl | he
      · exact hk hek.symm
      · exact hcons.1 (List.mem_map.2 ⟨e, he, hek⟩)

theorem lookup_of_not_mem {κ α : Type} [DecidableEq κ] {key : κ} :
    ∀ t : List (κ × α), key ∉ keys t → t.lookup key = none
  | [], _ => rfl
  | (k, v) :: rest, h => by
    rw [keys, List.map_cons, List.mem_cons, not_or] at h
    rw [List.lookup_cons, beq_false_of_ne h.1, lookup_of_not_mem rest h.2]

theorem erase_cons_self {κ α : Type} [DecidableEq κ] (key : κ) (v : α) (t : List (κ × α)) :
    erase key ((key, v) :: t) = erase key t := by
  simp [erase]

theorem erase_cons_of_ne {κ α : Type} [DecidableEq κ] {key k : κ} (h : k ≠ key) (v : α) (t : List (κ × α)) :
    erase key ((k, v) :: t) = (k, v) :: erase key t := by
  simp [erase, h]

theorem lookup_erase_self {κ α : Type} [DecidableEq κ] (key : κ) :
    ∀ t : List (κ × α), (erase key t).lookup key = none
  | [] => rfl
  | (k, v) :: rest => by
    by_cases h : k = key
    · rw [h, erase_cons_self, lookup_erase_self key rest]
    · rw [erase_cons_of_ne h, List.lookup_cons, beq_false_of_ne (Ne.symm h), lookup_erase_self key rest]

theorem lookup_erase_of_ne {κ α : Type} [DecidableEq κ] {key other : κ} (hne : other ≠ key) :
    ∀ t : List (κ × α), (erase key t).lookup other = t.lookup other
  | [] => rfl
  | (k, v) :: rest => by
    by_cases h : k = key
    · rw [h, erase_cons_self, lookup_erase_of_ne hne rest, List.lookup_cons, beq_false_of_ne hne]
    · rw [erase_cons_of_ne h, List.lookup_cons, List.lookup_cons, lookup_erase_of_ne hne rest]

end Table
end FlowBundle
