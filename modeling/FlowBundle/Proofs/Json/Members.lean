import FlowBundle.Proofs.Json.Readable
/-!
# Members of readable objects

An object is often taken apart into known members and the rest, and put together again.  Looking up, leaving out and
putting side by side keep what makes an object readable.
-/
namespace FlowBundle
namespace Json
namespace Members

structure Readable (ms : Members) : Prop where
  nodup : (Table.keys ms).Nodup
  readable : ∀ m ∈ ms, m.2.Readable

theorem readable_of_obj {ms : Members} (h : (Value.obj ms).Readable) : ms.Readable := by
  cases h with
  | obj hkeys h => exact ⟨hkeys, h⟩

theorem Readable.obj {ms : Members} (h : ms.Readable) : (Value.obj ms).Readable := .obj h.nodup h.readable

theorem mem_of_get? {ms : Members} {key : String} {v : Value} (h : ms.get? key = some v) : (key, v) ∈ ms := by
  obtain ⟨l, r, rfl, -⟩ := List.lookup_eq_some_iff.1 h
  exact List.mem_append_right l List.mem_cons_self

theorem Readable.get? {ms : Members} (h : ms.Readable) {key : String} {v : Value} (hv : ms.get? key = some v) :
    v.Readable :=
  h.readable (key, v) (mem_of_get? hv)

theorem get?_of_not_mem {ms : Members} {key : String} (h : key ∉ Table.keys ms) : ms.get? key = none :=
  Table.lookup_of_not_mem ms h

theorem Readable.without {ms : Members} (h : ms.Readable) (keys : List String) : (ms.without keys).Readable :=
  ⟨h.nodup.sublist (List.filter_sublist.map _), fun m hm => h.readable m (List.mem_filter.1 hm).1⟩

theorem not_mem_keys_without {ms : Members} {keys : List String} {key : String} (h : key ∈ keys) :
    key ∉ Table.keys (ms.without keys) := by
  intro hmem
  obtain ⟨m, hm, rfl⟩ := List.mem_map.1 hmem
  have hkept := (List.mem_filter.1 hm).2
  rw [List.contains_iff_mem.2 h] at hkept
  cases hkept

theorem without_append {front back : Members} {keys : List String} (hfront : ∀ key ∈ Table.keys front, key ∈ keys)
    (hback : ∀ key ∈ keys, key ∉ Table.keys back) : without keys (front ++ back) = back := by
  have hgone : front.filter (fun m => !keys.contains m.1) = [] := by
    refine List.filter_eq_nil_iff.2 fun m hm hkept => ?_
    rw [List.contains_iff_mem.2 (hfront m.1 (List.mem_map_of_mem hm))] at hkept
    cases hkept
  have hkept : back.filter (fun m => !keys.contains m.1) = back := by
    refine List.filter_eq_self.2 fun m hm => ?_
    rw [Bool.not_eq_true', Bool.eq_false_iff]
    intro hin
    exact hback m.1 (List.contains_iff_mem.1 hin) (List.mem_map_of_mem hm)
  rw [without, List.filter_append, hgone, hkept, List.nil_append]

theorem Readable.append {front back : Members} (hfront : front.Readable) (hback : back.Readable)
    (hapart : ∀ key ∈ Table.keys front, key ∉ Table.keys back) : Readable (front ++ back) := by
  refine ⟨?_, fun m hm => ?_⟩
  · rw [Table.keys, List.map_append, List.nodup_append]
    refine ⟨hfront.nodup, hback.nodup, fun a ha b hb hab => ?_⟩
    exact hapart a ha (hab ▸ hb)
  · rcases List.mem_append.1 hm with h | h
    · exact hfront.readable m h
    · exact hback.readable m h

end Members
end Json
end FlowBundle
