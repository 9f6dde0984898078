import FlowBundle.Shelf.Command
/-!
# Room on the shelf

A shelf never holds more than its capacity.  On such a shelf a new id takes the place at the end, and only the oldest
archive may have to give way (`archives_register`); the handle of the new archive leads to it at once (`get?_register`).
-/
namespace FlowBundle
namespace Shelf

def WithinCapacity (s : Shelf) : Prop := s.size ≤ s.capacity

/-- **What stays when one archive more comes**: everything if there is room for it, else everything but the oldest. -/
def kept (s : Shelf) : List (String × Stored) := if s.size < s.capacity then s.archives else s.archives.tail

theorem length_newest_le (s : Shelf) (archives : List (String × Stored)) :
    (s.newest archives).length ≤ s.capacity := by
  rw [newest, List.length_drop]
  omega

theorem withinCapacity_register (s : Shelf) (id : String) (content : Bytes) (filename : Option String) :
    (s.register id content filename).1.WithinCapacity :=
  length_newest_le s _

theorem withinCapacity_release {s : Shelf} (h : s.WithinCapacity) (handle : String) :
    (s.release handle).1.WithinCapacity :=
  Nat.le_trans (List.length_filter_le _ _) h

theorem kept_sublist (s : Shelf) : s.kept.Sublist s.archives := by
  unfold kept
  split
  · exact List.Sublist.refl _
  · exact List.tail_sublist _

/-- **A new archive goes to the end, and at most the oldest one gives way.** -/
theorem archives_register {s : Shelf} (h : s.WithinCapacity) {id : String} (hid : id ∉ Table.keys s.archives)
    (content : Bytes) (filename : Option String) :
    (s.register id content filename).1 = { s with archives := s.kept ++ [(id, ⟨s.filenameOr filename, content⟩)] } := by
  show ({ s with archives := s.newest (Table.put id _ s.archives) } : Shelf) = _
  rw [Table.put_of_not_mem _ _ hid, newest, List.length_append, List.length_singleton]
  have hsize : s.size = s.archives.length := rfl
  have hcap : s.size ≤ s.capacity := h
  by_cases hroom : s.size < s.capacity
  · rw [kept, if_pos hroom, show s.archives.length + 1 - s.capacity = 0 by omega, List.drop_zero]
  · have hone := s.one_le_capacity
    rw [kept, if_neg hroom, show s.archives.length + 1 - s.capacity = 1 by omega,
      List.drop_append_of_le_length (by omega), List.drop_one]

theorem get?_register {s : Shelf} (h : s.WithinCapacity) {id : String} (hid : id ∉ Table.keys s.archives)
    (content : Bytes) (filename : Option String) :
    (s.register id content filename).1.get? (handleOf id) = some ⟨s.filenameOr filename, content⟩ := by
  have hkept : id ∉ Table.keys s.kept := fun hmem => hid (((kept_sublist s).map (·.1)).subset hmem)
  rw [archives_register h hid, get?, idOfHandle_handleOf, List.lookup_append, Table.lookup_of_not_mem _ hkept,
    Option.none_or, List.lookup_cons_self]

end Shelf
end FlowBundle
