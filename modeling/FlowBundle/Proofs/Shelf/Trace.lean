import FlowBundle.Proofs.Shelf.Capacity
/-!
# Traces of the shelf

A run of the shelf as a list of events.  A scope is entered by the registration of its archive and left by an event of
its own, and anything may stand in between, so that commands, in which scopes are nested, are a special case
(`runAll_eq_apply`).

What is on the shelf is a part of all that was ever put on it, in the order in which it came (`archives_applyAll`).
-/
namespace FlowBundle
namespace Shelf

inductive Event where
  | register (id : String) (content : Bytes) (filename : Option String)
  | get (handle : String)
  | release (handle : String)
  | leave (id : String) (brokenOff : Bool)

namespace Event

/-- A scope is left in the same way whether it is broken off or not. -/
def apply (s : Shelf) : Event → Shelf
  | register id content filename => (s.register id content filename).1
  | get _ => s
  | release handle => (s.release handle).1
  | leave id _ => (s.release id).1

def applyAll (s : Shelf) (es : List Event) : Shelf := es.foldl apply s

/-- What an event puts on the shelf. -/
def added (s : Shelf) : Event → List (String × Stored)
  | register id content filename => [(id, ⟨s.filenameOr filename, content⟩)]
  | get _ | release _ | leave .. => []

def addedIds : Event → List String
  | register id .. => [id]
  | get _ | release _ | leave .. => []

/-- **The ids of all archives that are registered**, in the order in which they come. -/
def registered (es : List Event) : List String := es.flatMap addedIds

/-- The archive is released, or its scope is left. -/
def takesOff (id : String) : Event → Bool
  | release handle | leave handle _ => idOfHandle handle == id
  | register .. | get _ => false

theorem keys_added (s : Shelf) (e : Event) : Table.keys (e.added s) = e.addedIds := by
  cases e <;> rfl

theorem keys_flatMap_added (s : Shelf) : ∀ es : List Event, Table.keys (es.flatMap (added s)) = registered es
  | [] => rfl
  | e :: es => by
    have ih := keys_flatMap_added s es
    rw [Table.keys] at ih
    rw [List.flatMap_cons, Table.keys, List.map_append, ih, ← Table.keys, keys_added, registered, registered,
      List.flatMap_cons]

theorem registered_append (es es' : List Event) : registered (es ++ es') = registered es ++ registered es' :=
  List.flatMap_append

theorem applyAll_append (s : Shelf) (es es' : List Event) : applyAll s (es ++ es') = applyAll (applyAll s es) es' :=
  List.foldl_append

@[simp] theorem capacity_apply (s : Shelf) (e : Event) : (apply s e).capacity = s.capacity := by
  cases e <;> rfl

@[simp] theorem filename_apply (s : Shelf) (e : Event) : (apply s e).filename = s.filename := by
  cases e <;> rfl

theorem added_apply (s : Shelf) (e : Event) : added (apply s e) = added s := by
  funext e'
  cases e' with
  | register id content filename => simp only [added, filenameOr, filename_apply]
  | get | release | leave => rfl

theorem withinCapacity_apply {s : Shelf} (h : s.WithinCapacity) (e : Event) : (apply s e).WithinCapacity := by
  cases e with
  | register id content filename => exact withinCapacity_register s id content filename
  | get => exact h
  | release handle => exact withinCapacity_release h handle
  | leave id => exact withinCapacity_release h id

/-- **One event leaves a part of what was there and of what it adds**, in the same order. -/
theorem archives_apply {s : Shelf} {e : Event} (hnew : ∀ id ∈ e.addedIds, id ∉ Table.keys s.archives) :
    (apply s e).archives.Sublist (s.archives ++ e.added s) := by
  cases e with
  | register id content filename =>
    rw [added, ← Table.put_of_not_mem _ _ (hnew id List.mem_cons_self)]
    exact List.drop_sublist _ _
  | get => exact List.sublist_append_left _ _
  | release | leave => exact List.filter_sublist.trans (List.sublist_append_left _ _)

/-! ## A whole run -/

theorem capacity_applyAll : ∀ (es : List Event) (s : Shelf), (applyAll s es).capacity = s.capacity
  | [], _ => rfl
  | e :: es, s => (capacity_applyAll es (apply s e)).trans (capacity_apply s e)

theorem withinCapacity_applyAll : ∀ (es : List Event) {s : Shelf}, s.WithinCapacity → (applyAll s es).WithinCapacity
  | [], _, h => h
  | e :: es, _, h => withinCapacity_applyAll es (withinCapacity_apply h e)

/-- **The shelf holds a part of all that was ever put on it, in the order in which it came**, if no id comes twice. -/
theorem archives_applyAll : ∀ (es : List Event) {s : Shelf}, (Table.keys s.archives ++ registered es).Nodup →
    (applyAll s es).archives.Sublist (s.archives ++ es.flatMap (added s))
  | [], s, _ => by
    rw [List.flatMap_nil, List.append_nil]
    exact List.Sublist.refl _
  | e :: es, s, hnodup => by
    rw [registered, List.flatMap_cons, ← registered, ← List.append_assoc] at hnodup
    have hnew : ∀ id ∈ e.addedIds, id ∉ Table.keys s.archives := fun id hid hmem =>
      (List.nodup_append.1 (List.nodup_append.1 hnodup).1).2.2 id hmem id hid rfl
    have hstep := archives_apply hnew
    have hkeys : (Table.keys (apply s e).archives).Sublist (Table.keys s.archives ++ e.addedIds) := by
      rw [← keys_added s e, Table.keys, Table.keys, Table.keys, ← List.map_append]
      exact hstep.map _
    have hrest := archives_applyAll es (hnodup.sublist (hkeys.append_right _))
    rw [added_apply] at hrest
    rw [List.flatMap_cons, ← List.append_assoc]
    exact hrest.trans (hstep.append_right _)

end Event

/-! ## Commands are traces -/

mutual
def Command.events : Command → List Event
  | .register id content filename => [.register id content filename]
  | .get handle => [.get handle]
  | .release handle => [.release handle]
  | .count => []
  | .scoped id content filename inner brokenOff =>
    .register id content filename :: (Command.eventsOfAll inner ++ [.leave id brokenOff])

def Command.eventsOfAll : List Command → List Event
  | [] => []
  | c :: cs => Command.events c ++ Command.eventsOfAll cs
end

mutual
theorem run_eq_apply : ∀ (c : Command) (s : Shelf), (s.run c).1 = Event.applyAll s c.events
  | .register id content filename, s => by rw [run]; rfl
  | .get handle, s => by rw [run]; rfl
  | .release handle, s => by rw [run]; rfl
  | .count, s => by rw [run]; rfl
  | .scoped id content filename inner brokenOff, s => by
    have hinner := runAll_eq_apply inner (s.register id content filename).1
    rw [run, Command.events, ← List.cons_append, Event.applyAll_append]
    simp only [hinner]
    rfl

/-- **A run of commands is the run of their events.** -/
theorem runAll_eq_apply : ∀ (cs : List Command) (s : Shelf),
    (s.runAll cs).1 = Event.applyAll s (Command.eventsOfAll cs)
  | [], s => by rw [runAll]; rfl
  | c :: cs, s => by
    rw [runAll, Command.eventsOfAll, Event.applyAll_append, ← run_eq_apply c s]
    exact runAll_eq_apply cs _
end

end Shelf
end FlowBundle
