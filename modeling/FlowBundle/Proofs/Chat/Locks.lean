import FlowBundle.Proofs.Chat.Window
import FlowBundle.Proofs.Table
/-!
# Locks and histories go together

Between two events of a run a session has a lock if and only if it has a history, the lock counts the one user who has a
scope open, and no history is longer than the limit unless its scope is open (`Tidy`).  An operation takes the lock of
its session before anything else and gives it back as the last thing; how the locks stand then depends on the
sessions that have a history by then, and on nothing else (`release_acquire`).
-/
namespace FlowBundle
namespace Chat

open Histories (newest)

/-- **The locks of some sessions**: one user each, if a scope is open, else none. -/
def lockTable (opened sessions : List String) : List (String × Nat) :=
  sessions.map fun s => (s, if opened.contains s then 1 else 0)

theorem keys_lockTable (opened sessions : List String) : Table.keys (lockTable opened sessions) = sessions := by
  rw [Table.keys, lockTable, List.map_map]
  exact List.map_id _

theorem lookup_lockTable (opened : List String) {s : String} : ∀ {sessions : List String}, s ∈ sessions →
    (lockTable opened sessions).lookup s = some (if opened.contains s then 1 else 0)
  | t :: sessions, hmem => by
    rw [lockTable, List.map_cons, ← lockTable, List.lookup_cons]
    by_cases h : s = t
    · rw [h, BEq.rfl]
    · rw [beq_false_of_ne h]
      exact lookup_lockTable opened ((List.mem_cons.1 hmem).resolve_left h)

theorem lockTable_congr {opened opened' sessions : List String}
    (h : ∀ s ∈ sessions, opened'.contains s = opened.contains s) :
    lockTable opened' sessions = lockTable opened sessions :=
  List.map_congr_left fun s hs => by rw [h s hs]

/-- **One lock set to what it has to be** when other scopes are open, and the others left as they are. -/
theorem put_lockTable {opened opened' : List String} {s : String}
    (hothers : ∀ t, t ≠ s → opened'.contains t = opened.contains t) : ∀ {sessions : List String}, sessions.Nodup →
    Table.put s (if opened'.contains s then 1 else 0) (lockTable opened sessions) =
      lockTable opened' (if s ∈ sessions then sessions else sessions ++ [s])
  | [], _ => rfl
  | t :: sessions, hnodup => by
    have hcons := List.nodup_cons.1 hnodup
    rw [lockTable, List.map_cons, Table.put, ← lockTable]
    by_cases h : t = s
    · subst h
      have hrest : lockTable opened' sessions = lockTable opened sessions :=
        lockTable_congr fun u hu => hothers u fun heq => hcons.1 (heq ▸ hu)
      rw [if_pos rfl, if_pos List.mem_cons_self, ← hrest]
      rfl
    · rw [if_neg h, put_lockTable hothers hcons.2, ← hothers t h]
      by_cases hmem : s ∈ sessions
      · rw [if_pos hmem, if_pos (List.mem_cons_of_mem t hmem)]
        rfl
      · rw [if_neg hmem, if_neg fun hin => (List.mem_cons.1 hin).elim (Ne.symm h) hmem]
        rfl

theorem erase_lockTable (opened : List String) (s : String) (sessions : List String) :
    Table.erase s (lockTable opened sessions) = lockTable opened (sessions.filter fun t => decide (t ≠ s)) :=
  List.filter_map

namespace Histories

variable {h : Histories} {s : String}

/-- **A lock taken and given back**, whatever happened to the histories in between. -/
theorem release_acquire (table : List (String × List Message)) :
    ({ h.acquire s with table := table } : Histories).release s =
      { h with
        table := table,
        locks := if h.users s = 0 ∧ (table.lookup s).isSome = false then Table.erase s h.locks
          else Table.put s (h.users s) h.locks } := by
  have husers : ({ h.acquire s with table := table } : Histories).users s = h.users s + 1 := by
    rw [users, acquire, Table.lookup_put_self, Option.getD_some]
  rw [release, husers, Nat.add_sub_cancel]
  show (if h.users s = 0 ∧ (table.lookup s).isSome = false then _ else _) = _
  split
  · exact congrArg (fun locks => ({ h with table := table, locks := locks } : Histories)) (Table.erase_put s _ _)
  · exact congrArg (fun locks => ({ h with table := table, locks := locks } : Histories)) (Table.put_put s _ _ _)

/-- **Taking a lock and giving it back changes nothing**, where locks and histories go together. -/
theorem release_acquire_self (hkeys : Table.keys h.locks = Table.keys h.table) : (h.acquire s).release s = h := by
  refine (release_acquire h.table).trans ?_
  by_cases hmem : s ∈ Table.keys h.table
  · have hhas : (h.table.lookup s).isSome = true := Table.isSome_lookup_iff.2 hmem
    obtain ⟨n, hn⟩ := Option.isSome_iff_exists.1 (Table.isSome_lookup_iff.2 (hkeys ▸ hmem))
    rw [if_neg fun hlast => by simp [hhas] at hlast, users, hn, Option.getD_some, Table.put_of_lookup_eq_some hn]
  · rw [users, Table.lookup_of_not_mem _ (hkeys ▸ hmem), Table.lookup_of_not_mem _ hmem,
      if_pos ⟨Option.getD_none, Option.isSome_none⟩, Table.erase_of_not_mem (hkeys ▸ hmem)]

theorem fst_messages (hkeys : Table.keys h.locks = Table.keys h.table) : (h.messages s).1 = h :=
  release_acquire_self hkeys

theorem within_eq_release {α : Type} (s : String) (change : List Message → List Message × α) :
    ∃ ms, (h.within s change).1 = ({ h.acquire s with table := Table.put s ms h.table } : Histories).release s :=
  -- The history is written when the scope opens, when it is changed and when it is cut; the last one stands.
  ⟨_, congrArg (fun table => ({ h.acquire s with table := table } : Histories).release s)
    ((Table.put_put s _ _ _).trans (Table.put_put s _ _ _))⟩

theorem clear_of_has_eq_false (hkeys : Table.keys h.locks = Table.keys h.table) (hhas : h.has s = false) :
    h.clear s = h := by
  have hheld : (h.acquire s).has s = false := hhas
  rw [clear, hheld]
  exact release_acquire_self hkeys

theorem forget_of_has_eq_false (hkeys : Table.keys h.locks = Table.keys h.table) (hhas : h.has s = false) :
    h.forget s = h := by
  have hmem : s ∉ Table.keys h.table := fun hmem => by
    rw [has, Table.isSome_lookup_iff.2 hmem] at hhas
    cases hhas
  have hsame : Table.erase s h.table = h.table := Table.erase_of_not_mem hmem
  refine Eq.trans ?_ (release_acquire_self (s := s) hkeys)
  exact congrArg (fun table => ({ h.acquire s with table := table } : Histories).release s) hsame

end Histories

/-- **Locks and histories go together** while scopes on some sessions are open. -/
structure Paired (opened : List String) (h : Histories) : Prop where
  locks : h.locks = lockTable opened (Table.keys h.table)
  nodup : (Table.keys h.table).Nodup
  held : ∀ s, opened.contains s = true → s ∈ Table.keys h.table

namespace Paired

variable {opened : List String} {h : Histories} {s : String}

theorem keys_locks (hp : Paired opened h) : Table.keys h.locks = Table.keys h.table := by
  rw [hp.locks, keys_lockTable]

theorem users_eq (hp : Paired opened h) (s : String) : h.users s = if opened.contains s then 1 else 0 := by
  rw [Histories.users, hp.locks]
  by_cases hmem : s ∈ Table.keys h.table
  · rw [lookup_lockTable opened hmem, Option.getD_some]
  · rw [Table.lookup_of_not_mem _ (by rwa [keys_lockTable]), if_neg fun hopen => hmem (hp.held s hopen)]
    rfl

/-- **An operation on a session without an open scope** leaves it with its history, or without. -/
theorem of_release (hp : Paired opened h) (hs : opened.contains s = false) {table : List (String × List Message)}
    (htable : Table.keys table = Table.keys (Table.put s [] h.table) ∨
      Table.keys table = Table.keys (Table.erase s h.table)) :
    Paired opened (({ h.acquire s with table := table } : Histories).release s) := by
  have husers : h.users s = 0 := by rw [hp.users_eq, hs]; rfl
  rw [Histories.release_acquire]
  -- The lock stays if the session has a history by now, and goes if it has none.
  rcases htable with hput | herase
  · have hmem : s ∈ Table.keys table := hput ▸ Table.mem_keys_put.2 (.inl rfl)
    have hhas : (table.lookup s).isSome = true := Table.isSome_lookup_iff.2 hmem
    refine ⟨?_, ?_, ?_⟩
    · have hset := put_lockTable (s := s) (fun _ _ => rfl : ∀ t, t ≠ s → opened.contains t = opened.contains t) hp.nodup
      rw [hs] at hset
      rw [if_neg fun hlast => by simp [hhas] at hlast, husers, hput, Table.keys_put, hp.locks]
      exact hset
    · show (Table.keys table).Nodup
      rw [hput]
      exact Table.nodup_keys_put s [] hp.nodup
    · intro t ht
      show t ∈ Table.keys table
      exact hput ▸ Table.mem_keys_put.2 (.inr (hp.held t ht))
  · have hmem : s ∉ Table.keys table := by simp [herase, Table.keys_erase]
    refine ⟨?_, ?_, ?_⟩
    · rw [husers, Table.lookup_of_not_mem _ hmem, if_pos ⟨rfl, Option.isSome_none⟩, hp.locks, erase_lockTable, herase,
        Table.keys_erase]
    · show (Table.keys table).Nodup
      rw [herase, Table.keys_erase]
      exact hp.nodup.sublist List.filter_sublist
    · intro t ht
      show t ∈ Table.keys table
      rw [herase, Table.keys_erase, List.mem_filter, decide_eq_true_iff]
      refine ⟨hp.held t ht, ?_⟩
      rintro rfl
      rw [ht] at hs
      cases hs

theorem keys_put_of_open (hp : Paired opened h) (hs : opened.contains s = true) (ms : List Message) :
    Table.keys (Table.put s ms h.table) = Table.keys h.table := by
  rw [Table.keys_put, if_pos (hp.held s hs)]

theorem append (hp : Paired opened h) (hs : opened.contains s = false) (drafts : List Draft) :
    Paired opened (h.append s drafts).1 := by
  obtain ⟨ms, hone⟩ := Histories.within_eq_release (h := h) s fun ms =>
    (ms ++ (Draft.acceptAll drafts).1, (Draft.acceptAll drafts).2)
  rw [Histories.append, hone]
  exact hp.of_release hs (.inl ((Table.keys_put s ms _).trans (Table.keys_put s [] _).symm))

theorem messages (hp : Paired opened h) (s : String) : Paired opened (h.messages s).1 := by
  rwa [Histories.fst_messages hp.keys_locks]

theorem clear (hp : Paired opened h) (hs : opened.contains s = false) : Paired opened (h.clear s) := by
  cases hhas : h.has s with
  | false => rwa [Histories.clear_of_has_eq_false hp.keys_locks hhas]
  | true =>
    have hheld : (h.acquire s).has s = true := hhas
    rw [Histories.clear, hheld]
    exact hp.of_release hs (.inl rfl)

theorem forget (hp : Paired opened h) (hs : opened.contains s = false) : Paired opened (h.forget s) :=
  hp.of_release hs (.inr rfl)

theorem enter (hp : Paired opened h) (hs : opened.contains s = false) : Paired (s :: opened) (h.opened s) := by
  have hothers : ∀ t, t ≠ s → (s :: opened).contains t = opened.contains t := fun t ht => by
    rw [List.contains_cons, beq_false_of_ne ht, Bool.false_or]
  have hset := put_lockTable hothers hp.nodup
  rw [List.contains_cons, BEq.rfl, Bool.true_or, if_pos rfl, ← hp.locks, ← Table.keys_put s (h.history s)] at hset
  have husers : h.users s = 0 := by rw [hp.users_eq, hs]; rfl
  refine ⟨?_, Table.nodup_keys_put s _ hp.nodup, fun t ht => Table.mem_keys_put.2 ?_⟩
  · show Table.put s (h.users s + 1) h.locks = _
    rw [husers, hset]
    rfl
  · rw [List.contains_cons, Bool.or_eq_true, beq_iff_eq] at ht
    exact ht.imp_right (hp.held t)

theorem setHistory (hp : Paired opened h) (hs : opened.contains s = true) (ms : List Message) :
    Paired opened (h.setHistory s ms) := by
  have hkeys := hp.keys_put_of_open hs ms
  exact ⟨hp.locks.trans (congrArg (lockTable opened) hkeys.symm), hkeys ▸ hp.nodup, fun t ht => hkeys ▸ hp.held t ht⟩

theorem leave (hp : Paired opened h) (hs : opened.contains s = true) :
    Paired (opened.filter (· != s)) (h.closed s) := by
  have hothers : ∀ t, t ≠ s → (opened.filter (· != s)).contains t = opened.contains t := fun t ht => by
    rw [Bool.eq_iff_iff]
    simp [ht]
  have hcut := hp.setHistory hs (newest h.limit (h.history s))
  rw [Histories.closed]
  generalize h.setHistory s (newest h.limit (h.history s)) = h' at hcut
  have hmem : s ∈ Table.keys h'.table := hcut.held s hs
  have husers : h'.users s = 1 := by rw [hcut.users_eq, hs]; rfl
  have hhas : h'.has s = true := Table.isSome_lookup_iff.2 hmem
  have hset := put_lockTable hothers hcut.nodup
  rw [if_pos hmem, ← hcut.locks] at hset
  rw [Histories.release, if_neg fun hlast => by simp [hhas] at hlast, husers]
  refine ⟨?_, hcut.nodup, fun t ht => hcut.held t ?_⟩
  · refine Eq.trans (congrArg (fun n => Table.put s n h'.locks) ?_) hset
    simp
  · simp at ht
    simp [ht.1]

theorem apply (hp : Paired opened h) {e : Event} (hcan : e.canHappen opened = true) :
    Paired (e.openAfter opened) (e.apply h) := by
  have hin : opened.contains e.session = e.isInside := beq_iff_eq.1 hcan
  cases e with
  | exchange s user assistant => exact hp.append hin _
  | read s => exact hp.messages s
  | clear s => exact hp.clear hin
  | forget s => exact hp.forget hin
  | enter s => exact hp.enter hin
  | say s ms => exact hp.setHistory hin _
  | change s f => exact hp.setHistory hin _
  | leave s brokenOff => exact hp.leave hin

end Paired

/-- **How a run leaves locks and histories**: they go together, and only an open scope has a history over the limit. -/
structure Tidy (opened : List String) (h : Histories) : Prop extends Paired opened h where
  short : ∀ s, opened.contains s = false → (h.history s).length ≤ h.limit

theorem Tidy.apply {opened : List String} {h : Histories} (ht : Tidy opened h) {e : Event}
    (hcan : e.canHappen opened = true) : Tidy (e.openAfter opened) (e.apply h) := by
  refine ⟨ht.toPaired.apply hcan, fun s hs => ?_⟩
  rw [Event.limit_apply]
  by_cases hself : s = e.session
  case neg =>
    rw [Event.contains_openAfter_of_ne opened hself] at hs
    rw [Event.history_apply_of_ne h hself]
    exact ht.short s hs
  have hin : opened.contains s = e.isInside := by rw [hself]; exact beq_iff_eq.1 hcan
  have hcut : ∀ ms : List Message, (newest h.limit ms).length ≤ h.limit := fun ms => by
    rw [Histories.length_newest]
    exact Nat.min_le_left _ _
  cases e with
  | exchange t user assistant =>
    obtain rfl : s = t := hself
    rw [Event.apply, Histories.history_append_self]
    exact hcut _
  | read t =>
    rw [Event.apply, Histories.history_messages]
    exact ht.short s hin
  | clear t =>
    obtain rfl : s = t := hself
    rw [Event.apply, Histories.history_clear_self]
    exact Nat.zero_le _
  | forget t =>
    obtain rfl : s = t := hself
    rw [Event.apply, Histories.history_forget_self]
    exact Nat.zero_le _
  | enter t =>
    obtain rfl : s = t := hself
    simp [Event.openAfter] at hs
  | say | change => cases hin.symm.trans hs
  | leave t brokenOff =>
    obtain rfl : s = t := hself
    rw [Event.apply, Histories.history_closed_self]
    exact hcut _

theorem Tidy.applyAll : ∀ (es : List Event) {opened : List String} {h : Histories}, Tidy opened h →
    Event.legalFrom opened es = true → Tidy (es.foldl Event.openAfter opened) (Event.applyAll h es)
  | [], _, _, ht, _ => ht
  | e :: es, _, _, ht, hlegal => by
    rw [Event.legalFrom, Bool.and_eq_true] at hlegal
    exact Tidy.applyAll es (ht.apply hlegal.1) hlegal.2

theorem tidy_fresh (limit : Nat) (hlimit : 2 ≤ limit) : Tidy [] (Histories.fresh limit hlimit) where
  locks := rfl
  nodup := List.nodup_nil
  held := fun _ hs => by cases hs
  short := fun _ _ => Nat.zero_le _

/-- **What can be seen of a run's histories and locks**, with scopes on some sessions open at its end. -/
structure Consistent (limit : Nat) (opened : List String) (h : Histories) : Prop where
  short : ∀ s, opened.contains s = false → (h.messages s).2.length ≤ limit
  locked : ∀ s, s ∈ Table.keys h.locks ↔ s ∈ h.sessions
  lockCount_eq : h.lockCount = h.sessions.length
  users_eq : ∀ s n, (s, n) ∈ h.locks → n = if opened.contains s then 1 else 0
  held : ∀ s, opened.contains s = true → (s, 1) ∈ h.locks
  read : ∀ s, (h.messages s).1 = h
  unknown : ∀ s, s ∉ h.sessions → h.clear s = h ∧ h.forget s = h

theorem Histories.mem_sessions_iff {h : Histories} {s : String} : s ∈ h.sessions ↔ s ∈ Table.keys h.table :=
  List.mem_mergeSort

theorem Tidy.consistent {opened : List String} {h : Histories} (ht : Tidy opened h) :
    Consistent h.limit opened h where
  short := ht.short
  locked := fun s => by rw [Histories.mem_sessions_iff, ht.keys_locks]
  lockCount_eq := by
    rw [Histories.lockCount, ht.locks, lockTable, List.length_map, Histories.sessions, List.length_mergeSort]
  users_eq := fun s n hn => by
    rw [ht.locks] at hn
    obtain ⟨t, -, heq⟩ := List.mem_map.1 hn
    cases heq
    rfl
  held := fun s hs => by
    rw [ht.locks]
    exact List.mem_map.2 ⟨s, ht.toPaired.held s hs, by rw [hs]; rfl⟩
  read := fun _ => Histories.fst_messages ht.keys_locks
  unknown := fun s hs => by
    have hhas : h.has s = false := by
      rw [Histories.mem_sessions_iff, ← Table.isSome_lookup_iff] at hs
      exact Bool.eq_false_iff.2 hs
    exact ⟨Histories.clear_of_has_eq_false ht.keys_locks hhas, Histories.forget_of_has_eq_false ht.keys_locks hhas⟩

/-- **Every run keeps locks and histories together**, with any effects of the scopes on their own histories and any
overlaps between them; the same holds of the run of any commands whose events are such a run. -/
theorem consistent_of_legal {limit : Nat} (hlimit : 2 ≤ limit) {es : List Event} (hlegal : Event.legal es = true) :
    Consistent limit (Event.openAfterAll es) (Event.applyAll (Histories.fresh limit hlimit) es) ∧
    ∀ cs, Command.eventsOfAll cs = es →
      ((Histories.fresh limit hlimit).runAll cs).1 = Event.applyAll (Histories.fresh limit hlimit) es := by
  refine ⟨?_, fun cs hcs => by rw [Histories.runAll_eq_apply, hcs]⟩
  have hall := (Tidy.applyAll es (tidy_fresh limit hlimit) hlegal).consistent
  rwa [limit_applyAll, limit_fresh] at hall

/-- A refused answer, a scope that cuts its history and is broken off, and one that is still open. -/
def crossing : List Event :=
  [.exchange "a" (.str "1") .null, .enter "a", .read "b", .enter "b", .change "a" fun ms => ms.take 1, .clear "x",
    .say "b" [⟨.human, .text "2"⟩, ⟨.assistant, .text "3"⟩, ⟨.human, .text "4"⟩], .leave "a" true, .forget "y"]

theorem consistent_of_legal_crossing :
    Event.legal crossing = true ∧
    (∀ n, ("b", n) ∈ (Event.applyAll (Histories.fresh 2 (by decide)) crossing).locks → n = 1) ∧
    ((Event.applyAll (Histories.fresh 2 (by decide)) crossing).messages "a").2.length ≤ 2 :=
  have hall := (consistent_of_legal (by decide : 2 ≤ 2) (by decide : Event.legal crossing = true)).1
  ⟨by decide, hall.users_eq "b", hall.short "a" (by decide)⟩

end Chat
end FlowBundle
