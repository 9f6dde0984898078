import Mathlib.Data.List.Induction
import FlowBundle.Proofs.Shelf.Trace
import FlowBundle.Proofs.Table
/-!
# Which archives survive

An archive stays on the shelf until it is released, its scope is left, or as many younger archives as the shelf has
room for are on it when one more comes (`Survives`).  How many younger ones there are depends on everything that happens
in between, and is read off the shelf itself: the shelf lists what is left of the registered archives in the order of
their registration (`keys_applyAll`), so the younger ones are those behind (`mem_kept_iff`).
-/
namespace FlowBundle
namespace Shelf

open Event (applyAll registered)

/-- **Ids as they are generated**: none comes twice, and none begins like a handle, since all of them are made of
hexadecimal digits only. -/
structure AreIds (ids : List String) : Prop where
  nodup : ids.Nodup
  noHandle : ∀ id ∈ ids, handlePath.toList.isPrefixOf id.toList = false

theorem AreIds.sublist {ids ids' : List String} (h : AreIds ids') (hsub : ids.Sublist ids') : AreIds ids :=
  ⟨h.nodup.sublist hsub, fun id hid => h.noHandle id (hsub.subset hid)⟩

theorem AreIds.not_mem {ids ids' : List String} (h : AreIds (ids ++ ids')) {id : String} (hid : id ∈ ids) :
    id ∉ ids' := fun hid' =>
  (List.nodup_append.1 h.nodup).2.2 id hid id hid' rfl

theorem AreIds.before {es es' : List Event} (h : AreIds (registered (es ++ es'))) : AreIds (registered es) := by
  rw [Event.registered_append] at h
  exact h.sublist (List.sublist_append_left _ _)

theorem AreIds.idOfHandle_eq {ids : List String} (h : AreIds ids) {id : String} (hid : id ∈ ids) :
    idOfHandle id = id := by
  rw [idOfHandle, h.noHandle id hid]
  rfl

/-- **The archives that are registered in some events and on the shelf after them**, the oldest one first. -/
def live (s : Shelf) (es : List Event) : List String :=
  (registered es).filter fun id => ((applyAll s es).get? id).isSome

/-- **Nothing takes an archive away** that was the last one put on the shelf: it is not released, its scope is not left,
and whenever another one is registered, fewer younger archives than the shelf has room for are on it, the new one
counted. -/
structure Survives (s : Shelf) (id : String) (es : List Event) : Prop where
  notTakenOff : ∀ e ∈ es, e.takesOff id = false
  fewYounger : ∀ before new content filename after, es = before ++ .register new content filename :: after →
    (live s before).length + 1 < s.capacity

theorem survives_nil (s : Shelf) (id : String) : Survives s id [] :=
  ⟨fun _ he => absurd he List.not_mem_nil, fun _ _ _ _ _ h => absurd h.symm (by simp)⟩

theorem survives_concat_iff {s : Shelf} {id : String} {es : List Event} {e : Event} :
    Survives s id (es ++ [e]) ↔ Survives s id es ∧ e.takesOff id = false ∧
      ∀ new content filename, e = .register new content filename → (live s es).length + 1 < s.capacity := by
  constructor
  · intro h
    refine ⟨⟨fun e' he' => h.notTakenOff e' (List.mem_append_left _ he'), ?_⟩,
      h.notTakenOff e (List.mem_append_right _ List.mem_cons_self), ?_⟩
    · rintro before new content filename after rfl
      exact h.fewYounger before new content filename (after ++ [e]) (by simp)
    · rintro new content filename rfl
      exact h.fewYounger es new content filename [] rfl
  · rintro ⟨h, hlast, hfew⟩
    refine ⟨fun e' he' => ?_, fun before new content filename after hsplit => ?_⟩
    · rcases List.mem_append.1 he' with he' | he'
      · exact h.notTakenOff e' he'
      · rw [List.mem_singleton.1 he', hlast]
    · rcases List.eq_nil_or_concat after with rfl | ⟨front, last, rfl⟩
      · obtain ⟨rfl, hcons⟩ := List.append_inj' hsplit rfl
        exact hfew new content filename (List.cons.inj hcons).1
      · rw [List.concat_eq_append, ← List.cons_append, ← List.append_assoc] at hsplit
        exact h.fewYounger before new content filename front (List.append_inj' hsplit rfl).1

/-! ## The shelf in order -/

theorem filter_mem_of_sublist {ids part : List String} (hnodup : ids.Nodup) (hsub : part.Sublist ids) :
    (ids.filter fun id => decide (id ∈ part)) = part := by
  refine (List.Sublist.eq_of_length_le ?_ ?_).symm
  · have hpart := hsub.filter fun id => decide (id ∈ part)
    rwa [List.filter_eq_self.2 fun id hid => decide_eq_true hid] at hpart
  · refine (hnodup.sublist List.filter_sublist).length_le_of_subset fun id hid => ?_
    exact of_decide_eq_true (List.mem_filter.1 hid).2

theorem isSome_get?_iff {s : Shelf} {handle : String} :
    (s.get? handle).isSome = true ↔ idOfHandle handle ∈ Table.keys s.archives :=
  Table.isSome_lookup_iff

theorem keys_sublist {s : Shelf} {es : List Event} (h : AreIds (Table.keys s.archives ++ registered es)) :
    (Table.keys (applyAll s es).archives).Sublist (Table.keys s.archives ++ registered es) := by
  rw [← Event.keys_flatMap_added s, Table.keys, Table.keys, Table.keys, ← List.map_append]
  exact (Event.archives_applyAll es h.nodup).map _

/-- **The shelf lists what is left of the older archives, and behind it the live ones of the run**, in the order in
which they were registered. -/
theorem keys_applyAll {s : Shelf} {es : List Event} (h : AreIds (Table.keys s.archives ++ registered es)) :
    Table.keys (applyAll s es).archives =
      (Table.keys s.archives).filter (fun id => ((applyAll s es).get? id).isSome) ++ live s es := by
  have hlive : ∀ id ∈ Table.keys s.archives ++ registered es,
      ((applyAll s es).get? id).isSome = decide (id ∈ Table.keys (applyAll s es).archives) := fun id hid => by
    rw [Bool.eq_iff_iff, isSome_get?_iff, h.idOfHandle_eq hid, decide_eq_true_iff]
  rw [live, ← List.filter_append, List.filter_congr hlive, filter_mem_of_sublist h.nodup (keys_sublist h)]

/-- Behind an archive that was put on the shelf last, and is still there, stand the live ones of the run. -/
theorem keys_applyAll_of_mem {s : Shelf} {id : String} {older : List String}
    (hkeys : Table.keys s.archives = older ++ [id]) {es : List Event}
    (hids : AreIds (Table.keys s.archives ++ registered es)) (hmem : id ∈ Table.keys (applyAll s es).archives) :
    ∃ rest, Table.keys (applyAll s es).archives = rest ++ id :: live s es := by
  have hlive : ((applyAll s es).get? id).isSome = true := by
    rw [isSome_get?_iff, hids.idOfHandle_eq (by simp [hkeys])]
    exact hmem
  have hself : [id].filter (fun id => ((applyAll s es).get? id).isSome) = [id] := List.filter_cons_of_pos hlive
  refine ⟨older.filter fun id => ((applyAll s es).get? id).isSome, ?_⟩
  rw [keys_applyAll hids, hkeys, List.filter_append, hself, List.append_assoc, List.singleton_append]

/-! ## The run of one archive -/

/-- **An archive stays when another one comes, if fewer are younger than the shelf has room for**: there is room, or an
older one is there to give way. -/
theorem mem_kept_iff {s : Shelf} (h : s.WithinCapacity) {id : String} {older younger : List String}
    (hkeys : Table.keys s.archives = older ++ id :: younger) (hnodup : (Table.keys s.archives).Nodup) :
    id ∈ Table.keys s.kept ↔ younger.length + 1 < s.capacity := by
  have hsize : s.size = older.length + (younger.length + 1) := by
    rw [size, ← List.length_map (·.1), ← Table.keys, hkeys, List.length_append, List.length_cons]
  have hcapacity : s.size ≤ s.capacity := h
  by_cases hroom : s.size < s.capacity
  · rw [kept, if_pos hroom, hkeys]
    simp
    omega
  · rw [kept, if_neg hroom, Table.keys, List.map_tail, ← Table.keys, hkeys]
    cases older with
    | nil =>
      -- It is the oldest one itself that gives way.
      rw [hkeys] at hnodup
      have hgone : id ∉ younger := (List.nodup_cons.1 hnodup).1
      simp only [List.nil_append, List.tail_cons, hgone, false_iff, List.length_nil] at hsize ⊢
      omega
    | cons first older =>
      simp only [List.cons_append, List.tail_cons, List.length_cons] at hsize ⊢
      simp
      omega

theorem keys_register {s : Shelf} (h : s.WithinCapacity) {new : String} (hnew : new ∉ Table.keys s.archives)
    (content : Bytes) (filename : Option String) :
    Table.keys (s.register new content filename).1.archives = Table.keys s.kept ++ [new] := by
  rw [archives_register h hnew, Table.keys, Table.keys, List.map_append]
  rfl

theorem keys_apply_of_addedIds_eq_nil {s : Shelf} {e : Event} (hnone : e.addedIds = []) :
    Table.keys (Event.apply s e).archives = (Table.keys s.archives).filter fun id => !e.takesOff id := by
  have herase : ∀ handle, Table.keys (s.release handle).1.archives =
      (Table.keys s.archives).filter fun id => !(idOfHandle handle == id) := fun handle => by
    rw [release, Table.keys_erase]
    refine List.filter_congr fun id _ => ?_
    rw [Bool.eq_iff_iff, decide_eq_true_iff, Bool.not_eq_true', beq_eq_false_iff_ne]
    exact ne_comm
  cases e with
  | register => cases hnone
  | get handle => exact (List.filter_eq_self.2 fun _ _ => rfl).symm
  | release handle => exact herase handle
  | leave id brokenOff => exact herase id

/-- **An archive that was put on the shelf last is there after a run if and only if it survives the run.** -/
theorem mem_keys_applyAll_iff {s : Shelf} (h : s.WithinCapacity) {id : String} {older : List String}
    (hkeys : Table.keys s.archives = older ++ [id]) (es : List Event)
    (hids : AreIds (Table.keys s.archives ++ registered es)) :
    id ∈ Table.keys (applyAll s es).archives ↔ Survives s id es := by
  -- From the right: what the last event does depends on the shelf that the others have left.
  induction es using List.reverseRecOn with
  | nil =>
    have hmem : id ∈ Table.keys s.archives := by simp [hkeys]
    exact ⟨fun _ => survives_nil s id, fun _ => hmem⟩
  | append_singleton es e ih =>
    rw [Event.registered_append, ← List.append_assoc] at hids
    have hbefore := hids.sublist (List.sublist_append_left _ _)
    rw [survives_concat_iff, ← ih hbefore, Event.applyAll_append]
    have hcapacity := Event.withinCapacity_applyAll es h
    have hnodup := hbefore.nodup.sublist (keys_sublist hbefore)
    show id ∈ Table.keys (Event.apply (applyAll s es) e).archives ↔ _
    cases e with
    | get | release | leave =>
      rw [keys_apply_of_addedIds_eq_nil rfl, List.mem_filter]
      simp
    | register new content filename =>
      have hin : id ∈ Table.keys s.archives ++ registered es := by simp [hkeys]
      have hother : id ≠ new := fun heq => hids.not_mem hin (List.mem_singleton.2 heq)
      have hfresh : new ∉ Table.keys (applyAll s es).archives := fun hmem =>
        hids.not_mem ((keys_sublist hbefore).subset hmem) List.mem_cons_self
      rw [Event.apply, keys_register hcapacity hfresh, List.mem_append, List.mem_singleton, or_iff_left hother]
      by_cases hmem : id ∈ Table.keys (applyAll s es).archives
      · obtain ⟨rest, hall⟩ := keys_applyAll_of_mem hkeys hbefore hmem
        rw [mem_kept_iff hcapacity hall hnodup, Event.capacity_applyAll]
        simp [hmem, Event.takesOff]
      · have hgone : id ∉ Table.keys (applyAll s es).kept := fun hkept =>
          hmem (((kept_sublist _).map _).subset hkept)
        simp [hmem, hgone]

/-- **What is still there is as it was**: no run puts another archive in its place. -/
theorem lookup_applyAll {s : Shelf} {es : List Event} (hids : AreIds (Table.keys s.archives ++ registered es))
    {id : String} {stored : Stored} (hstored : s.archives.lookup id = some stored)
    (hmem : id ∈ Table.keys (applyAll s es).archives) : (applyAll s es).archives.lookup id = some stored := by
  obtain ⟨found, hfound⟩ := Option.isSome_iff_exists.1 (Table.isSome_lookup_iff.2 hmem)
  have hall := hids.nodup
  rw [← Event.keys_flatMap_added s, Table.keys, Table.keys, ← List.map_append] at hall
  have hsame := Table.lookup_of_sublist (Event.archives_applyAll es hids.nodup) hall hfound
  rw [List.lookup_append, hstored, Option.some_or] at hsame
  rw [hfound, hsame]

/-! ## A run on an empty shelf -/

section Empty

variable {s : Shelf} (hempty : s.archives = [])
include hempty

theorem keys_applyAll_of_empty {es : List Event} (hids : AreIds (registered es)) :
    Table.keys (applyAll s es).archives = live s es := by
  have hkeys : Table.keys s.archives = [] := by rw [hempty]; rfl
  rw [keys_applyAll (by rwa [hkeys, List.nil_append]), hkeys]
  rfl

theorem keys_sublist_of_empty {es : List Event} (hids : AreIds (registered es)) :
    (Table.keys (applyAll s es).archives).Sublist (registered es) := by
  rw [keys_applyAll_of_empty hempty hids]
  exact List.filter_sublist

theorem length_live {es : List Event} (hids : AreIds (registered es)) :
    (live s es).length = (applyAll s es).size := by
  rw [← keys_applyAll_of_empty hempty hids, Table.keys, List.length_map, size]

theorem withinCapacity_of_empty (es : List Event) : (applyAll s es).WithinCapacity :=
  Event.withinCapacity_applyAll es (by simp [WithinCapacity, size, hempty])

theorem not_mem_keys_applyAll {pre post : List Event} (hids : AreIds (registered (pre ++ post))) {id : String}
    (hid : id ∈ registered post) : id ∉ Table.keys (applyAll s pre).archives := fun hmem => by
  have hpre : id ∈ registered pre := (keys_sublist_of_empty hempty hids.before).subset hmem
  rw [Event.registered_append] at hids
  exact hids.not_mem hpre hid

theorem live_register {pre post : List Event} {id : String} {content : Bytes} {filename : Option String}
    (hids : AreIds (registered (pre ++ .register id content filename :: post))) :
    live s (pre ++ [.register id content filename]) =
      (if (live s pre).length < s.capacity then live s pre else (live s pre).tail) ++ [id] := by
  have hnew : id ∉ Table.keys (applyAll s pre).archives := not_mem_keys_applyAll hempty hids List.mem_cons_self
  have hpre := hids.before
  rw [← List.singleton_append, ← List.append_assoc] at hids
  have hkept : Table.keys (applyAll s pre).kept =
      if (live s pre).length < s.capacity then live s pre else (live s pre).tail := by
    rw [kept, length_live hempty hpre, ← keys_applyAll_of_empty hempty hpre, Event.capacity_applyAll]
    split
    · rfl
    · exact List.map_tail
  rw [← hkept, ← keys_register (withinCapacity_of_empty hempty pre) hnew content filename,
    ← keys_applyAll_of_empty hempty hids.before, Event.applyAll_append]
  rfl

/-- **What is no registration takes off the archive that it names**, and nothing else. -/
theorem live_concat {es : List Event} (hids : AreIds (registered es)) {e : Event} (hnone : e.addedIds = []) :
    live s (es ++ [e]) = (live s es).filter fun id => !e.takesOff id := by
  have hregistered : registered (es ++ [e]) = registered es := by
    rw [Event.registered_append, registered, registered, List.flatMap_cons, hnone, List.flatMap_nil, List.append_nil,
      List.append_nil]
  rw [← keys_applyAll_of_empty hempty hids, ← keys_applyAll_of_empty hempty (by rwa [hregistered]),
    Event.applyAll_append, ← keys_apply_of_addedIds_eq_nil hnone]
  rfl

theorem get?_of_register {pre post : List Event} {id : String} {content : Bytes} {filename : Option String}
    (hids : AreIds (registered (pre ++ .register id content filename :: post))) {handle : String}
    (hhandle : idOfHandle handle = id) :
    (Survives ((applyAll s pre).register id content filename).1 id post →
      (applyAll s (pre ++ .register id content filename :: post)).get? handle =
        some ⟨((applyAll s pre).register id content filename).2.filename, content⟩) ∧
    (¬ Survives ((applyAll s pre).register id content filename).1 id post →
      (applyAll s (pre ++ .register id content filename :: post)).get? handle = none) := by
  have hnew : id ∉ Table.keys (applyAll s pre).archives := not_mem_keys_applyAll hempty hids List.mem_cons_self
  have hcapacity := withinCapacity_of_empty hempty pre
  have hkeys := keys_register hcapacity hnew content filename
  have hstored := get?_register hcapacity hnew content filename
  rw [get?, idOfHandle_handleOf] at hstored
  have hrest : AreIds (Table.keys ((applyAll s pre).register id content filename).1.archives ++ registered post) := by
    refine hids.sublist ?_
    rw [hkeys, List.append_assoc, Event.registered_append]
    exact (((kept_sublist _).map _).trans (keys_sublist_of_empty hempty hids.before)).append_right _
  have hmem := mem_keys_applyAll_iff (withinCapacity_register _ id content filename) hkeys post hrest
  rw [Event.applyAll_append, get?, hhandle]
  exact ⟨fun hsurvives => lookup_applyAll hrest hstored (hmem.2 hsurvives),
    fun hgone => Table.lookup_of_not_mem _ fun hin => hgone (hmem.1 hin)⟩

theorem not_mem_live_of_not_mem {pre post : List Event} (hids : AreIds (registered (pre ++ post))) {id : String}
    (hid : id ∈ registered pre) (hgone : id ∉ live s pre) : id ∉ live s (pre ++ post) := by
  rw [← keys_applyAll_of_empty hempty hids.before] at hgone
  rw [← keys_applyAll_of_empty hempty hids, Event.applyAll_append]
  have hrest : AreIds (Table.keys (applyAll s pre).archives ++ registered post) := by
    rw [Event.registered_append] at hids
    exact hids.sublist ((keys_sublist_of_empty hempty (hids.sublist (List.sublist_append_left _ _))).append_right _)
  intro hmem
  rcases List.mem_append.1 ((keys_sublist hrest).subset hmem) with hbefore | hlater
  · exact hgone hbefore
  · rw [Event.registered_append] at hids
    exact hids.not_mem hid hlater

end Empty

/-- **What a run comes to** on a shelf that was empty at first. -/
structure Accounted (s : Shelf) (es : List Event) : Prop where
  /-- By its id and by its handle an archive is found as it was registered, as long as it survives, and then no more. -/
  found : ∀ pre id content filename post, es = pre ++ .register id content filename :: post →
    ∀ handle ∈ [id, handleOf id],
      (Survives ((applyAll s pre).register id content filename).1 id post →
        (applyAll s es).get? handle = some ⟨((applyAll s pre).register id content filename).2.filename, content⟩) ∧
      (¬ Survives ((applyAll s pre).register id content filename).1 id post → (applyAll s es).get? handle = none)
  /-- The shelf holds the live archives, the oldest one first. -/
  inOrder : Table.keys (applyAll s es).archives = live s es
  withinCapacity : (live s es).length ≤ s.capacity
  /-- A new archive is live at once, and at most the oldest one of the others gives way. -/
  registers : ∀ pre id content filename post, es = pre ++ .register id content filename :: post →
    live s (pre ++ [.register id content filename]) =
      (if (live s pre).length < s.capacity then live s pre else (live s pre).tail) ++ [id]
  releases : ∀ handle, ((applyAll s es).release handle).2 = (live s es).contains (idOfHandle handle) ∧
    live s (es ++ [.release handle]) = (live s es).filter (· != idOfHandle handle)
  /-- At its end a scope takes off its own archive, if it is still live, and nothing else. -/
  leaves : ∀ pre id brokenOff post, es = pre ++ .leave id brokenOff :: post → id ∈ registered pre →
    live s (pre ++ [.leave id brokenOff]) = (live s pre).filter (· != id)
  staysGone : ∀ pre post, es = pre ++ post → ∀ id ∈ registered pre, id ∉ live s pre → id ∉ live s es

/-- **The account of the shelf.**  On a shelf that was empty at first, a run in which no generated id comes twice leaves
exactly the archives that survive it, each one found as it was registered; the same holds of the run of any commands
whose events are such a run. -/
theorem accounted_of_generated_ids {s : Shelf} (hempty : s.archives = []) {es : List Event}
    (hids : AreIds (registered es)) :
    Accounted s es ∧ ∀ cs, Command.eventsOfAll cs = es → (s.runAll cs).1 = applyAll s es := by
  refine ⟨?_, fun cs hcs => by rw [runAll_eq_apply, hcs]⟩
  constructor
  case found =>
    rintro pre id content filename post rfl handle hhandle
    have hid : id ∈ registered (pre ++ .register id content filename :: post) := by
      rw [Event.registered_append]
      exact List.mem_append_right _ List.mem_cons_self
    refine get?_of_register hempty hids ?_
    rcases List.mem_cons.1 hhandle with rfl | hhandle
    · exact hids.idOfHandle_eq hid
    · rw [List.mem_singleton.1 hhandle, idOfHandle_handleOf]
  case inOrder => exact keys_applyAll_of_empty hempty hids
  case withinCapacity =>
    rw [length_live hempty hids, ← Event.capacity_applyAll es s]
    exact withinCapacity_of_empty hempty es
  case registers =>
    rintro pre id content filename post rfl
    exact live_register hempty hids
  case releases =>
    refine fun handle => ⟨?_, ?_⟩
    · rw [Bool.eq_iff_iff, List.contains_iff_mem, ← keys_applyAll_of_empty hempty hids]
      exact isSome_get?_iff
    · rw [live_concat hempty hids rfl]
      exact List.filter_congr fun id _ => by rw [Event.takesOff, bne, BEq.comm]
  case leaves =>
    rintro pre id brokenOff post rfl hid
    rw [live_concat hempty hids.before rfl]
    exact List.filter_congr fun other _ => by rw [Event.takesOff, hids.before.idOfHandle_eq hid, bne, BEq.comm]
  case staysGone =>
    rintro pre post rfl id hid hgone
    exact not_mem_live_of_not_mem hempty hids hid hgone

def roomForTwo : Shelf := { capacity := 2 }

/-- The first archive gives way within its own scope.  The second one outlives two younger ones, since the scope of the
third one is broken off before the fourth one comes. -/
def crowded : List Event :=
  [.register "a" [1] none, .register "b" [2] (some "b.zip"), .register "c" [3] none, .get "/api/archives/a",
    .leave "c" true, .register "d" [4] none, .leave "a" false]

theorem accounted_of_generated_ids_crowded :
    AreIds (registered crowded) ∧
    (applyAll roomForTwo crowded).get? "/api/archives/a" = none ∧
    (applyAll roomForTwo crowded).get? "/api/archives/b" = some ⟨"b.zip", [2]⟩ ∧
    live roomForTwo (crowded ++ [.release "b"]) = ["d"] := by
  have hids : AreIds (registered crowded) := ⟨by decide, by decide⟩
  have haccount := (accounted_of_generated_ids (rfl : roomForTwo.archives = []) hids).1
  have hgone := (haccount.found [] "a" [1] none _ rfl "/api/archives/a" (by decide)).2 fun h =>
    absurd (h.fewYounger [.register "b" [2] (some "b.zip")] "c" [3] none _ rfl) (by decide)
  have hthere := haccount.found [.register "a" [1] none] "b" [2] (some "b.zip") _ rfl "/api/archives/b" (by decide)
  have hkeys : Table.keys (applyAll roomForTwo (crowded.take 2)).archives = ["a"] ++ ["b"] := by decide
  have hsurvives := (mem_keys_applyAll_iff (withinCapacity_of_empty rfl _) hkeys (crowded.drop 2)
    ⟨by decide, by decide⟩).1 (by decide)
  exact ⟨hids, hgone, hthere.1 hsurvives, (haccount.releases "b").2.trans (by decide)⟩

end Shelf
end FlowBundle
