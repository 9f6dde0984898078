import FlowBundle.Proofs.Chat.Trace
/-!
# The window of a session

The history of a session is a window on everything said in it: the newest `limit` messages of all that was said since
it was last cleared or forgotten, and while a scope is open, that window as it was when the scope was opened with
everything said in the scope behind it (`messages_eq_newest_said`).  Histories are cut again and again, whenever a scope
closes, and the invariant `Kept` says that it comes to one cut of the whole.
-/
namespace FlowBundle
namespace Chat

open Histories (newest exchanged)

def Histories.fresh (limit : Nat) (two_le_limit : 2 ≤ limit) : Histories :=
  { limit := limit, two_le_limit := two_le_limit }

def Event.told (ms : List Message) : Event → List Message
  | exchange _ user assistant => ms ++ exchanged user assistant
  | say _ new => ms ++ new
  | clear _ | forget _ => []
  | read _ | enter _ | change .. | leave .. => ms

def tell (s : String) (ms : List Message) (e : Event) : List Message := if e.session = s then e.told ms else ms

/-- **Everything said in a session** since it was last cleared or forgotten. -/
def said (s : String) (es : List Event) : List Message := es.foldl (tell s) []

/-- **The history is cut once**: it is the newest of what was settled before the open scope, and all that was said in
the scope. -/
def Kept (s : String) (opened : List String) (h : Histories) (ms : List Message) : Prop :=
  ∃ settled pending, ms = settled ++ pending ∧ h.history s = newest h.limit settled ++ pending ∧
    (opened.contains s = false → pending = [])

theorem kept_of_newest {s : String} {h : Histories} {ms : List Message} (hh : h.history s = newest h.limit ms)
    (opened : List String) : Kept s opened h ms :=
  ⟨ms, [], (List.append_nil ms).symm, by rw [hh, List.append_nil], fun _ => rfl⟩

theorem Kept.eq_newest {s : String} {opened : List String} {h : Histories} {ms : List Message}
    (hk : Kept s opened h ms) (hs : opened.contains s = false) : h.history s = newest h.limit ms := by
  obtain ⟨settled, pending, rfl, hh, hp⟩ := hk
  rw [hh, hp hs, List.append_nil, List.append_nil]

theorem Kept.newest_append {s : String} {opened : List String} {h : Histories} {ms : List Message}
    (hk : Kept s opened h ms) (more : List Message) :
    newest h.limit (h.history s ++ more) = newest h.limit (ms ++ more) := by
  obtain ⟨settled, pending, rfl, hh, -⟩ := hk
  rw [hh, List.append_assoc, Histories.newest_append_newest, List.append_assoc]

theorem Kept.apply_of_ne {s : String} {opened : List String} {h : Histories} {ms : List Message}
    (hk : Kept s opened h ms) {e : Event} (hne : s ≠ e.session) :
    Kept s (e.openAfter opened) (e.apply h) (tell s ms e) := by
  obtain ⟨settled, pending, hms, hh, hp⟩ := hk
  refine ⟨settled, pending, ?_, ?_, fun hs => hp ?_⟩
  · rw [tell, if_neg (Ne.symm hne), hms]
  · rw [Event.history_apply_of_ne h hne, Event.limit_apply, hh]
  · rwa [Event.contains_openAfter_of_ne opened hne] at hs

/-- **One event keeps the window**, if it can happen and takes nothing away. -/
theorem Kept.apply {s : String} {opened : List String} {h : Histories} {ms : List Message} (hk : Kept s opened h ms)
    {e : Event} (hcan : e.canHappen opened = true) (honly : e.onlyAppends = true) :
    Kept s (e.openAfter opened) (e.apply h) (tell s ms e) := by
  by_cases hs : s = e.session
  case neg => exact hk.apply_of_ne hs
  have hin : opened.contains s = e.isInside := by rw [hs]; exact beq_iff_eq.1 hcan
  rw [tell, if_pos hs.symm]
  cases e with
  | exchange t user assistant =>
    obtain rfl : s = t := hs
    refine kept_of_newest ?_ _
    rw [Event.told, Event.limit_apply, ← hk.newest_append]
    exact h.history_append_self s _
  | read t =>
    obtain rfl : s = t := hs
    refine kept_of_newest ?_ _
    rw [Event.told, Event.limit_apply, ← hk.eq_newest hin]
    exact h.history_messages s s
  | clear t =>
    obtain rfl : s = t := hs
    refine kept_of_newest ?_ _
    rw [Event.told, Histories.newest_nil]
    exact h.history_clear_self s
  | forget t =>
    obtain rfl : s = t := hs
    refine kept_of_newest ?_ _
    rw [Event.told, Histories.newest_nil]
    exact h.history_forget_self s
  | enter t =>
    obtain rfl : s = t := hs
    refine kept_of_newest ?_ _
    rw [Event.told, Event.limit_apply, ← hk.eq_newest hin]
    exact h.history_opened s s
  | say t new =>
    obtain rfl : s = t := hs
    obtain ⟨settled, pending, rfl, hh, -⟩ := hk
    refine ⟨settled, pending ++ new, List.append_assoc .., ?_, fun hclosed => ?_⟩
    · rw [Event.limit_apply, ← List.append_assoc, ← hh]
      exact h.history_setHistory_self s _
    · have hopen : opened.contains s = true := hin
      cases hopen.symm.trans hclosed
  | change t f => cases honly
  | leave t brokenOff =>
    obtain rfl : s = t := hs
    have hcut := hk.newest_append []
    rw [List.append_nil, List.append_nil] at hcut
    refine kept_of_newest ?_ _
    rw [Event.told, Event.limit_apply, ← hcut]
    exact h.history_closed_self s

/-- **A run keeps the window.** -/
theorem Kept.applyAll {s : String} : ∀ (es : List Event) {opened : List String} {h : Histories} {ms : List Message},
    Kept s opened h ms → Event.legalFrom opened es = true → es.all Event.onlyAppends = true →
    Kept s (es.foldl Event.openAfter opened) (Event.applyAll h es) (es.foldl (tell s) ms)
  | [], _, _, _, hk, _, _ => hk
  | e :: es, opened, h, ms, hk, hlegal, honly => by
    rw [Event.legalFrom, Bool.and_eq_true] at hlegal
    rw [List.all_cons, Bool.and_eq_true] at honly
    exact Kept.applyAll es (hk.apply hlegal.1 honly.1) hlegal.2 honly.2

@[simp] theorem limit_fresh (limit : Nat) (hlimit : 2 ≤ limit) : (Histories.fresh limit hlimit).limit = limit := rfl

theorem limit_applyAll : ∀ (es : List Event) (h : Histories), (Event.applyAll h es).limit = h.limit
  | [], _ => rfl
  | e :: es, h => by
    rw [Event.applyAll, List.foldl_cons, ← Event.applyAll, limit_applyAll es, Event.limit_apply]

/-- **An open scope is not cut**: what is said in it stands behind what was there. -/
theorem history_applyAll_of_open {s : String} {base : List Message} : ∀ (es : List Event) {opened : List String}
    {h : Histories} {ms : List Message}, opened.contains s = true → h.history s = base ++ ms →
    Event.legalFrom opened es = true → es.all Event.onlyAppends = true → (∀ b, Event.leave s b ∉ es) →
    (Event.applyAll h es).history s = base ++ es.foldl (tell s) ms
  | [], _, _, _, _, hh, _, _, _ => hh
  | e :: es, opened, h, ms, hopen, hh, hlegal, honly, hstays => by
    rw [Event.legalFrom, Bool.and_eq_true] at hlegal
    rw [List.all_cons, Bool.and_eq_true] at honly
    have hrest : ∀ b, Event.leave s b ∉ es := fun b hb => hstays b (List.mem_cons_of_mem e hb)
    rw [Event.applyAll, List.foldl_cons, ← Event.applyAll, List.foldl_cons]
    by_cases hs : s = e.session
    · have hin : e.isInside = true := by rw [← beq_iff_eq.1 hlegal.1, ← hs, hopen]
      cases e with
      | say t new =>
        obtain rfl : s = t := hs
        refine history_applyAll_of_open es hopen ?_ hlegal.2 honly.2 hrest
        have htell : tell s ms (.say s new) = ms ++ new := if_pos rfl
        rw [htell, ← List.append_assoc, ← hh]
        exact h.history_setHistory_self s _
      | change t f => cases honly.1
      | leave t b =>
        obtain rfl : s = t := hs
        exact absurd List.mem_cons_self (hstays b)
      | exchange | read | clear | forget | enter => cases hin
    · refine history_applyAll_of_open es ?_ ?_ hlegal.2 honly.2 hrest
      · rw [Event.contains_openAfter_of_ne opened hs, hopen]
      · rw [Event.history_apply_of_ne h hs, tell, if_neg (Ne.symm hs), hh]

theorem kept_fresh {limit : Nat} (hlimit : 2 ≤ limit) {es : List Event} (hlegal : Event.legal es = true)
    (honly : es.all Event.onlyAppends = true) (s : String) :
    Kept s (Event.openAfterAll es) (Event.applyAll (Histories.fresh limit hlimit) es) (said s es) :=
  Kept.applyAll es (kept_of_newest (by rw [Histories.newest_nil]; rfl) []) hlegal honly

/-- **The window of a session.**  After every run in which scopes only append, a session without an open scope has the
newest `limit` of all messages said in it since it was last cleared or forgotten; in an open scope the history is that
window as it was when the scope was entered, and behind it everything said in the scope.  The same holds of the run of
any commands whose events are such a run. -/
theorem messages_eq_newest_said {limit : Nat} (hlimit : 2 ≤ limit) {es : List Event} (hlegal : Event.legal es = true)
    (honly : es.all Event.onlyAppends = true) (s : String) :
    ((Event.openAfterAll es).contains s = false →
      ((Event.applyAll (Histories.fresh limit hlimit) es).messages s).2 = newest limit (said s es)) ∧
    (∀ pre post, es = pre ++ .enter s :: post → (∀ b, Event.leave s b ∉ post) →
      (Event.applyAll (Histories.fresh limit hlimit) es).history s = newest limit (said s pre) ++ said s post) ∧
    (∀ cs, Command.eventsOfAll cs = es →
      ((Histories.fresh limit hlimit).runAll cs).1 = Event.applyAll (Histories.fresh limit hlimit) es) := by
  refine ⟨fun hs => ?_, fun pre post hsplit hstays => ?_, fun cs hcs => ?_⟩
  · rw [Histories.snd_messages, (kept_fresh hlimit hlegal honly s).eq_newest hs, limit_applyAll, limit_fresh]
  · subst hsplit
    rw [Event.legal, Event.legalFrom_append, Bool.and_eq_true, Event.legalFrom, Bool.and_eq_true] at hlegal
    rw [List.all_append, Bool.and_eq_true, List.all_cons, Bool.and_eq_true] at honly
    obtain ⟨hpre, hcan, hpost⟩ := hlegal
    have hbefore := (kept_fresh hlimit hpre honly.1 s).eq_newest (beq_iff_eq.1 hcan)
    rw [limit_applyAll, limit_fresh] at hbefore
    have hentered : ((Event.enter s).apply (Event.applyAll (Histories.fresh limit hlimit) pre)).history s =
        newest limit (said s pre) ++ [] := by
      rw [List.append_nil, ← hbefore]
      exact Histories.history_opened _ s s
    rw [Event.applyAll_append]
    exact history_applyAll_of_open post (by simp [Event.openAfter]) hentered hpost honly.2.2 hstays
  · rw [Histories.runAll_eq_apply, hcs]

/-- A scope that is entered in another one, and outlives it. -/
def overlapping : List Event :=
  [.exchange "a" (.str "1") (.str "2"), .enter "a", .enter "b", .say "a" [⟨.human, .text "3"⟩, ⟨.assistant, .text "4"⟩],
    .exchange "c" (.str "x") (.str "y"), .clear "c", .leave "a" true, .say "b" [⟨.human, .text "5"⟩]]

theorem messages_eq_newest_said_overlapping :
    Event.legal overlapping = true ∧ overlapping.all Event.onlyAppends = true ∧
    ((Event.applyAll (Histories.fresh 3 (by decide)) overlapping).messages "a").2 =
      [⟨.assistant, .text "2"⟩, ⟨.human, .text "3"⟩, ⟨.assistant, .text "4"⟩] :=
  ⟨by decide, by decide, (messages_eq_newest_said (by decide : 2 ≤ 3) (by decide) (by decide) "a").1 (by decide)⟩

end Chat
end FlowBundle
