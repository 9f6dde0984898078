import FlowBundle.Proofs.Chat.Trace
/-!
# What a session notices of the others

Of a run of commands a session notices what is for itself.  The commands for it can be picked out of any run, also those
that are given in a scope on another session (`Command.concerning`), and so can the replies to them (`Command.heard`).  A
run leaves the history of a session as the run of the picked commands leaves it, and the replies are the same
(`alike_runAll`): the state that both runs go through is the same as far as the session can see, its history and the limit
(`Alike`).
-/
namespace FlowBundle
namespace Chat

open Histories (newest exchanged)

mutual
/-- **What of a command is for a session.**  A scope on another session is for it as far as the commands given in it are;
and these are not given if the scope ends with a refusal before. -/
def Command.concerning (s : String) : Command → List Command
  | .append t user assistant => if t = s then [.append t user assistant] else []
  | .messages t => if t = s then [.messages t] else []
  | .clear t => if t = s then [.clear t] else []
  | .forget t => if t = s then [.forget t] else []
  | .state => []
  | .scope t added keep inner brokenOff =>
    if t = s then [.scope t added keep (Command.concerningAll s inner) brokenOff]
    else if (Draft.acceptAll added).2.isSome then []
    else Command.concerningAll s inner

def Command.concerningAll (s : String) : List Command → List Command
  | [] => []
  | c :: cs => Command.concerning s c ++ Command.concerningAll s cs
end

mutual
/-- **What of a reply a session hears**: the messages that it is given, and what is refused.  Clearing and forgetting give
nothing back; the sessions and locks that are left then are for nobody in particular. -/
def Command.heard (s : String) : Command → Reply → List Reply
  | .append t _ _, r => if t = s then [r] else []
  | .messages t, r => if t = s then [r] else []
  | .clear _, _ => []
  | .forget _, _ => []
  | .state, _ => []
  | .scope t _ _ inner _, .scope inside replies after =>
    if t = s then .messages inside :: (Command.heardAll s inner replies ++ [.messages after])
    else Command.heardAll s inner replies
  | .scope t _ _ _ _, r => if t = s then [r] else []

def Command.heardAll (s : String) : List Command → List Reply → List Reply
  | [], _ => []
  | _ :: _, [] => []
  | c :: cs, r :: rs => Command.heard s c r ++ Command.heardAll s cs rs
end

/-- **Two states are alike for a session.** -/
structure Alike (s : String) (h h' : Histories) : Prop where
  limit_eq : h.limit = h'.limit
  history_eq : h.history s = h'.history s

namespace Histories

theorem snd_exchange (h : Histories) (s : String) (user assistant : Json.Value) :
    (h.exchange s user assistant).2 =
      match (Draft.acceptAll [⟨.human, user⟩, ⟨.assistant, assistant⟩]).2 with
      | some bad => .refused bad
      | none => .messages (newest h.limit (h.history s ++ exchanged user assistant)) := by
  have hsnd := h.snd_append s [⟨.human, user⟩, ⟨.assistant, assistant⟩]
  have hself := h.history_append_self s [⟨.human, user⟩, ⟨.assistant, assistant⟩]
  unfold exchange
  split <;> rename_i heq <;> rw [heq] at hsnd hself <;> rw [← hsnd]
  exact congrArg Reply.messages hself

variable (h : Histories) {t : String} {added : List Draft} {keep : Option Int} {inner : List Command} {brokenOff : Bool}

theorem run_scope_of_some {bad : BadContent} (hbad : (Draft.acceptAll added).2 = some bad) :
    h.run (.scope t added keep inner brokenOff) =
      (((h.opened t).setHistory t ((h.opened t).history t ++ (Draft.acceptAll added).1)).closed t, .refused bad) := by
  rw [run, hbad]

/-- The state in which the commands of a scope are given. -/
def inScope (t : String) (added : List Draft) (keep : Option Int) : Histories :=
  (h.opened t).setHistory t (front ((h.opened t).history t ++ (Draft.acceptAll added).1) keep)

theorem run_scope_of_none (hgood : (Draft.acceptAll added).2 = none) :
    h.run (.scope t added keep inner brokenOff) =
      (((((h.inScope t added keep).runAll inner).1.closed t).messages t).1,
        .scope ((h.inScope t added keep).history t) ((h.inScope t added keep).runAll inner).2
          ((((h.inScope t added keep).runAll inner).1.closed t).history t)) := by
  rw [run, hgood, inScope, history_setHistory_self]
  rfl

end Histories

namespace Alike

variable {s t : String} {h h' : Histories}

theorem refl (s : String) (h : Histories) : Alike s h h := ⟨rfl, rfl⟩

/-- **What another session does is not noticed.** -/
theorem apply_left (ha : Alike s h h') {e : Event} (hne : s ≠ e.session) : Alike s (e.apply h) h' :=
  ⟨(Event.limit_apply h e).trans ha.limit_eq, (Event.history_apply_of_ne h hne).trans ha.history_eq⟩

/-- **What is done for a session depends on what it can see.** -/
theorem apply (ha : Alike s h h') {e : Event} (hs : e.session = s) : Alike s (e.apply h) (e.apply h') := by
  subst hs
  refine ⟨?_, ?_⟩
  · rw [Event.limit_apply, Event.limit_apply, ha.limit_eq]
  cases e with
  | exchange t user assistant =>
    show ((h.append t _).1.history t) = (h'.append t _).1.history t
    rw [Histories.history_append_self, Histories.history_append_self, ha.limit_eq]
    exact congrArg (fun ms => newest h'.limit (ms ++ _)) ha.history_eq
  | read t =>
    show (h.messages t).1.history t = (h'.messages t).1.history t
    rw [Histories.history_messages, Histories.history_messages]
    exact ha.history_eq
  | clear t => exact (h.history_clear_self t).trans (h'.history_clear_self t).symm
  | forget t => exact (h.history_forget_self t).trans (h'.history_forget_self t).symm
  | enter t => exact (h.history_opened t t).trans (ha.history_eq.trans (h'.history_opened t t).symm)
  | say t ms =>
    show (h.setHistory t _).history t = (h'.setHistory t _).history t
    rw [Histories.history_setHistory_self, Histories.history_setHistory_self]
    exact congrArg (· ++ ms) ha.history_eq
  | change t f =>
    show (h.setHistory t _).history t = (h'.setHistory t _).history t
    rw [Histories.history_setHistory_self, Histories.history_setHistory_self]
    exact congrArg f ha.history_eq
  | leave t b =>
    show (h.closed t).history t = (h'.closed t).history t
    rw [Histories.history_closed_self, Histories.history_closed_self, ha.limit_eq]
    exact congrArg (newest h'.limit) ha.history_eq

theorem exchange_left (ha : Alike s h h') (hne : s ≠ t) (user assistant : Json.Value) :
    Alike s (h.exchange t user assistant).1 h' :=
  ⟨(h.limit_exchange t user assistant).trans ha.limit_eq,
    (h.history_exchange_of_ne hne user assistant).trans ha.history_eq⟩

theorem exchange (ha : Alike s h h') (user assistant : Json.Value) :
    Alike s (h.exchange s user assistant).1 (h'.exchange s user assistant).1 ∧
      (h.exchange s user assistant).2 = (h'.exchange s user assistant).2 := by
  refine ⟨⟨?_, ?_⟩, ?_⟩
  · rw [Histories.limit_exchange, Histories.limit_exchange, ha.limit_eq]
  · rw [Histories.history_exchange_self, Histories.history_exchange_self, ha.limit_eq, ha.history_eq]
  · rw [Histories.snd_exchange, Histories.snd_exchange, ha.limit_eq, ha.history_eq]

theorem within {α : Type} (ha : Alike s h h') (change : List Message → List Message × α) :
    Alike s (h.within s change).1 (h'.within s change).1 ∧ (h.within s change).2 = (h'.within s change).2 := by
  refine ⟨⟨?_, ?_⟩, ?_⟩
  · rw [Histories.limit_within, Histories.limit_within, ha.limit_eq]
  · rw [Histories.history_within_self, Histories.history_within_self, ha.limit_eq, ha.history_eq]
  · rw [Histories.snd_within, Histories.snd_within, ha.history_eq]

theorem within_left {α : Type} (ha : Alike s h h') (hne : s ≠ t) (change : List Message → List Message × α) :
    Alike s (h.within t change).1 h' :=
  ⟨(h.limit_within t change).trans ha.limit_eq, (h.history_within_of_ne hne change).trans ha.history_eq⟩

theorem closed (ha : Alike s h h') : Alike s (h.closed s) (h'.closed s) := ha.apply (e := .leave s true) rfl

theorem inScope (ha : Alike s h h') (added : List Draft) (keep : Option Int) :
    Alike s (h.inScope s added keep) (h'.inScope s added keep) :=
  (ha.apply (e := .enter s) rfl).apply (e := .change s fun ms => front (ms ++ (Draft.acceptAll added).1) keep) rfl

theorem inScope_left (ha : Alike s h h') (hne : s ≠ t) (added : List Draft) (keep : Option Int) :
    Alike s (h.inScope t added keep) h' :=
  (ha.apply_left (e := .enter t) hne).apply_left
    (e := .change t fun ms => front (ms ++ (Draft.acceptAll added).1) keep) hne

end Alike

namespace Command

variable {s t : String} {added : List Draft} {keep : Option Int} {inner : List Command} {brokenOff : Bool}

theorem heard_refused (bad : BadContent) :
    heard s (.scope t added keep inner brokenOff) (.refused bad) = if t = s then [.refused bad] else [] := by
  rw [heard]
  intro _ _ _ h
  cases h

theorem heard_scope (inside : List Message) (replies : List Reply) (after : List Message) :
    heard s (.scope t added keep inner brokenOff) (.scope inside replies after) =
      if t = s then .messages inside :: (heardAll s inner replies ++ [.messages after])
      else heardAll s inner replies := by
  rw [heard]

end Command

/-! ## Runs -/

namespace Histories

/-- **What a session hears in a run.** -/
def hears (s : String) (h : Histories) (cs : List Command) : List Reply := Command.heardAll s cs (h.runAll cs).2

theorem hears_nil (s : String) (h : Histories) : hears s h [] = [] := by
  rw [hears, Command.heardAll]

theorem fst_runAll_nil (h : Histories) : (h.runAll []).1 = h := by
  rw [runAll]

theorem hears_cons (s : String) (h : Histories) (c : Command) (cs : List Command) :
    hears s h (c :: cs) = Command.heard s c (h.run c).2 ++ hears s (h.run c).1 cs := by
  rw [hears, runAll, Command.heardAll, ← hears]

theorem hears_singleton (s : String) (h : Histories) (c : Command) :
    hears s h [c] = Command.heard s c (h.run c).2 := by
  rw [hears_cons, hears_nil, List.append_nil]

theorem fst_runAll_cons (h : Histories) (c : Command) (cs : List Command) :
    (h.runAll (c :: cs)).1 = ((h.run c).1.runAll cs).1 := by
  rw [runAll]

theorem fst_runAll_singleton (h : Histories) (c : Command) : (h.runAll [c]).1 = (h.run c).1 := by
  rw [fst_runAll_cons, fst_runAll_nil]

theorem fst_runAll_append : ∀ (cs cs' : List Command) (h : Histories),
    (h.runAll (cs ++ cs')).1 = ((h.runAll cs).1.runAll cs').1
  | [], _, h => by rw [List.nil_append, fst_runAll_nil]
  | c :: cs, cs', h => by rw [List.cons_append, fst_runAll_cons, fst_runAll_append cs cs', ← fst_runAll_cons]

theorem hears_append (s : String) : ∀ (cs cs' : List Command) (h : Histories),
    hears s h (cs ++ cs') = hears s h cs ++ hears s (h.runAll cs).1 cs'
  | [], _, h => by rw [List.nil_append, hears_nil, fst_runAll_nil, List.nil_append]
  | c :: cs, cs', h => by
    rw [List.cons_append, hears_cons, hears_append s cs cs', ← fst_runAll_cons, hears_cons, List.append_assoc]

/-- A command that is for one session is left out for the others, and stays for this one. -/
theorem alike_run_of_if {s t : String} {c : Command} {h h' : Histories} (hc : c.concerning s = if t = s then [c] else [])
    (hsame : s = t → Alike s (h.run c).1 (h'.run c).1 ∧ c.heard s (h.run c).2 = c.heard s (h'.run c).2)
    (hother : s ≠ t → Alike s (h.run c).1 h' ∧ c.heard s (h.run c).2 = []) :
    Alike s (h.run c).1 (h'.runAll (c.concerning s)).1 ∧ c.heard s (h.run c).2 = hears s h' (c.concerning s) := by
  by_cases hts : s = t
  · rw [hc, if_pos hts.symm, fst_runAll_singleton, hears_singleton]
    exact hsame hts
  · rw [hc, if_neg (Ne.symm hts), fst_runAll_nil, hears_nil]
    exact hother hts

/-- A scope that ends with a refusal. -/
theorem alike_run_refused {s t : String} {added : List Draft} {bad : BadContent}
    (hbad : (Draft.acceptAll added).2 = some bad) (keep : Option Int) (inner : List Command) (brokenOff : Bool)
    {h h' : Histories} (ha : Alike s h h') :
    Alike s (h.run (.scope t added keep inner brokenOff)).1
        (h'.runAll (Command.concerning s (.scope t added keep inner brokenOff))).1 ∧
      Command.heard s (.scope t added keep inner brokenOff) (h.run (.scope t added keep inner brokenOff)).2 =
        hears s h' (Command.concerning s (.scope t added keep inner brokenOff)) := by
  by_cases hts : s = t
  · obtain rfl := hts
    rw [Command.concerning, if_pos rfl, fst_runAll_singleton, hears_singleton, run_scope_of_some _ hbad,
      run_scope_of_some _ hbad, Command.heard_refused, Command.heard_refused]
    have hentered := ha.apply (e := .enter s) rfl
    have hsaid := hentered.apply (e := .say s (Draft.acceptAll added).1) rfl
    exact ⟨hsaid.apply (e := .leave s true) rfl, rfl⟩
  · have hentered := ha.apply_left (e := .enter t) hts
    have hsaid := hentered.apply_left (e := .say t (Draft.acceptAll added).1) hts
    rw [Command.concerning, if_neg (Ne.symm hts), hbad, Option.isSome_some, if_pos rfl, fst_runAll_nil, hears_nil,
      run_scope_of_some _ hbad, Command.heard_refused, if_neg (Ne.symm hts)]
    exact ⟨hsaid.apply_left (e := .leave t true) hts, rfl⟩

mutual
/-- **One command leaves a session as the part of it that is for the session**, and with the same replies. -/
theorem alike_run {s : String} : ∀ (c : Command) {h h' : Histories}, Alike s h h' →
    Alike s (h.run c).1 (h'.runAll (c.concerning s)).1 ∧ c.heard s (h.run c).2 = hears s h' (c.concerning s)
  | .append t user assistant, h, h', ha => by
    refine alike_run_of_if (t := t) (by rw [Command.concerning]) (fun hts => ?_) fun hts => ?_
    · obtain rfl := hts
      rw [Command.heard, Command.heard, run, run, (ha.exchange user assistant).2]
      exact ⟨(ha.exchange user assistant).1, rfl⟩
    · rw [Command.heard, if_neg (Ne.symm hts), run]
      exact ⟨ha.exchange_left hts user assistant, rfl⟩
  | .messages t, h, h', ha => by
    refine alike_run_of_if (t := t) (by rw [Command.concerning]) (fun hts => ?_) fun hts => ?_
    · obtain rfl := hts
      rw [Command.heard, Command.heard, run, run, snd_messages, snd_messages, ha.history_eq]
      exact ⟨ha.apply (e := .read s) rfl, rfl⟩
    · rw [Command.heard, if_neg (Ne.symm hts), run]
      exact ⟨ha.apply_left (e := .read t) hts, rfl⟩
  | .clear t, h, h', ha => by
    refine alike_run_of_if (t := t) (by rw [Command.concerning]) (fun hts => ?_) fun hts => ?_
    · rw [Command.heard, Command.heard, run, run]
      exact ⟨ha.apply (e := .clear t) hts.symm, rfl⟩
    · rw [Command.heard, run]
      exact ⟨ha.apply_left (e := .clear t) hts, rfl⟩
  | .forget t, h, h', ha => by
    refine alike_run_of_if (t := t) (by rw [Command.concerning]) (fun hts => ?_) fun hts => ?_
    · rw [Command.heard, Command.heard, run, run]
      exact ⟨ha.apply (e := .forget t) hts.symm, rfl⟩
    · rw [Command.heard, run]
      exact ⟨ha.apply_left (e := .forget t) hts, rfl⟩
  | .state, h, h', ha => by
    rw [Command.concerning, Command.heard, run, fst_runAll_nil, hears_nil]
    exact ⟨ha, rfl⟩
  | .scope t added keep inner brokenOff, h, h', ha => by
    cases hsnd : (Draft.acceptAll added).2 with
    | some bad => exact alike_run_refused hsnd keep inner brokenOff ha
    | none =>
      rw [run_scope_of_none _ hsnd, Command.concerning, Command.heard_scope]
      by_cases hts : s = t
      -- The scope stays, with the commands for its own session in it.
      · obtain rfl := hts
        obtain ⟨hstate, hheard⟩ := alike_runAll inner (ha.inScope added keep)
        rw [hears, hears] at hheard
        rw [if_pos rfl, if_pos rfl, fst_runAll_singleton, hears_singleton, run_scope_of_none _ hsnd, Command.heard_scope,
          if_pos rfl, ← (ha.inScope added keep).history_eq, ← hstate.closed.history_eq, hheard]
        exact ⟨hstate.closed.apply (e := .read s) rfl, rfl⟩
      -- The scope is left out: entering and leaving it is not noticed, and what is given in it is run on its own.
      · obtain ⟨hstate, hheard⟩ := alike_runAll inner (ha.inScope_left hts added keep)
        have hclosed := hstate.apply_left (e := .leave t brokenOff) hts
        rw [if_neg (Ne.symm hts), if_neg (Ne.symm hts), hsnd, if_neg (by decide)]
        exact ⟨hclosed.apply_left (e := .read t) hts, hheard⟩

/-- **A run leaves a session as the run of the commands for it**, and with the same replies. -/
theorem alike_runAll {s : String} : ∀ (cs : List Command) {h h' : Histories}, Alike s h h' →
    Alike s (h.runAll cs).1 (h'.runAll (Command.concerningAll s cs)).1 ∧
      hears s h cs = hears s h' (Command.concerningAll s cs)
  | [], h, h', ha => by
    rw [Command.concerningAll, fst_runAll_nil, fst_runAll_nil, hears_nil, hears_nil]
    exact ⟨ha, rfl⟩
  | c :: cs, h, h', ha => by
    obtain ⟨hstate, hheard⟩ := alike_run c ha
    obtain ⟨hstate', hheard'⟩ := alike_runAll cs hstate
    rw [Command.concerningAll, fst_runAll_append, fst_runAll_cons, hears_append, hears_cons, hheard, hheard']
    exact ⟨hstate', rfl⟩
end

end Histories

end Chat
end FlowBundle
