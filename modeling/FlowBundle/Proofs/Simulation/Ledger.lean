import FlowBundle.Proofs.Builder.Isolation
import FlowBundle.Proofs.Chat.Window
/-!
# The exchanges of a session

Exchanges get into the history of a session by executions with memory and by being appended, and out of it by clearing,
by forgetting and by the limit.  The ledger of a session leaves the limit aside: it has all exchanges since the session
was last cleared or forgotten (`ledger`).  The history is the end of it (`remembers_ledger`), unless somebody has
changed the history in a scope, or appended what is no text (`Command.inExchanges`).
-/
namespace FlowBundle
namespace Simulation

open Chat (Message)

structure Exchange where
  input : String
  output : String

def Exchange.messages (x : Exchange) : List Message := [⟨.human, .text x.input⟩, ⟨.assistant, .text x.output⟩]

theorem length_flatMap_messages : ∀ xs : List Exchange, (xs.flatMap Exchange.messages).length = 2 * xs.length
  | [] => rfl
  | x :: xs => by
    have hlen : x.messages.length = 2 := rfl
    rw [List.flatMap_cons, List.length_append, length_flatMap_messages xs, hlen, List.length_cons]
    omega

end Simulation

namespace Builder

open Chat (Message)
open Chat.Histories (newest)
open Json (Value)
open Simulation (Exchange Outcome Recalls)

/-! ## Executions -/

theorem simulate_of_recalls {b : Builder} {payload input : Value} {w : Workflow} {n : Node}
    (h : Recalls b.room payload input w n) (t : String) :
    b.simulate payload input t =
      ({ b with histories := (b.histories.within t (Simulation.converse w.config input.givenText)).1 },
        .ok ⟨input.givenText, (b.histories.within t (Simulation.converse w.config input.givenText)).2, w.config.model,
          true⟩) := by
  simp only [simulate, Simulation.execute_of_recalls h]

/-- An execution that takes part in no session changes nothing. -/
theorem simulate_of_not_recalls {b : Builder} {payload input : Value}
    (h : ¬ ∃ w n, Recalls b.room payload input w n) (t : String) :
    (b.simulate payload input t).1 = b ∧ ∀ o, (b.simulate payload input t).2 = .ok o → o.memory = false := by
  obtain ⟨result, hplain, hresult⟩ := (Simulation.execute_cases b.room payload input).resolve_left h
  simp only [simulate, hresult]
  exact ⟨trivial, hplain⟩

/-- **The limit never changes.** -/
theorem limit_run (b : Builder) (c : Command) : (b.run c).1.histories.limit = b.histories.limit := by
  have hsimulate : ∀ payload input t, (b.simulate payload input t).1.histories.limit = b.histories.limit := by
    intro payload input t
    by_cases h : ∃ w n, Recalls b.room payload input w n
    · obtain ⟨w, n, h⟩ := h
      rw [simulate_of_recalls h]
      exact Chat.Histories.limit_within ..
    · rw [(simulate_of_not_recalls h t).1]
  cases c with
  | chat c =>
    show (b.histories.run c).1.limit = _
    rw [Chat.Histories.run_eq_apply, Chat.limit_applyAll]
  | execute payload input session => exact hsimulate payload input (sessionOr session)
  | simulate payload input t => exact hsimulate payload input t
  | clearHistory session => exact Chat.Histories.limit_clear ..
  | generate | build | publish | fetch | release => rw [histories_run b rfl]

theorem limit_runAll : ∀ (cs : List Command) (b : Builder), (b.runAll cs).1.histories.limit = b.histories.limit
  | [], _ => rfl
  | c :: cs, b => (limit_runAll cs _).trans (limit_run b c)

/-! ## The ledger -/

/-- A command that deals in whole exchanges of texts, or does not touch the histories. -/
def Command.inExchanges : Command → Bool
  | .chat (.append _ (.str _) (.str _)) => true
  | .chat (.append ..) | .chat (.scope ..) => false
  | _ => true

/-- The exchanges of session `s` after an execution in session `t`. -/
def addOutcome (s t : String) (xs : List Exchange) : Except Simulation.Fault Outcome → List Exchange
  | .ok o => if t = s ∧ o.memory = true then xs ++ [⟨o.input, o.output⟩] else xs
  | .error _ => xs

/-- The exchanges of a session after one more command and the reply to it. -/
def record (s : String) (xs : List Exchange) : Command × Reply → List Exchange
  | (.chat (.append t (.str user) (.str assistant)), _) => if t = s then xs ++ [⟨user, assistant⟩] else xs
  | (.chat (.clear t), _) | (.chat (.forget t), _) => if t = s then [] else xs
  | (.clearHistory session, _) => if sessionOr session = s then [] else xs
  | (.execute _ _ session, .executed result) => addOutcome s (sessionOr session) xs result
  | (.simulate _ _ t, .simulated result) => addOutcome s t xs result
  | _ => xs

/-- **The ledger of a session**: its exchanges since it was last cleared or forgotten. -/
def ledger (b : Builder) (s : String) (cs : List Command) : List Exchange :=
  (cs.zip (b.runAll cs).2).foldl (record s) []

/-- **The history is the end of the exchanges.** -/
def Remembers (b : Builder) (s : String) (xs : List Exchange) : Prop :=
  b.histories.history s = newest b.histories.limit (xs.flatMap Exchange.messages)

variable {b : Builder} {s t : String} {xs : List Exchange}

theorem newest_append_exchange {limit : Nat} {ms : List Message} (x : Exchange)
    (h : ms = newest limit (xs.flatMap Exchange.messages)) :
    newest limit (ms ++ x.messages) = newest limit ((xs ++ [x]).flatMap Exchange.messages) := by
  rw [List.flatMap_append, List.flatMap_singleton, ← Chat.Histories.newest_append_newest limit (xs.flatMap _), ← h]

theorem newest_converse {limit : Nat} {ms : List Message} (c : Config) (input : String)
    (h : ms = newest limit (xs.flatMap Exchange.messages)) :
    newest limit (Simulation.converse c input ms).1 =
      newest limit ((xs ++ [Exchange.mk input (Simulation.converse c input ms).2]).flatMap Exchange.messages) := by
  have hms : (Simulation.converse c input ms).1 =
      ms ++ (Exchange.mk input (Simulation.converse c input ms).2).messages := List.append_assoc ..
  rw [hms, newest_append_exchange _ h]

/-- What is done for session `t` gives it other exchanges, and leaves the other sessions as they are. -/
theorem Remembers.update (h : b.Remembers s xs) {ys : List Exchange} {h' : Chat.Histories}
    (hlimit : h'.limit = b.histories.limit)
    (hself : t = s → h'.history s = newest b.histories.limit (ys.flatMap Exchange.messages))
    (hother : s ≠ t → h'.history s = b.histories.history s) :
    Remembers { b with histories := h' } s (if t = s then ys else xs) := by
  show h'.history s = newest h'.limit _
  rw [hlimit]
  by_cases hts : t = s
  · rw [if_pos hts]
    exact hself hts
  · rw [if_neg hts, hother (Ne.symm hts)]
    exact h

theorem Remembers.of_histories_eq {b' : Builder} (h : b.Remembers s xs) (hb : b'.histories = b.histories) :
    b'.Remembers s xs := by
  rw [Remembers, hb]
  exact h

theorem Remembers.simulate (h : b.Remembers s xs) (payload input : Value) (t : String) :
    (b.simulate payload input t).1.Remembers s (addOutcome s t xs (b.simulate payload input t).2) := by
  by_cases hrecalls : ∃ w n, Recalls b.room payload input w n
  · obtain ⟨w, n, hrecalls⟩ := hrecalls
    rw [simulate_of_recalls hrecalls, addOutcome]
    simp only [and_true]
    refine h.update (Chat.Histories.limit_within ..) (fun hts => ?_) fun hts => ?_
    · subst hts
      rw [Chat.Histories.history_within_self, Chat.Histories.snd_within]
      exact newest_converse w.config _ h
    · exact Chat.Histories.history_within_of_ne _ hts _
  · obtain ⟨hsame, hplain⟩ := simulate_of_not_recalls hrecalls t
    rw [hsame]
    cases hresult : (b.simulate payload input t).2 with
    | error fault => exact h
    | ok o =>
      rw [addOutcome, if_neg (fun hand => by rw [hplain o hresult] at hand; cases hand.2)]
      exact h

/-- Clearing and forgetting leave a session without exchanges. -/
theorem Remembers.empty (h : b.Remembers s xs) {h' : Chat.Histories} (hlimit : h'.limit = b.histories.limit)
    (hself : h'.history t = []) (hother : s ≠ t → h'.history s = b.histories.history s) :
    Remembers { b with histories := h' } s (if t = s then [] else xs) := by
  refine h.update hlimit (fun hts => ?_) hother
  rw [← hts, hself]
  exact (Chat.Histories.newest_nil _).symm

theorem Remembers.clear (h : b.Remembers s xs) (t : String) :
    Remembers { b with histories := b.histories.clear t } s (if t = s then [] else xs) :=
  h.empty (Chat.Histories.limit_clear ..) (Chat.Histories.history_clear_self ..) (Chat.Histories.history_clear_of_ne _)

theorem Remembers.forget (h : b.Remembers s xs) (t : String) :
    Remembers { b with histories := b.histories.forget t } s (if t = s then [] else xs) :=
  h.empty (Chat.Histories.limit_forget ..) (Chat.Histories.history_forget_self ..) (Chat.Histories.history_forget_of_ne _)

theorem Remembers.append (h : b.Remembers s xs) (t user assistant : String) :
    Remembers { b with histories := (b.histories.exchange t (.str user) (.str assistant)).1 } s
      (if t = s then xs ++ [⟨user, assistant⟩] else xs) := by
  refine h.update (Chat.Histories.limit_exchange ..) (fun hts => ?_)
    fun hts => Chat.Histories.history_exchange_of_ne _ hts ..
  rw [hts, Chat.Histories.history_exchange_self]
  exact newest_append_exchange ⟨user, assistant⟩ h

theorem texts_of_inExchanges {user assistant : Value}
    (hc : (Command.chat (.append t user assistant)).inExchanges = true) :
    ∃ u a, user = .str u ∧ assistant = .str a := by
  cases user with
  | str u =>
    cases assistant with
    | str a => exact ⟨u, a, rfl, rfl⟩
    | _ => cases hc
  | _ => cases hc

theorem histories_run_chat (b : Builder) (c : Chat.Command) :
    (b.run (.chat c)).1.histories = (b.histories.run c).1 := rfl

/-- **One command keeps the history the end of the exchanges.** -/
theorem Remembers.run (h : b.Remembers s xs) {c : Command} (hc : c.inExchanges = true) :
    (b.run c).1.Remembers s (record s xs (c, (b.run c).2)) := by
  cases c with
  | chat c =>
    cases c with
    | append t user assistant =>
      obtain ⟨u, a, rfl, rfl⟩ := texts_of_inExchanges hc
      exact (h.append t u a).of_histories_eq (by rw [histories_run_chat, Chat.Histories.run])
    | messages t =>
      have hrun : (b.run (.chat (.messages t))).1.histories = (b.histories.messages t).1 := by
        rw [histories_run_chat, Chat.Histories.run]
      rw [Remembers, hrun, Chat.Histories.history_messages, Chat.Histories.limit_messages]
      exact h
    | clear t => exact (h.clear t).of_histories_eq (by rw [histories_run_chat, Chat.Histories.run])
    | forget t => exact (h.forget t).of_histories_eq (by rw [histories_run_chat, Chat.Histories.run])
    | state => exact h.of_histories_eq (by rw [histories_run_chat, Chat.Histories.run])
    | scope => cases hc
  | execute payload input session => exact h.simulate payload input (sessionOr session)
  | simulate payload input t => exact h.simulate payload input t
  | clearHistory session => exact h.clear (sessionOr session)
  | generate | build | publish | fetch | release => exact h.of_histories_eq (histories_run b rfl)

theorem Remembers.runAll : ∀ (cs : List Command) {b : Builder} {xs : List Exchange}, b.Remembers s xs →
    cs.all Command.inExchanges = true →
    (b.runAll cs).1.Remembers s ((cs.zip (b.runAll cs).2).foldl (record s) xs)
  | [], _, _, h, _ => h
  | c :: cs, _, _, h, hcs => by
    rw [List.all_cons, Bool.and_eq_true] at hcs
    exact Remembers.runAll cs (h.run hcs.1) hcs.2

theorem remembers_ofSettings (settings : Settings) (s : String) : (ofSettings settings).Remembers s [] :=
  (Chat.Histories.newest_nil settings.historyLimit).symm

/-- **The history is the end of the ledger.** -/
theorem remembers_ledger (settings : Settings) {cs : List Command} (hcs : cs.all Command.inExchanges = true)
    (s : String) : ((ofSettings settings).runAll cs).1.Remembers s (ledger (ofSettings settings) s cs) :=
  Remembers.runAll cs (remembers_ofSettings settings s) hcs

/-- A workflow with memory and nothing else. -/
def remembering : Value :=
  .obj [("nodes", .arr [.obj [("id", .str "m"), ("type", .str "llm"), ("data", .obj [("memory", .bool true)])]])]

end Builder
end FlowBundle
