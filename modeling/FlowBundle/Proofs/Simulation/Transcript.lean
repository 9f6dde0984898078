import FlowBundle.Proofs.Simulation.Ledger
import Mathlib.Data.List.DropRight
/-!
# The transcript of a session

Executions with memory leave their exchanges in the history of their session, and everything an answer recalls is read
from that history, which is cut to its newest messages.  Here both are said in terms of the whole transcript, the
exchanges since the session was last cleared (`history_and_answer_of_transcript`): the history is its end, and the
number and the question that an answer recalls have a closed form.
-/
namespace FlowBundle
namespace Simulation

open Chat (Message)
open Chat.Histories (newest newest_nil length_newest)
open Json (Value)

/-- The last exchange is whole as long as two messages are kept. -/
theorem newest_append_messages {limit : Nat} (hlimit : 2 ≤ limit) (ms : List Message) (x : Exchange) :
    newest limit (ms ++ x.messages) = newest (limit - 2) ms ++ x.messages := by
  have hlen : x.messages.length = 2 := rfl
  rw [newest, newest, List.length_append, hlen, List.drop_append_of_le_length (by omega)]
  congr 2
  omega

theorem recollection_of_first (limit : Nat) (input : String) :
    recollection (newest limit [] ++ [⟨.human, .text input⟩]) = "" := by
  rw [newest_nil]
  rfl

/-- **The closed form of what an answer recalls.** -/
theorem recollection_newest {limit : Nat} (hlimit : 2 ≤ limit) (xs : List Exchange) (x : Exchange) (input : String) :
    recollection (newest limit ((xs ++ [x]).flatMap Exchange.messages) ++ [⟨.human, .text input⟩]) =
      "I notice this is message #" ++ toString (min (xs.length + 1) (limit / 2) + 1) ++ " in our conversation. " ++
        ("Earlier you asked about \"" ++ String.ofList (x.input.toList.take 30) ++ "...\". ") ++
        "\n\nWith memory enabled, I'm maintaining the full conversation context." := by
  have hkept : (newest limit ((xs ++ [x]).flatMap Exchange.messages)).length = min (2 * (xs.length + 1)) limit := by
    rw [length_newest, length_flatMap_messages, List.length_append, List.length_singleton, Nat.min_comm]
  have hnumber : exchangeNumber (newest limit ((xs ++ [x]).flatMap Exchange.messages) ++ [⟨.human, .text input⟩]) =
      min (xs.length + 1) (limit / 2) + 1 := by
    rw [exchangeNumber, List.length_append, hkept, List.length_singleton]
    omega
  have hearlier : earlierQuestion? (newest limit ((xs ++ [x]).flatMap Exchange.messages) ++
      [⟨.human, .text input⟩]) = some ⟨.human, .text x.input⟩ := by
    rw [earlierQuestion?, List.dropLast_concat, List.flatMap_append, List.flatMap_singleton,
      newest_append_messages hlimit, List.filter_append]
    exact List.getLast?_concat
  have hlong : ¬ (newest limit ((xs ++ [x]).flatMap Exchange.messages) ++
      [(⟨.human, .text input⟩ : Message)]).length ≤ 1 := by
    rw [List.length_append, hkept, List.length_singleton]
    omega
  rw [recollection, if_neg hlong, hnumber, hearlier]
  rfl

theorem answer_of_memory {c : Config} (hc : c.memory = true) (input : String) (ms : List Message) :
    answer c input ms =
      "This is a simulated response from " ++ c.model ++ " to your input: \"" ++ input ++ "\".\n\n" ++
        recollection ms ++ explanation true := by
  have haside : aside c.memory ms = recollection ms := by rw [hc]; rfl
  unfold answer
  rw [haside, hc]

end Simulation

namespace Builder

open Chat (Message)
open Chat.Histories (newest)
open Json (Value)
open Simulation (Exchange Outcome Recalls)

/-! ## Turns -/

inductive Turn where
  | execute (payload input : Value) (session : Option String)
  | clear (session : Option String)

def Turn.command : Turn → Command
  | execute payload input session => .execute payload input session
  | clear session => .clearHistory session

/-- The exchanges of a session after one more turn and the reply to it. -/
def note (s : String) (xs : List Exchange) : Turn × Reply → List Exchange
  | (.execute _ _ session, .executed (.ok o)) =>
    if sessionOr session = s ∧ o.memory = true then xs ++ [⟨o.input, o.output⟩] else xs
  | (.clear session, _) => if sessionOr session = s then [] else xs
  | _ => xs

/-- **The transcript of a session**: the exchanges, executed with memory, since it was last cleared. -/
def transcript (b : Builder) (s : String) (turns : List Turn) : List Exchange :=
  (turns.zip (b.runAll (turns.map Turn.command)).2).foldl (note s) []

/-! ## Turns and the ledger -/

theorem note_eq_record (s : String) (xs : List Exchange) :
    ∀ p : Turn × Reply, note s xs p = record s xs (Prod.map Turn.command id p)
  | (.execute .., .executed (.ok _)) => rfl
  | (.execute .., .executed (.error _)) => rfl
  | (.execute .., .chat _) | (.execute .., .generated _) | (.execute .., .built _) | (.execute .., .published ..)
  | (.execute .., .fetched _) | (.execute .., .released _) | (.execute .., .simulated _) | (.execute .., .cleared) => rfl
  | (.clear _, _) => rfl

theorem foldl_note (s : String) (turns : List Turn) (replies : List Reply) (xs : List Exchange) :
    (turns.zip replies).foldl (note s) xs = ((turns.map Turn.command).zip replies).foldl (record s) xs := by
  have hnote : note s = fun xs p => record s xs (Prod.map Turn.command id p) :=
    funext fun xs => funext (note_eq_record s xs)
  rw [List.zip_map_left, List.foldl_map, hnote]

theorem all_inExchanges_command (turns : List Turn) : (turns.map Turn.command).all Command.inExchanges = true := by
  rw [List.all_map, List.all_eq_true]
  intro turn _
  cases turn <;> rfl

theorem remembers_runAll (s : String) (turns : List Turn) {b : Builder} {xs : List Exchange} (h : b.Remembers s xs) :
    (b.runAll (turns.map Turn.command)).1.Remembers s
      ((turns.zip (b.runAll (turns.map Turn.command)).2).foldl (note s) xs) := by
  rw [foldl_note]
  exact Remembers.runAll _ h (all_inExchanges_command turns)

/-- The builder after some turns. -/
def played (settings : Settings) (turns : List Turn) : Builder :=
  ((ofSettings settings).runAll (turns.map Turn.command)).1

theorem limit_played (settings : Settings) (turns : List Turn) :
    (played settings turns).histories.limit = settings.historyLimit :=
  limit_runAll (turns.map Turn.command) (ofSettings settings)

theorem room_played (settings : Settings) (turns : List Turn) :
    (played settings turns).room = (ofSettings settings).room :=
  room_runAll (turns.map Turn.command) (ofSettings settings)

theorem history_played (settings : Settings) (turns : List Turn) (s : String) :
    (played settings turns).histories.history s =
      newest settings.historyLimit ((transcript (ofSettings settings) s turns).flatMap Exchange.messages) := by
  rw [← limit_played settings turns]
  exact remembers_runAll s turns (remembers_ofSettings settings s)

/-- The answer of an execution that takes part in its session. -/
theorem execute_played (settings : Settings) (turns : List Turn) {payload input : Value} {w : Workflow} {n : Node}
    (h : Recalls (ofSettings settings).room payload input w n) (session : Option String) :
    ∃ o, ((played settings turns).execute payload input session).2 = .ok o ∧
      o.memory = true ∧ o.input = input.givenText ∧ o.model = w.config.model ∧
      o.output = "This is a simulated response from " ++ o.model ++ " to your input: \"" ++ o.input ++ "\".\n\n" ++
        Simulation.recollection (newest settings.historyLimit
          ((transcript (ofSettings settings) (sessionOr session) turns).flatMap Exchange.messages) ++
            [⟨.human, .text o.input⟩]) ++ Simulation.explanation true := by
  have hmemory : w.config.memory = true := (Simulation.config_of_first h.first).2.trans h.memory
  rw [← room_played settings turns] at h
  rw [execute, simulate_of_recalls h, Chat.Histories.snd_within, history_played]
  exact ⟨_, rfl, rfl, rfl, rfl, Simulation.answer_of_memory hmemory _ _⟩

/-- **History and answers follow the transcript.**  After any executions and clearings the history of each session is
the end of its transcript.  The next execution with memory has nothing to recall if the transcript is empty, and else
gives the number that the limit allows and the first thirty characters of the question before.  Any other execution
changes nothing. -/
theorem history_and_answer_of_transcript (settings : Settings) (turns : List Turn) :
    (∀ s, (played settings turns).histories.history s =
      ((transcript (ofSettings settings) s turns).flatMap Exchange.messages).rtake settings.historyLimit) ∧
    ∀ (payload input : Value) (session : Option String),
      (∀ w n, Recalls (ofSettings settings).room payload input w n →
        ∃ o, ((played settings turns).execute payload input session).2 = .ok o ∧
          o.memory = true ∧ o.input = input.givenText ∧ o.model = w.config.model ∧
          (transcript (ofSettings settings) (sessionOr session) turns = [] →
            o.output = "This is a simulated response from " ++ o.model ++ " to your input: \"" ++ o.input ++
              "\".\n\n" ++ Simulation.explanation true) ∧
          ∀ xs x, transcript (ofSettings settings) (sessionOr session) turns = xs ++ [x] →
            o.output = "This is a simulated response from " ++ o.model ++ " to your input: \"" ++ o.input ++
              "\".\n\n" ++
              ("I notice this is message #" ++ toString (min (xs.length + 1) (settings.historyLimit / 2) + 1) ++
                " in our conversation. " ++
                ("Earlier you asked about \"" ++ String.ofList (x.input.toList.take 30) ++ "...\". ") ++
                "\n\nWith memory enabled, I'm maintaining the full conversation context.") ++
              Simulation.explanation true) ∧
      ((¬ ∃ w n, Recalls (ofSettings settings).room payload input w n) →
        ((played settings turns).execute payload input session).1 = played settings turns ∧
        ∀ o, ((played settings turns).execute payload input session).2 = .ok o → o.memory = false) := by
  refine ⟨history_played settings turns, fun payload input session => ⟨fun w n h => ?_, fun h => ?_⟩⟩
  · obtain ⟨o, hexecute, hmemory, hinput, hmodel, houtput⟩ := execute_played settings turns h session
    refine ⟨o, hexecute, hmemory, hinput, hmodel, fun hfirst => ?_, fun xs x hlater => ?_⟩
    · rw [houtput, hfirst, List.flatMap_nil, Simulation.recollection_of_first, String.append_empty]
    · rw [houtput, hlater, Simulation.recollection_newest settings.two_le_historyLimit]
  · rw [← room_played settings turns] at h
    exact simulate_of_not_recalls h (sessionOr session)

/-- A question in session `a`, after two others there were cleared away, and another one elsewhere. -/
def colours : List Turn :=
  [.execute remembering (.str "Hello?") (some "a"), .execute remembering (.str "Who?") (some "a"), .clear (some "a"),
    .execute remembering (.str "How many colours does a rainbow have?") (some "a"),
    .execute remembering (.str "Where?") none]

theorem history_and_answer_of_transcript_colours : ∃ w n o,
    Recalls (ofSettings keepingThree).room remembering (.str "Why?") w n ∧
    ((played keepingThree colours).execute remembering (.str "Why?") (some "a")).2 = .ok o ∧
    o.output = "This is a simulated response from " ++ "gemini-2.0-flash" ++ " to your input: \"" ++ "Why?" ++
      "\".\n\n" ++
      ("I notice this is message #" ++ "2" ++ " in our conversation. " ++
        ("Earlier you asked about \"" ++ "How many colours does a rainbo" ++ "...\". ") ++
        "\n\nWith memory enabled, I'm maintaining the full conversation context.") ++
      Simulation.explanation true := by
  have hrecalls : Recalls (ofSettings keepingThree).room remembering (.str "Why?") _ _ :=
    ⟨rfl, rfl, by decide, by decide, by decide⟩
  obtain ⟨o, hexecute, -, hinput, hmodel, -, hlater⟩ :=
    ((history_and_answer_of_transcript keepingThree colours).2 remembering (.str "Why?") (some "a")).1 _ _ hrecalls
  refine ⟨_, _, o, hrecalls, hexecute, ?_⟩
  rw [hlater [] ⟨"How many colours does a rainbow have?", _⟩ rfl, hinput, hmodel]
  rfl

end Builder
end FlowBundle
