import FlowBundle.Proofs.Simulation.Ledger
/-!
# Whole exchanges

A history is cut to its newest messages and not to its newest exchanges, so it depends on the limit whether exchanges
stay whole.  With an even limit they do.  With an odd one they do as long as nothing is cut; from then on the history
begins with an answer whose question is gone (`history_whole_or_halved`).
-/
namespace FlowBundle
namespace Simulation

open Chat (Message)
open Chat.Histories (newest)

theorem drop_flatMap_messages : ∀ (n : Nat) (xs : List Exchange),
    (xs.flatMap Exchange.messages).drop (2 * n) = (xs.drop n).flatMap Exchange.messages
  | 0, _ => rfl
  | n + 1, [] => by rw [List.flatMap_nil, List.drop_nil, List.drop_nil, List.flatMap_nil]
  | n + 1, x :: xs => drop_flatMap_messages n xs

/-- An even number of messages is a number of exchanges. -/
theorem newest_of_even {limit : Nat} {xs : List Exchange} (h : limit % 2 = 0 ∨ 2 * xs.length ≤ limit) :
    newest limit (xs.flatMap Exchange.messages) = (xs.drop (xs.length - limit / 2)).flatMap Exchange.messages := by
  rw [newest, length_flatMap_messages, ← drop_flatMap_messages]
  congr 1
  omega

/-- **An odd number of messages is an answer and a number of exchanges.** -/
theorem newest_of_odd {limit : Nat} {xs : List Exchange} (hodd : limit % 2 = 1) (hlong : limit < 2 * xs.length) :
    ∃ x, xs.drop (xs.length - limit / 2 - 1) = x :: xs.drop (xs.length - limit / 2) ∧
      newest limit (xs.flatMap Exchange.messages) =
        ⟨.assistant, .text x.output⟩ :: (xs.drop (xs.length - limit / 2)).flatMap Exchange.messages := by
  have hindex : xs.length - limit / 2 - 1 < xs.length := by omega
  have hdrop := List.drop_eq_getElem_cons hindex
  rw [Nat.sub_add_cancel (by omega)] at hdrop
  refine ⟨_, hdrop, ?_⟩
  have hcut : 2 * xs.length - limit = 2 * (xs.length - limit / 2 - 1) + 1 := by omega
  rw [newest, length_flatMap_messages, hcut, ← List.drop_drop, drop_flatMap_messages, hdrop]
  rfl

end Simulation

namespace Builder

open Simulation (Exchange)

/-- **Whole or halved.**  If the limit is even, or nothing has been cut yet, the history is made of the newest
exchanges, as many as the limit allows.  Else there is in front of them the answer of one more, without its question. -/
theorem history_whole_or_halved (settings : Settings) (cs : List Command) (hcs : cs.all Command.inExchanges = true)
    (s : String) :
    (settings.historyLimit % 2 = 0 ∨ 2 * (ledger (ofSettings settings) s cs).length ≤ settings.historyLimit →
      ∃ ys, ys <:+ ledger (ofSettings settings) s cs ∧
        ys.length = min (ledger (ofSettings settings) s cs).length (settings.historyLimit / 2) ∧
        ((ofSettings settings).runAll cs).1.histories.history s = ys.flatMap Exchange.messages) ∧
    (settings.historyLimit % 2 = 1 ∧ settings.historyLimit < 2 * (ledger (ofSettings settings) s cs).length →
      ∃ x ys, x :: ys <:+ ledger (ofSettings settings) s cs ∧ ys.length = settings.historyLimit / 2 ∧
        ((ofSettings settings).runAll cs).1.histories.history s =
          ⟨.assistant, .text x.output⟩ :: ys.flatMap Exchange.messages) := by
  have hhistory : ((ofSettings settings).runAll cs).1.histories.history s = _ := remembers_ledger settings hcs s
  rw [limit_runAll] at hhistory
  rw [hhistory]
  generalize ledger (ofSettings settings) s cs = xs
  refine ⟨fun heven => ?_, fun ⟨hodd, hlong⟩ => ?_⟩
  · refine ⟨_, List.drop_suffix .., ?_, Simulation.newest_of_even heven⟩
    rw [List.length_drop]
    show xs.length - (xs.length - settings.historyLimit / 2) = _
    omega
  · obtain ⟨x, hdrop, hnewest⟩ := Simulation.newest_of_odd hodd hlong
    refine ⟨x, _, hdrop ▸ List.drop_suffix .., ?_, hnewest⟩
    rw [List.length_drop]
    show xs.length - (xs.length - settings.historyLimit / 2) = _
    omega

def spokenTwice : List Command :=
  [.chat (.append "a" (.str "0") (.str "0")), .chat (.forget "a"), .chat (.append "a" (.str "1") (.str "2")),
    .execute remembering (.str "3") (some "a")]

theorem history_whole_or_halved_spokenTwice :
    spokenTwice.all Command.inExchanges = true ∧
    (keepingThree.historyLimit % 2 = 1 ∧
      keepingThree.historyLimit < 2 * (ledger (ofSettings keepingThree) "a" spokenTwice).length) ∧
    ∃ x ys, x :: ys <:+ ledger (ofSettings keepingThree) "a" spokenTwice ∧ ys.length = keepingThree.historyLimit / 2 ∧
      ((ofSettings keepingThree).runAll spokenTwice).1.histories.history "a" =
        ⟨.assistant, .text x.output⟩ :: ys.flatMap Exchange.messages :=
  have hhalved : keepingThree.historyLimit % 2 = 1 ∧
      keepingThree.historyLimit < 2 * (ledger (ofSettings keepingThree) "a" spokenTwice).length := by decide
  ⟨rfl, hhalved, (history_whole_or_halved keepingThree spokenTwice rfl "a").2 hhalved⟩

/-- Two exchanges are appended, and three messages are kept. -/
theorem not_whole_oddLimit :
    ¬ ∃ ys : List Exchange,
      ((ofSettings keepingThree).runAll [.chat (.append "a" (.str "1") (.str "2")),
        .chat (.append "a" (.str "3") (.str "4"))]).1.histories.history "a" = ys.flatMap Exchange.messages := by
  rintro ⟨ys, hys⟩
  have hlength := congrArg List.length hys
  rw [Simulation.length_flatMap_messages] at hlength
  have hthree : 3 = 2 * ys.length := hlength
  omega

end Builder
end FlowBundle
