import FlowBundle.Chat.Histories
/-!
# Commands on histories

What can be asked of the histories, as data, so that a run is a list of commands.  A scope holds the
commands that are given while it is open.  It closes in the same way whether it is left at its end or
broken off.
-/
namespace FlowBundle
namespace Chat

inductive Command where
  | append (session : String) (user assistant : Json.Value)
  | messages (session : String)
  | clear (session : String)
  | forget (session : String)
  | state
  | scope (session : String) (added : List Draft) (keep : Option Int) (inner : List Command) (brokenOff : Bool)

inductive Reply where
  | messages (ms : List Message)
  | state (sessions : List String) (locks : Nat)
  | scope (inside : List Message) (inner : List Reply) (after : List Message)
  | refused (bad : BadContent)

/-- The front of some messages: so many of them, or, for a negative number, all but so many. -/
def front (ms : List Message) : Option Int → List Message
  | none => ms
  | some n => if 0 ≤ n then ms.take n.toNat else ms.take (ms.length - n.natAbs)

namespace Histories

def stateReply (h : Histories) : Reply := .state h.sessions h.lockCount

/-- The user's message and the answer to it, and then the history. -/
def exchange (h : Histories) (session : String) (user assistant : Json.Value) : Histories × Reply :=
  match h.append session [⟨.human, user⟩, ⟨.assistant, assistant⟩] with
  | (h, some bad) => (h, .refused bad)
  | (h, none) => ((h.messages session).1, .messages (h.messages session).2)

mutual
/-- **One command.** -/
def run (h : Histories) : Command → Histories × Reply
  | .append session user assistant => h.exchange session user assistant
  | .messages session => ((h.messages session).1, .messages (h.messages session).2)
  | .clear session => (h.clear session, (h.clear session).stateReply)
  | .forget session => (h.forget session, (h.forget session).stateReply)
  | .state => (h, h.stateReply)
  | .scope session added keep inner _ =>
    let h := h.opened session
    let ms := h.history session ++ (Draft.acceptAll added).1
    match (Draft.acceptAll added).2 with
    | some bad => ((h.setHistory session ms).closed session, .refused bad)
    | none =>
      let inside := front ms keep
      let result := runAll (h.setHistory session inside) inner
      let last := (result.1.closed session).messages session
      (last.1, .scope inside result.2 last.2)

def runAll (h : Histories) : List Command → Histories × List Reply
  | [] => (h, [])
  | c :: cs =>
    let first := run h c
    let rest := runAll first.1 cs
    (rest.1, first.2 :: rest.2)
end

end Histories
end Chat
end FlowBundle
