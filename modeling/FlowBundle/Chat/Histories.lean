import FlowBundle.Chat.Message
import FlowBundle.Limit
import FlowBundle.Table
/-!
# Histories

Each session has a history of messages.  It begins when a scope on the session is opened for the
first time, and is cut to the newest `limit` messages when a scope closes, so that an exchange made
within one scope is whole as long as the scope is open.

A session's lock counts its users.  It is there as long as somebody uses the session or the session
has a history, so a session that was only asked for leaves nothing behind.
-/
namespace FlowBundle
namespace Chat

structure Histories where
  limit : Nat
  two_le_limit : 2 ≤ limit := by omega
  table : List (String × List Message) := []
  locks : List (String × Nat) := []

namespace Histories

def ofLimit (limit : Int) : Except TooSmall Histories :=
  (TooSmall.check "max_messages" 2 limit).map fun n => { limit := n.1, two_le_limit := n.2 }

def history (h : Histories) (session : String) : List Message := (List.lookup session h.table).getD []

def users (h : Histories) (session : String) : Nat := (List.lookup session h.locks).getD 0

def has (h : Histories) (session : String) : Bool := (List.lookup session h.table).isSome

def setHistory (h : Histories) (session : String) (ms : List Message) : Histories :=
  { h with table := Table.put session ms h.table }

def acquire (h : Histories) (session : String) : Histories :=
  { h with locks := Table.put session (h.users session + 1) h.locks }

/-- One user less; the last one takes the lock along if there is no history. -/
def release (h : Histories) (session : String) : Histories :=
  if h.users session - 1 = 0 ∧ h.has session = false then { h with locks := Table.erase session h.locks }
  else { h with locks := Table.put session (h.users session - 1) h.locks }

def newest (n : Nat) (ms : List Message) : List Message := ms.drop (ms.length - n)

def opened (h : Histories) (session : String) : Histories :=
  (h.acquire session).setHistory session (h.history session)

def closed (h : Histories) (session : String) : Histories :=
  (h.setHistory session (newest h.limit (h.history session))).release session

/-- **A scope in which the history is changed.** -/
def within {α : Type} (h : Histories) (session : String) (change : List Message → List Message × α) :
    Histories × α :=
  let result := change ((h.opened session).history session)
  (((h.opened session).setHistory session result.1).closed session, result.2)

def messages (h : Histories) (session : String) : Histories × List Message :=
  ((h.acquire session).release session, (h.acquire session).history session)

/-- **What is offered is added**, up to the first draft that is refused. -/
def append (h : Histories) (session : String) (drafts : List Draft) : Histories × Option BadContent :=
  h.within session fun ms => (ms ++ (Draft.acceptAll drafts).1, (Draft.acceptAll drafts).2)

/-- A history that there is becomes empty. -/
def clear (h : Histories) (session : String) : Histories :=
  let held := h.acquire session
  (if held.has session then held.setHistory session [] else held).release session

def forget (h : Histories) (session : String) : Histories :=
  let held := h.acquire session
  { held with table := Table.erase session held.table }.release session

def sessions (h : Histories) : List String := (Table.keys h.table).mergeSort fun a b => decide (a ≤ b)

def lockCount (h : Histories) : Nat := h.locks.length

end Histories
end Chat
end FlowBundle
