import FlowBundle.Host.Basic
import FlowBundle.Settings.NumberText
/-!
# Authorities

What stands between two slashes and the path of an address: the name of a user, the host, and the
number at which the host listens.  A number that goes without saying is left out.
-/
namespace FlowBundle
namespace Http

structure Authority where
  user : List Char := []
  host : String := ""
  number : Option Int := none

namespace Authority

inductive Fault where
  | host (fault : Host.Fault)
  | number (text : String)

def Fault.message : Fault → String
  | .host fault => fault.message
  | .number text => "Invalid port: " ++ Text.quoted text

def usualNumber? (scheme : String) : Option Int :=
  List.lookup scheme [("ftp", 21), ("http", 80), ("https", 443), ("ws", 80), ("wss", 443)]

/-- A host is in brackets or ends at a colon. -/
def takeHost (server : List Char) : List Char :=
  if server.head? = some '[' ∧ server.contains ']' then
    (server.reverse.dropWhile (· != ']')).reverse
  else server.takeWhile (· != ':')

def readNumber (scheme : String) (s : List Char) : Except Fault (Option Int) :=
  let text := String.ofList s
  if text = "" then .ok none
  else match NumberText.readInteger text with
    | .integer n => .ok (if usualNumber? scheme = some n then none else some n)
    | _ => .error (.number text)

/-- **The authority that a text stands for** under a scheme.  The host is read before the number. -/
def ofChars (scheme : String) (s : List Char) : Except Fault Authority :=
  let server := (s.reverse.takeWhile (· != '@')).reverse
  let host := takeHost server
  let rest := server.drop host.length
  let number := if rest.head? = some ':' then rest.tail else rest
  match if host = [] then .ok "" else Host.ofText (String.ofList host) with
  | .error fault => .error (.host fault)
  | .ok host => (readNumber scheme number).map fun number => ⟨s.take (s.length - server.length - 1), host, number⟩

def isGiven (a : Authority) : Bool := !(a.user.isEmpty && a.host == "" && a.number.isNone)

def site (a : Authority) : String :=
  match a.number with
  | none => Host.bracketed a.host
  | some n => Host.bracketed a.host ++ ":" ++ toString n

end Authority
end Http
end FlowBundle
