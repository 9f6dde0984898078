import FlowBundle.Builder.Basic
import FlowBundle.Http.Message
import FlowBundle.Json.Encoding
import FlowBundle.Json.Reader
import FlowBundle.Violation
/-!
# Bodies

The body of a request is the JSON text of a value, or there is none.  A body that is not said to be
JSON stands for its own text.  What a route needs is taken from the value, with everything wrong with
it in the answer to a value that does not have it.
-/
namespace FlowBundle
namespace Http

open Json (Value Members)

inductive Body where
  | none
  | value (v : Value)

/-! ## Details -/

/-- Members whose name begins like this are kept back from the details. -/
def hiddenMark : String := "_sa"

def isHidden (name : String) : Bool := hiddenMark.toList.isPrefixOf name.toList

mutual
/-- **A value without its hidden members**, at any depth. -/
def shown : Value → Value
  | .arr items => .arr (shownItems items)
  | .obj members => .obj (shownMembers members)
  | v => v

def shownItems : List Value → List Value
  | [] => []
  | v :: vs => shown v :: shownItems vs

def shownMembers : List (String × Value) → List (String × Value)
  | [] => []
  | (name, v) :: ms => if isHidden name then shownMembers ms else (name, shown v) :: shownMembers ms
end

def violationDetail (v : Violation) : Value :=
  .obj [("type", .str v.rule.code), ("loc", .arr ((("body" : String) :: v.place).map .str)),
    ("msg", .str v.rule.message), ("input", shown v.found)]

def unprocessable (vs : List Violation) : Response := detail 422 (.arr (vs.map violationDetail))

def unreadable : Response := detail 400 (.str "There was an error parsing the body")

def noJson : Json.ReadError → Response
  | .fault problem index _ _ =>
    detail 422 (.arr [.obj [("type", .str "json_invalid"), ("loc", .arr [.str "body", .int index]),
      ("msg", .str "JSON decode error"), ("input", .obj []), ("ctx", .obj [("error", .str problem.text)])]])
  | .longInteger _ | .tooDeep _ => unreadable

/-! ## Reading -/

def readJson (bytes : Bytes) : Except Response Body :=
  match Json.textOfBytes? bytes with
  | none => .error unreadable
  | some text => ((Json.readMarked ({} : Json.Limits).reading text).mapError noJson).map .value

/-- **What the body of a request holds.** -/
def Request.read (r : Request) : Except Response Body :=
  if r.body = [] then .ok .none
  else if r.carriesJson then readJson r.body
  else .ok (.value (.str (Utf8.decodeRepaired r.body)))

def required {α : Type} (check : Value → Checked α) : Body → Checked α
  | .none => .error [⟨[], .required, .null⟩]
  | .value v => check v

def payloadOf : Value → Checked Value
  | .obj ms => .ok (.obj ms)
  | v => .error [⟨[], .object, v⟩]

structure ExecuteRequest where
  workflow : Value
  input : String
  session : String

def workflowOf (ms : Members) : Checked Value :=
  match ms.get? "workflow" with
  | some (.obj w) => .ok (.obj w)
  | some v => .error [⟨["workflow"], .object, v⟩]
  | none => .error [⟨["workflow"], .required, .obj ms⟩]

def textOr (default key : String) (ms : Members) : Checked String :=
  match ms.get? key with
  | some (.str s) => .ok s
  | some v => .error [⟨[key], .text, v⟩]
  | none => .ok default

/-- The session has two spellings, of which the first one wins. -/
def sessionOf (ms : Members) : Checked String :=
  textOr Builder.defaultSession (if ms.has "sessionId" then "sessionId" else "session_id") ms

def ExecuteRequest.ofValue : Value → Checked ExecuteRequest
  | .obj ms =>
    (Checked.both (workflowOf ms) (Checked.both (textOr "" "input" ms) (sessionOf ms))).map fun p =>
      ⟨p.1, p.2.1, p.2.2⟩
  | v => .error [⟨[], .requestObject, v⟩]

/-- The session whose history is to be cleared; `null` is as good as no body. -/
def sessionToClear : Body → Checked String
  | .none => .ok Builder.defaultSession
  | .value .null => .ok Builder.defaultSession
  | .value (.obj ms) => sessionOf ms
  | .value v => .error [⟨[], .requestObject, v⟩]

end Http
end FlowBundle
