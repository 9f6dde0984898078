import FlowBundle.Http.Service
import FlowBundle.Http.Target
import FlowBundle.Text.Ascii
import FlowBundle.Text.LetterCase
/-!
# Exchanges

A client makes a call, and sees what comes back of it.  A call that cannot be sent never reaches the
service.  A response that cannot be written is replaced by that of a service that fails on the way,
and headers that cannot be read on the way back leave nothing but the status of a failure.  The client
does not follow a response that sends it on, but it gets ready to.
-/
namespace FlowBundle
namespace Http

open Json (Value)

structure Call where
  method : String
  target : String
  headers : List (String × String) := []
  body : Bytes := []

inductive CallFault where
  | target (fault : Target.Fault)
  | header (fault : Ascii.Fault)
  | scheme (name : String)
  | host (fault : Host.NameFault)
  | location (fault : Target.Fault)
  | body (error : Json.ReadError)

def CallFault.message : CallFault → String
  | .target fault => fault.message
  | .header fault => fault.message
  | .scheme name => Text.quoted name
  | .host fault => fault.message
  | .location fault => "Invalid URL in location header: " ++ fault.message ++ "."
  | .body error => error.message

namespace Call

/-- What keeps the headers from being sent, names before their values. -/
def headerFault? (c : Call) : Option Ascii.Fault :=
  c.headers.findSome? fun h => (Ascii.fault? h.1).or (Ascii.fault? h.2)

def namesHost (c : Call) : Bool := c.headers.any fun h => h.1.map Char.toLower == "host"

def sentHeaders (c : Call) (target : Target) : List (String × String) :=
  if c.namesHost then c.headers else ("host", target.authority.site) :: c.headers

/-- The host of a target is only looked at to be named. -/
def hostFault? (c : Call) (target : Target) : Option Host.NameFault :=
  if c.namesHost then none else Host.fault? target.authority.host

/-- **The request that a call sends** to a target. -/
def requestFor (c : Call) (target : Target) : Except CallFault Request :=
  match c.headerFault?, c.hostFault? target, Ascii.fault? target.authority.site with
  | some fault, _, _ => .error (.header fault)
  | none, some fault, _ => .error (.host fault)
  | none, none, some fault => .error (.header fault)
  | none, none, none =>
    if target.isServed then
      .ok { method := Text.upper c.method
            scheme := target.scheme
            site := target.authority.site
            path := target.servedPath
            query := target.query
            headers := c.sentHeaders target
            body := c.body }
    else .error (.scheme target.scheme)

end Call

/-- What keeps a client from being sent on from a target to a location, to which it takes the fragment
if the location has none.  It compares the two hosts. -/
def Target.locationFault? (t : Target) (location : String) : Option CallFault :=
  match Target.ofText location with
  | .error fault => some (.location fault)
  | .ok next =>
    let hostFault? (t : Target) : Option CallFault := (Host.fault? t.authority.host).map .host
    let fragmentFault? := if next.fragment = [] then t.fragmentFault?.map .target else none
    ((hostFault? next).or fragmentFault?).or (hostFault? t)

mutual
/-- A value that holds an infinity or no number, which no response can carry. -/
def hasSpecialNumber : Value → Bool
  | .float .nan => true
  | .float (.infinite _) => true
  | .arr items => anySpecialNumber items
  | .obj members => anySpecialMember members
  | _ => false

def anySpecialNumber : List Value → Bool
  | [] => false
  | v :: vs => hasSpecialNumber v || anySpecialNumber vs

def anySpecialMember : List (String × Value) → Bool
  | [] => false
  | (_, v) :: ms => hasSpecialNumber v || anySpecialMember ms
end

namespace Response

def headerBytes? (s : String) : Option Bytes :=
  if s.toList.all fun c => decide (c.toNat < 0x100) then some (s.toList.map (·.toNat.toUInt8)) else none

def headless : Response := { status := 500, content := .nothing }

/-- **The response as it comes in**, written by the service and read by the client. -/
def carried (r : Response) : Except CallFault Response :=
  match r.content, r.disposition with
  | .json v, _ => .ok (if hasSpecialNumber v then breakdown else r)
  | _, none => .ok r
  | _, some disposition =>
    match headerBytes? disposition with
    | none => .ok breakdown
    | some bytes =>
      match Utf8.decode bytes with
      | .error _ => .ok headless
      | .ok text =>
        match Ascii.fault? text with
        | some fault => .error (.header fault)
        | none => .ok r

/-- The response to a question for the headers alone: the body is left out, and JSON cannot be read
from nothing. -/
def withoutBody (r : Response) : Except CallFault Response :=
  match r.content with
  | .json _ =>
    match Json.read "" with
    | .error error => .error (.body error)
    | .ok v => .ok { r with content := .json v }
  | .plain _ => .ok { r with content := .plain "" }
  | .page _ => .ok { r with content := .page "" }
  | .archive _ => .ok { r with content := .archive [] }
  | .nothing => .ok r

end Response

/-- **The response as the client has it**, once it is ready to be sent on. -/
def Response.taken (r : Response) (target : Target) (method : String) : Except CallFault Response :=
  match r.location.bind target.locationFault? with
  | some fault => .error fault
  | none => if method = "HEAD" then r.withoutBody else .ok r

/-- **One exchange**: the service after it, and what the client has of it. -/
def Service.exchange (s : Service) (newId : String) (c : Call) : Service × Except CallFault Response :=
  match Target.ofText c.target with
  | .error fault => (s, .error (.target fault))
  | .ok target =>
    match c.requestFor target with
    | .error fault => (s, .error fault)
    | .ok r =>
      let (s, response) := s.respond newId r
      (s, response.carried.bind fun response => response.taken target r.method)

end Http
end FlowBundle
