import FlowBundle.Json.Display
import FlowBundle.Text.Blank
import FlowBundle.Text.Split
/-!
# Requests and responses

A request has the scheme and the site at which it comes in, a path and a query, headers whose names are
read in any case, and a body, which is empty if there is none.  A response has a status, what it carries, and the headers
that are of interest beyond the type of its content.
-/
namespace FlowBundle
namespace Http

structure Request where
  method : String
  scheme : String := "http"
  site : String
  path : String
  query : List Char := []
  headers : List (String × String) := []
  body : Bytes := []

inductive Content where
  | json (v : Json.Value)
  | plain (s : String)
  | page (s : String)
  | archive (bytes : Bytes)
  | nothing

structure Response where
  status : Nat
  content : Content
  disposition : Option String := none
  location : Option String := none
  allowedOrigin : Option String := none

def Request.header? (r : Request) (name : String) : Option String :=
  (r.headers.find? fun h => h.1.map Char.toLower == name).map (·.2)

/-! ## Types of content -/

def mediaType? (header : String) : Option (String × String) :=
  let name := Text.trimChars Text.isBlank (header.toList.takeWhile (· != ';'))
  match Text.split '/' (name.map Char.toLower) with
  | [main, sub] => some (String.ofList main, String.ofList sub)
  | _ => none

/-- **A type of content that is JSON**: the plain one, or one that is built on it. -/
def isJsonType (header : String) : Bool :=
  match mediaType? header with
  | some ("application", sub) => sub == "json" || "+json".toList.isSuffixOf sub.toList
  | _ => false

def Request.carriesJson (r : Request) : Bool := isJsonType ((r.header? "content-type").getD "")

def Content.type? : Content → Option String
  | .json _ => some "application/json"
  | .plain _ => some "text/plain; charset=utf-8"
  | .page _ => some "text/html; charset=utf-8"
  | .archive _ => some "application/zip"
  | .nothing => none

/-! ## Common responses -/

def ok (v : Json.Value) : Response := { status := 200, content := .json v }

def detail (status : Nat) (v : Json.Value) : Response :=
  { status := status, content := .json (.obj [("detail", v)]) }

def breakdown : Response := { status := 500, content := .plain "Internal Server Error" }

end Http
end FlowBundle
