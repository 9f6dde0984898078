import FlowBundle.Http.Body
import FlowBundle.Http.Description
import FlowBundle.Http.Route
/-!
# The service

The service answers requests with a builder of its own.  A request that comes from another origin is
answered like any other; whether the origin may see the answer is said in it.
-/
namespace FlowBundle
namespace Http

open Json (Value)

structure Service where
  builder : Builder
  origins : List String

namespace Service

def ofSettings (s : Settings) : Service := ⟨Builder.ofSettings s, s.origins⟩

def failure (message : String) : Response :=
  { status := 500, content := .json (.obj [("success", .bool false), ("error", .str message)]) }

def bundleFailure : Response := failure "Failed to generate backend"

def offerValue (o : Offer) : Value :=
  .obj [("provider", .str o.provider),
    ("models", .arr (o.models.map fun m => .obj [("id", .str m.1), ("name", .str m.2)])),
    ("apiKeyEnv", .str o.apiKeyEnv)]

def fileValue (f : File) : Value := .obj [("path", .str f.path), ("content", .str f.content)]

def bundleResponse : Except Bundle.Fault Builder.Stage → Response
  | .error _ => bundleFailure
  | .ok stage =>
    ok (.obj [("success", .bool true), ("files", .arr (stage.bundle.files.map fileValue)),
      ("executionResult", .str stage.summaryText)])

def archiveResponse : Except Builder.Fault Builder.Published → Response
  | .error _ => bundleFailure
  | .ok p =>
    ok (.obj [("success", .bool true), ("downloadUrl", .str (Shelf.handleOf p.id)),
      ("filename", .str p.stored.filename), ("size", .int p.stored.content.length),
      ("executionResult", .str p.stage.summaryText)])

def storedResponse (id : String) : Option Stored → Response
  | none => detail 404 (.str ("Archive not found: " ++ id))
  | some s =>
    { status := 200, content := .archive s.content
      disposition := some ("attachment; filename=\"" ++ s.filename ++ "\"") }

def executionResponse : Except Simulation.Fault Simulation.Outcome → Response
  | .error (.rejected _) | .error (.unspelt _) => failure "Failed to execute workflow"
  | .error .noModelNode =>
    ok (.obj [("success", .bool false), ("error", .str Simulation.Fault.noModelNode.message)])
  | .ok o =>
    ok (.obj [("success", .bool true), ("input", .str o.input), ("output", .str o.output),
      ("model", .str o.model), ("hasMemory", .bool o.memory)])

/-- A route's answer to a value that is taken from the body, or to what is wrong with the body. -/
def withBody {α : Type} (s : Service) (r : Request) (check : Body → Checked α) (answer : α → Service × Response) :
    Service × Response :=
  match r.read with
  | .error response => (s, response)
  | .ok body =>
    match check body with
    | .error vs => (s, unprocessable vs)
    | .ok a => answer a

/-- **The answer of a route to one of its methods.**  An archive that is made gets the id `newId`.  What the
documentation says is kept elsewhere. -/
def answer (s : Service) (newId : String) (r : Request) : Route → Service × Response
  | .health => (s, ok (.obj [("status", .str "ok")]))
  | .models =>
    (s, ok (.obj [("success", .bool true), ("models", .arr (catalog.map offerValue))]))
  | .bundle => s.withBody r (required payloadOf) fun payload => (s, bundleResponse (s.builder.generate payload))
  | .archive => s.withBody r (required payloadOf) fun payload =>
    let (builder, result) := s.builder.publish newId payload
    ({ s with builder := builder }, archiveResponse result)
  | .documentation => (s, { status := 200, content := .page "" })
  | .description => (s, ok Description.value)
  | .stored id =>
    if r.method = "DELETE" then
      let (shelf, released) := s.builder.shelf.release id
      ({ s with builder := { s.builder with shelf := shelf } },
        ok (.obj [("success", .bool true), ("released", .bool released)]))
    else (s, storedResponse id (s.builder.shelf.get? id))
  | .execution =>
    if r.method = "DELETE" then
      s.withBody r sessionToClear fun session =>
        ({ s with builder := s.builder.clearHistory (some session) },
          ok (.obj [("success", .bool true), ("message", .str "Conversation history cleared")]))
    else
      s.withBody r (required ExecuteRequest.ofValue) fun e =>
        let (builder, result) := s.builder.execute e.workflow (.str e.input) (some e.session)
        ({ s with builder := builder }, executionResponse result)

def route (s : Service) (newId : String) (r : Request) : Service × Response :=
  match Route.ofPath? r.path with
  | none =>
    if redirects r.path then (s, { status := 307, content := .nothing, location := some r.location })
    else (s, detail 404 (.str "Not Found"))
  | some route =>
    if route.methods.contains r.method then s.answer newId r route
    else (s, detail 405 (.str "Method Not Allowed"))

/-! ## Origins -/

def allows (s : Service) (origin : String) : Bool := s.origins.contains "*" || s.origins.contains origin

def sharedMethods : List String := ["DELETE", "GET", "HEAD", "OPTIONS", "PATCH", "POST", "PUT", "QUERY"]

def allowed (s : Service) (origin : String) : Option String := if s.allows origin then some origin else none

/-- The answer to the question whether a page of another origin may send a request, which is never
allowed into a private network. -/
def preflight (s : Service) (origin method : String) (intoPrivate : Bool) : Response :=
  let failures := (if s.allows origin then [] else ["origin"]) ++
    (if sharedMethods.contains method then [] else ["method"]) ++
    (if intoPrivate then ["private-network"] else [])
  if failures.isEmpty then { status := 200, content := .plain "OK", allowedOrigin := s.allowed origin }
  else
    { status := 400, content := .plain ("Disallowed CORS " ++ ", ".intercalate failures)
      allowedOrigin := s.allowed origin }

/-- **One request**: the service after it, and the answer, with what is said about the origin. -/
def respond (s : Service) (newId : String) (r : Request) : Service × Response :=
  match r.header? "origin" with
  | none => s.route newId r
  | some origin =>
    match r.method, r.header? "access-control-request-method" with
    | "OPTIONS", some method =>
      (s, s.preflight origin method (r.header? "access-control-request-private-network").isSome)
    | _, _ =>
      let (s, response) := s.route newId r
      (s, { response with allowedOrigin := s.allowed origin })

end Service
end Http
end FlowBundle
