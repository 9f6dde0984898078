import FlowBundle.Http.Message
import FlowBundle.Http.Site
import FlowBundle.Shelf.Basic
/-!
# Routes

A route is found by its path, and a single line feed at the end of the path is overlooked.  A path
that leads nowhere, but would without the slashes at its end, is sent there, on the site that the request
names.
-/
namespace FlowBundle
namespace Http

/-- Where a path leads.  The routes are documented on pages for a reader, and in a description for a
program. -/
inductive Route where
  | health
  | models
  | bundle
  | archive
  | execution
  | documentation
  | description
  | stored (id : String)
  deriving DecidableEq, Repr

def Route.methods : Route → List String
  | .health => ["GET"]
  | .models => ["GET"]
  | .bundle => ["POST"]
  | .archive => ["POST"]
  | .execution => ["POST", "DELETE"]
  | .documentation => ["GET", "HEAD"]
  | .description => ["GET", "HEAD"]
  | .stored _ => ["GET", "DELETE"]

def fixedRoutes : List (String × Route) :=
  [("/api/health", .health), ("/api/langchain-models", .models), ("/api/generate-backend", .bundle),
   ("/api/generate-backend/archive", .archive), ("/api/execute-workflow", .execution),
   ("/docs", .documentation), ("/docs/oauth2-redirect", .documentation), ("/redoc", .documentation),
   ("/openapi.json", .description)]

def storedId? (path : String) : Option String :=
  if Shelf.handlePath.toList.isPrefixOf path.toList then
    let id := path.toList.drop Shelf.handlePath.toList.length
    if id = [] ∨ id.contains '/' then none else some (String.ofList id)
  else none

def withoutLineFeed (path : String) : String :=
  if path.toList.getLast? = some '\n' then String.ofList path.toList.dropLast else path

/-- **The route of a path.** -/
def Route.ofPath? (path : String) : Option Route :=
  match List.lookup (withoutLineFeed path) fixedRoutes with
  | some route => some route
  | none => (storedId? path).map .stored

def withoutSlashes (path : String) : String :=
  String.ofList (path.toList.reverse.dropWhile (· == '/')).reverse

/-- A path that ends in a slash and leads somewhere without it. -/
def redirects (path : String) : Bool :=
  path != "/" && path.toList.getLast? == some '/' && (Route.ofPath? (withoutSlashes path)).isSome

/-! ## Locations -/

/-- The site that a request names in a header, or else the one at which it came in. -/
def Request.namedSite (r : Request) : String := ((r.header? "host").filter Site.isSite).getD r.site

def isPathChar (c : Char) : Bool := c != '?' && c != '#'

def isLocationChar (c : Char) : Bool := Text.isUnreserved c || ":/%#?=@[]!$&'()*+,;".toList.contains c

/-- **Where a request is sent on to**: the same place without the slashes at the end of the path. -/
def Request.location (r : Request) : String :=
  let path := Text.escape isPathChar (withoutSlashes r.path).toList
  let query := if r.query = [] then [] else '?' :: r.query
  String.ofList (Text.escape isLocationChar ((r.scheme ++ "://" ++ r.namedSite).toList ++ path ++ query))

end Http
end FlowBundle
