import FlowBundle.Http.Authority
/-!
# Targets

A client is given the target of a request as a text: the path on the service, or an address with a
scheme and a host before the path.  A query and a fragment may follow.  A target without scheme or host
leads to the service that the client knows: its path is taken from the root, and it keeps its query.

Steps back and steps on the spot are taken out of a path before its escapes are read.  The escapes
are read twice, once on each side of the connection.
-/
namespace FlowBundle
namespace Http

/-- Where a request goes.  Path and query are written with escapes, the fragment is as it was given. -/
structure Target where
  scheme : String
  authority : Authority
  path : List Char
  query : List Char
  fragment : List Char

namespace Target

inductive Part where
  | path
  | query
  | fragment
  deriving DecidableEq, Repr

def Part.text : Part → String
  | .path => "path"
  | .query => "query"
  | .fragment => "fragment"

inductive Fault where
  | tooLong
  | partTooLong (part : Part)
  | control (part : Option Part) (c : Char) (index : Nat)
  | authority (fault : Authority.Fault)
  | startsWith (mark : String)

def Fault.message : Fault → String
  | .tooLong => "URL too long"
  | .partTooLong part => "URL component '" ++ part.text ++ "' too long"
  | .control part c index =>
    "Invalid non-printable ASCII character in URL" ++
      (match part with
      | none => ""
      | some part => " " ++ part.text ++ " component") ++
      ", " ++ Text.quoted (String.singleton c) ++ " at position " ++ toString index ++ "."
  | .authority fault => fault.message
  | .startsWith mark => "Relative URLs cannot have a path starting with " ++ Text.quoted mark

/-- The longest target that is taken has this many characters, and so has the longest part. -/
def maxLength : Nat := 65536

def isControl (c : Char) : Bool := decide (c.toNat < 0x20) || c.toNat == 0x7F

def controlFault? (part : Option Part) (s : List Char) : Option Fault :=
  ((s.dropWhile fun c => !isControl c).head?).map fun c =>
    .control part c (s.takeWhile fun c => !isControl c).length

/-! ## Parts -/

def isSchemeChar (c : Char) : Bool := c.isAlphanum || c == '+' || c == '.' || c == '-'

/-- The scheme, which ends at a colon and begins with a letter, and the rest. -/
def takeScheme (s : List Char) : List Char × List Char :=
  let name := s.takeWhile isSchemeChar
  match s.dropWhile isSchemeChar with
  | ':' :: rest => if name.head?.all Char.isAlpha then (name, rest) else ([], s)
  | _ => ([], s)

def inAuthority (c : Char) : Bool := c != '/' && c != '?' && c != '#'

def takeAuthority : List Char → List Char × List Char
  | '/' :: '/' :: rest => (rest.takeWhile inAuthority, rest.dropWhile inAuthority)
  | s => ([], s)

def inPath (c : Char) : Bool := c != '?' && c != '#'

def takeQuery : List Char → List Char × List Char
  | '?' :: rest => (rest.takeWhile (· != '#'), rest.dropWhile (· != '#'))
  | s => ([], s)

def isPrintableBut (others : List Char) (c : Char) : Bool :=
  decide (0x20 < c.toNat) && decide (c.toNat < 0x7F) && !others.contains c

def isPathChar : Char → Bool :=
  isPrintableBut [Text.doubleQuote, '#', '<', '>', '?', '\x60', '\x7B', '\x7D']

def isQueryChar : Char → Bool := isPrintableBut [Text.doubleQuote, '#', '<', '>']

/-! ## Paths -/

/-- One component on the way: two dots take back the one before. -/
def advance (way : List (List Char)) (component : List Char) : List (List Char) :=
  if component = ['.'] then way
  else if component = ['.', '.'] then if way = [] ∨ way = [[]] then way else way.dropLast
  else way ++ [component]

def withoutDots (path : List Char) : List Char :=
  String.toList ("/".intercalate (((Text.split '/' path).foldl advance []).map String.ofList))

def pathFault? : List Char → Option Fault
  | '/' :: '/' :: _ => some (.startsWith "//")
  | ':' :: _ => some (.startsWith ":")
  | _ => none

/-! ## Targets of texts -/

def serviceHost : String := "testserver"

def onService (path query : List Char) : Except Fault Target :=
  let path := '/' :: path.dropWhile (· == '/')
  if maxLength < path.length then .error (.partTooLong .path)
  else if maxLength < query.length then .error (.partTooLong .query)
  else .ok ⟨"http", { host := serviceHost }, withoutDots path, query, []⟩

def ofParts (scheme : List Char) (authority : Authority) (path query fragment : List Char) :
    Except Fault Target :=
  let query := Text.escape isQueryChar query
  if scheme = [] ∧ authority.isGiven = false then
    match pathFault? path with
    | some fault => .error fault
    | none => onService (Text.escape isPathChar path) query
  else
    let path := Text.escape isPathChar (withoutDots path)
    if scheme = [] ∨ authority.host = "" then onService path query
    else .ok ⟨String.ofList (scheme.map Char.toLower), authority, path, query, fragment⟩

/-- **The target that a text stands for.** -/
def ofText (text : String) : Except Fault Target :=
  let cs := text.toList
  if maxLength < cs.length then .error .tooLong
  else match controlFault? none cs with
  | some fault => .error fault
  | none =>
    let (scheme, rest) := takeScheme cs
    let (authority, rest) := takeAuthority rest
    let (query, fragment) := takeQuery (rest.dropWhile inPath)
    match Authority.ofChars (String.ofList scheme) authority with
    | .error fault => .error (.authority fault)
    | .ok authority => ofParts scheme authority (rest.takeWhile inPath) query fragment.tail

/-! ## Requests for a target -/

def isServed (t : Target) : Bool := ["http", "https"].contains t.scheme

/-- **The path at which the service sees a target.** -/
def servedPath (t : Target) : String :=
  String.ofList (Text.unescaped (Text.unescaped (if t.path = [] then ['/'] else t.path)))

def fragmentFault? (t : Target) : Option Fault := controlFault? (some .fragment) (Text.unescaped t.fragment)

end Target
end Http
end FlowBundle
