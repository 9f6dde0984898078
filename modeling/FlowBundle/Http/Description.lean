import FlowBundle.Json.Basic
/-!
# The description of the service

What the service does, for programs: each operation with what it takes and what it answers, and the
shapes of the values that have a name.  Identifiers and titles of an operation are made of its name, its
path and its method.
-/
namespace FlowBundle
namespace Http
namespace Description

open Json (Value)

/-! ## Titles -/

def titleFrom (inWord : Bool) : List Char → List Char
  | [] => []
  | c :: rest => (if inWord then c.toLower else c.toUpper) :: titleFrom c.isAlpha rest

/-- **The title of a name** whose words have underscores between them. -/
def title (name : String) : String :=
  String.ofList ((titleFrom false name.toList).map fun c => if c = '_' then ' ' else c)

/-! ## Shapes of values -/

def text : Value := .str "string"

def ofType (type : String) : Value := .obj [("type", .str type)]

def titled (title : String) (members : List (String × Value)) : Value :=
  .obj (members ++ [("title", .str title)])

def named (name : String) : Value := .obj [("$ref", .str ("#/components/schemas/" ++ name))]

def anyObject : List (String × Value) := [("additionalProperties", .bool true), ("type", .str "object")]

/-- An object with a name: its members, and those of them that must be there. -/
def record (name : String) (members : List (String × Value)) (needed : List String) : String × Value :=
  (name, titled name ([("properties", .obj members), ("type", .str "object")] ++
    if needed = [] then [] else [("required", .arr (needed.map .str))]))

def textMember (name default : String) : String × Value :=
  (name, titled (title name) [("type", text), ("default", .str default)])

def sessionMember : String × Value := textMember "sessionId" "default"

def records : List (String × Value) :=
  [record "ClearHistoryRequest" [sessionMember] [],
   record "ExecuteRequest"
     [("workflow", titled "Workflow" anyObject), textMember "input" "", sessionMember] ["workflow"],
   record "HTTPValidationError"
     [("detail", titled "Detail" [("items", named "ValidationError"), ("type", .str "array")])] [],
   record "ValidationError"
     [("loc", titled "Location" [("items", .obj [("anyOf", .arr [ofType "string", ofType "integer"])]),
        ("type", .str "array")]),
      ("msg", titled "Message" [("type", text)]), ("type", titled "Error Type" [("type", text)]),
      ("input", titled "Input" []), ("ctx", titled "Context" [("type", .str "object")])]
     ["loc", "msg", "type"]]

/-! ## Operations -/

inductive Input where
  | nothing
  | parameter (name : String)
  | object
  | record (name : String)
  | recordIfAny (name : String)

inductive Output where
  | file
  | anything
  | object
  | texts

structure Operation where
  name : String
  method : String
  path : String
  input : Input
  output : Output

namespace Operation

/-- The name, the path and the method, with underscores for all but letters and digits. -/
def id (o : Operation) : String :=
  (o.name ++ o.path).map (fun c => if c.isAlphanum then c else '_') ++ "_" ++ o.method

def answer (o : Operation) : Value :=
  let title := title ("Response_" ++ o.id)
  match o.output with
  | .file => .obj []
  | .anything => titled title []
  | .object => titled title anyObject
  | .texts => titled title [("additionalProperties", ofType "string"), ("type", .str "object")]

end Operation

def content (shape : Value) : String × Value :=
  ("content", .obj [("application/json", .obj [("schema", shape)])])

def response (status description : String) (shape : Value) : String × Value :=
  (status, .obj [("description", .str description), content shape])

def body (shape : Value) (needed : Bool) : List (String × Value) :=
  [("requestBody", .obj (content shape :: if needed then [("required", .bool true)] else []))]

def inputMembers : Input → List (String × Value)
  | .nothing => []
  | .parameter name =>
    [("parameters", .arr [.obj [("in", .str "path"), ("name", .str name), ("required", .bool true),
      ("schema", titled (title name) [("type", text)])]])]
  | .object => body (titled "Payload" anyObject) true
  | .record name => body (named name) true
  | .recordIfAny name => body (titled "Payload" [("anyOf", .arr [named name, ofType "null"])]) false

def failures : Input → List (String × Value)
  | .nothing => []
  | _ => [response "422" "Validation Error" (named "HTTPValidationError")]

def Operation.value (o : Operation) : Value :=
  .obj ([("tags", .arr [.str "awb"]), ("summary", .str (title o.name)), ("operationId", .str o.id)] ++
    inputMembers o.input ++
    [("responses", .obj (response "200" "Successful Response" o.answer :: failures o.input))])

def archivePath : String := "/api/archives/\x7barchive_id\x7d"

def operations : List Operation :=
  [⟨"health", "get", "/api/health", .nothing, .texts⟩,
   ⟨"langchain_models", "get", "/api/langchain-models", .nothing, .object⟩,
   ⟨"generate_backend", "post", "/api/generate-backend", .object, .anything⟩,
   ⟨"generate_backend_archive", "post", "/api/generate-backend/archive", .object, .anything⟩,
   ⟨"download_archive", "get", archivePath, .parameter "archive_id", .file⟩,
   ⟨"release_archive", "delete", archivePath, .parameter "archive_id", .object⟩,
   ⟨"execute_workflow", "post", "/api/execute-workflow", .record "ExecuteRequest", .anything⟩,
   ⟨"clear_workflow_history", "delete", "/api/execute-workflow", .recordIfAny "ClearHistoryRequest", .object⟩]

def paths : List String := (operations.map (·.path)).eraseDups

def pathValue (path : String) : Value :=
  .obj ((operations.filter (·.path == path)).map fun o => (o.method, o.value))

/-- **The description.** -/
def value : Value :=
  .obj [("openapi", .str "3.1.0"),
    ("info", .obj [("title", .str "AI Workflow Backend Builder"),
      ("description", .str "Export editor workflows as backend bundles and simulate their execution"),
      ("version", .str "0.1.0")]),
    ("paths", .obj (paths.map fun path => (path, pathValue path))),
    ("components", .obj [("schemas", .obj records)])]

end Description
end Http
end FlowBundle
