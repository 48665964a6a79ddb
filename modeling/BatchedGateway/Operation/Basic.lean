/- Operations of an API description and what is said about them. -/
import BatchedGateway.Json.Decode
import BatchedGateway.Text.Blank

namespace BatchedGateway

/-- The methods that a description can give a path. -/
inductive Method
  | get
  | put
  | post
  | delete
  | options
  | head
  | patch
  | trace
  deriving DecidableEq, Repr

namespace Method

def all : List Method := [get, put, post, delete, options, head, patch, trace]

def text : Method → String
  | get => "GET"
  | put => "PUT"
  | post => "POST"
  | delete => "DELETE"
  | options => "OPTIONS"
  | head => "HEAD"
  | patch => "PATCH"
  | trace => "TRACE"

def key : Method → String
  | get => "get"
  | put => "put"
  | post => "post"
  | delete => "delete"
  | options => "options"
  | head => "head"
  | patch => "patch"
  | trace => "trace"

def lowerAscii (s : String) : String := String.ofList (s.toList.map Char.toLower)

/-- The method that a member of a path item is for. Any spelling in capitals will do; other
members are no operations. -/
def ofKey? (s : String) : Option Method := all.find? fun m => m.key == lowerAscii s

def toJson (m : Method) : Json := .str m.text

def decoder : Json.Decoder Method := Json.Decoder.oneOf (all.map fun m => (m.text, m))

end Method

/-- Which root type of the backend's schema serves an operation. -/
inductive Role
  | query
  | mutation
  deriving DecidableEq, Repr

/-- An operation as it stands in the description. -/
structure IndexedOperation where
  path : String
  method : Method
  id : String
  deriving DecidableEq, Repr

/-- An operation and the backend field that serves it. -/
structure Operation where
  id : String
  path : String
  method : Method
  field : String
  role : Role
  deriving DecidableEq, Repr

inductive Severity
  | error
  | warning
  deriving DecidableEq, Repr

structure Diagnostic where
  severity : Severity
  message : String
  operation : Option String
  deriving DecidableEq, Repr

namespace Role

/-- The default name of the root type. -/
def typeName : Role → String
  | query => "Query"
  | mutation => "Mutation"

def toJson (r : Role) : Json := .str r.typeName

def decoder : Json.Decoder Role :=
  Json.Decoder.oneOf [("Query", query), ("Mutation", mutation)]

end Role

namespace IndexedOperation

def toJson (op : IndexedOperation) : Json := .obj [
  ("path", .str op.path), ("http_method", op.method.toJson), ("operation_id", .str op.id)]

def decoder : Json.Decoder IndexedOperation := fun w => do
  match (← Json.fields ["path", "http_method", "operation_id"] w) with
  | [path, method, id] =>
      .ok {
        path := ← path.required .string
        method := ← method.required Method.decoder
        id := ← id.required .string }
  | _ => .error .wrongShape

end IndexedOperation

namespace Operation

/-- An operation whose field has a blank name cannot be served. -/
def hasField (op : Operation) : Bool := !Text.blank op.field

def toJson (op : Operation) : Json := .obj [
  ("operation_id", .str op.id), ("path", .str op.path), ("http_method", op.method.toJson),
  ("field_name", .str op.field), ("role", op.role.toJson)]

def decoder : Json.Decoder Operation := fun w => do
  match (← Json.fields ["operation_id", "path", "http_method", "field_name", "role"] w) with
  | [id, path, method, field, role] =>
      .ok {
        id := ← id.required .string
        path := ← path.required .string
        method := ← method.required Method.decoder
        field := ← field.required .string
        role := ← role.required Role.decoder }
  | _ => .error .wrongShape

end Operation

namespace Severity

def text : Severity → String
  | error => "error"
  | warning => "warning"

def decoder : Json.Decoder Severity :=
  Json.Decoder.oneOf [("error", error), ("warning", warning)]

end Severity

namespace Diagnostic

def warning (operation message : String) : Diagnostic := ⟨.warning, message, some operation⟩

def isWarning (d : Diagnostic) : Bool := d.severity = .warning

def toJson (d : Diagnostic) : Json := .obj
  ([("severity", .str d.severity.text), ("message", .str d.message)] ++
    Json.member? "operation_id" d.operation)

def decoder : Json.Decoder Diagnostic := fun w => do
  match (← Json.fields ["severity", "message", "operation_id"] w) with
  | [severity, message, operation] =>
      .ok {
        severity := ← severity.required Severity.decoder
        message := ← message.required .string
        operation := ← operation.optional .string }
  | _ => .error .wrongShape

end Diagnostic

end BatchedGateway
