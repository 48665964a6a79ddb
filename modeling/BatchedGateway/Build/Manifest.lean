/- What a build puts out: everything a deployment needs. -/
import BatchedGateway.Routes.Payload
import BatchedGateway.Surface.Basic

namespace BatchedGateway

structure ProjectInfo where
  name : String
  description : Option String
  deriving DecidableEq, Repr

structure BackendInfo where
  name : String
  schemaPath : String
  url : Option String
  queryType : Option String
  mutationType : Option String
  deriving DecidableEq, Repr

/-- The public surface in front of all batches. -/
structure RouterEntry where
  name : String
  routes : List String
  environment : SortedMap String String
  deriving DecidableEq

structure Manifest where
  project : ProjectInfo
  backend : BackendInfo
  maxResources : Nat
  operationCount : Nat
  batches : List BuiltBatch
  router : RouterEntry
  tables : Tables
  payload : Payload
  diagnostics : List Diagnostic
  deriving DecidableEq

namespace ProjectInfo

def toJson (p : ProjectInfo) : Json :=
  .obj (("name", .str p.name) :: Json.member? "description" p.description)

def decoder : Json.Decoder ProjectInfo := fun w => do
  match (← Json.fields ["name", "description"] w) with
  | [name, description] =>
      .ok {
        name := ← name.required .string
        description := ← description.orElse none (.optional .string) }
  | _ => .error .wrongShape

end ProjectInfo

namespace BackendInfo

def toJson (b : BackendInfo) : Json := .obj
  ([("name", .str b.name), ("schema_path", .str b.schemaPath)] ++ Json.member? "url" b.url ++
    [("query_type", .ofOption b.queryType), ("mutation_type", .ofOption b.mutationType)])

def decoder : Json.Decoder BackendInfo := fun w => do
  match (← Json.fields ["name", "schema_path", "url", "query_type", "mutation_type"] w) with
  | [name, schemaPath, url, queryType, mutationType] =>
      .ok {
        name := ← name.required .string
        schemaPath := ← schemaPath.required .string
        url := ← url.orElse none (.optional .string)
        queryType := ← queryType.optional .string
        mutationType := ← mutationType.optional .string }
  | _ => .error .wrongShape

end BackendInfo

namespace RouterEntry

/-- Its environment holds both tables. -/
def ofPayload (project : String) (p : Payload) : RouterEntry where
  name := project ++ "-router"
  routes := ["ANY /", "ANY /\x7bproxy+\x7d"]
  environment := SortedMap.ofList
    [(operationsVariable, p.operations), (endpointsVariable, p.endpoints)]

def payload? (r : RouterEntry) : Option Payload := do
  let operations ← r.environment.get? operationsVariable
  let endpoints ← r.environment.get? endpointsVariable
  some ⟨operations, endpoints⟩

def toJson (r : RouterEntry) : Json := .obj [
  ("name", .str r.name), ("routes", .arr (r.routes.map .str)),
  ("environment", .obj (r.environment.entries.map fun e => (e.1, .str e.2)))]

def decoder : Json.Decoder RouterEntry := fun w => do
  match (← Json.fields ["name", "routes", "environment"] w) with
  | [name, routes, environment] =>
      .ok {
        name := ← name.required .string
        routes := ← routes.required (.list .string)
        environment := ← environment.required (.tableByName .string) }
  | _ => .error .wrongShape

end RouterEntry

namespace Manifest

def provisioned (m : Manifest) : List BuiltBatch := m.batches.filter (·.baseUrl.isSome)

def warningCount (m : Manifest) : Nat := m.diagnostics.countP (·.isWarning)

/-- The operations of the description that no route leads to. -/
def unrouted (m : Manifest) : Nat := m.operationCount - m.tables.operations.size

def toJson (m : Manifest) : Json := .obj [
  ("project", m.project.toJson), ("backend", m.backend.toJson),
  ("max_resources_per_stack", .ofNat m.maxResources),
  ("operation_count", .ofNat m.operationCount),
  ("batches", .arr (m.batches.map BuiltBatch.toJson)), ("router", m.router.toJson),
  ("tables", m.tables.toJson), ("payload", m.payload.toJson),
  ("diagnostics", .arr (m.diagnostics.map Diagnostic.toJson))]

def decoder : Json.Decoder Manifest := fun w => do
  match (← Json.fields ["project", "backend", "max_resources_per_stack", "operation_count",
      "batches", "router", "tables", "payload", "diagnostics"] w) with
  | [project, backend, max, count, batches, router, tables, payload, diagnostics] =>
      .ok {
        project := ← project.required ProjectInfo.decoder
        backend := ← backend.required BackendInfo.decoder
        maxResources := ← max.required .nat64
        operationCount := ← count.required .nat64
        batches := ← batches.required (.list BuiltBatch.decoder)
        router := ← router.required RouterEntry.decoder
        tables := ← tables.required Tables.decoder
        payload := ← payload.required Payload.decoder
        diagnostics := ← diagnostics.required (.list Diagnostic.decoder) }
  | _ => .error .wrongShape

end Manifest

end BatchedGateway
