/- What is laid out for a batch: its routes, their integrations and their resolvers. -/
import BatchedGateway.Operation.Basic

namespace BatchedGateway

/-- A call of the backend's single entry point, shaped by the templates of an operation. -/
structure Integration where
  target : Option String
  method : Method
  role : Role
  field : String
  contentType : String
  requestTemplate : String
  responseTemplate : String
  forwardedHeaders : List String
  deriving DecidableEq, Repr

/-- A route of a surface. Its path is the key that the router goes by. -/
structure Resource where
  operation : String
  pathPart : String
  method : Method
  descriptionPath : String
  integration : Integration
  /-- The resource built just before it. -/
  dependsOn : Option String
  deriving DecidableEq, Repr

structure ResolverBinding where
  operation : String
  typeName : String
  field : String
  directory : String
  deriving DecidableEq, Repr

/-- Everything to be built for a batch, in order. -/
structure Surface where
  index : Nat
  name : String
  resources : List Resource
  resolvers : List ResolverBinding
  deriving DecidableEq, Repr

/-- A surface and where it is served; nowhere if none of its operations could be routed. -/
structure BuiltBatch where
  surface : Surface
  baseUrl : Option String
  deriving DecidableEq, Repr

namespace Integration

def toJson (i : Integration) : Json := .obj
  (Json.member? "target" i.target ++ [
    ("http_method", i.method.toJson), ("role", i.role.toJson), ("field_name", .str i.field),
    ("content_type", .str i.contentType), ("request_template", .str i.requestTemplate),
    ("response_template", .str i.responseTemplate),
    ("forwarded_headers", .arr (i.forwardedHeaders.map .str))])

def decoder : Json.Decoder Integration := fun w => do
  match (← Json.fields ["target", "http_method", "role", "field_name", "content_type",
      "request_template", "response_template", "forwarded_headers"] w) with
  | [target, method, role, field, contentType, request, response, headers] =>
      .ok {
        target := ← target.orElse none (.optional .string)
        method := ← method.required Method.decoder
        role := ← role.required Role.decoder
        field := ← field.required .string
        contentType := ← contentType.required .string
        requestTemplate := ← request.required .string
        responseTemplate := ← response.required .string
        forwardedHeaders := ← headers.required (.list .string) }
  | _ => .error .wrongShape

end Integration

namespace Resource

def toJson (r : Resource) : Json := .obj
  ([("operation_id", .str r.operation), ("path_part", .str r.pathPart),
    ("http_method", r.method.toJson), ("description_path", .str r.descriptionPath),
    ("integration", r.integration.toJson)] ++ Json.member? "depends_on" r.dependsOn)

def decoder : Json.Decoder Resource := fun w => do
  match (← Json.fields ["operation_id", "path_part", "http_method", "description_path",
      "integration", "depends_on"] w) with
  | [operation, pathPart, method, path, integration, dependsOn] =>
      .ok {
        operation := ← operation.required .string
        pathPart := ← pathPart.required .string
        method := ← method.required Method.decoder
        descriptionPath := ← path.required .string
        integration := ← integration.required Integration.decoder
        dependsOn := ← dependsOn.orElse none (.optional .string) }
  | _ => .error .wrongShape

end Resource

namespace ResolverBinding

def toJson (b : ResolverBinding) : Json := .obj [
  ("operation_id", .str b.operation), ("type_name", .str b.typeName),
  ("field_name", .str b.field), ("source_dir", .str b.directory)]

def decoder : Json.Decoder ResolverBinding := fun w => do
  match (← Json.fields ["operation_id", "type_name", "field_name", "source_dir"] w) with
  | [operation, typeName, field, directory] =>
      .ok {
        operation := ← operation.required .string
        typeName := ← typeName.required .string
        field := ← field.required .string
        directory := ← directory.required .string }
  | _ => .error .wrongShape

end ResolverBinding

namespace Surface

def operations (s : Surface) : List String := s.resources.map (·.operation)

def toJson (s : Surface) : Json := .obj [
  ("index", .ofNat s.index), ("name", .str s.name),
  ("resources", .arr (s.resources.map Resource.toJson)),
  ("resolvers", .arr (s.resolvers.map ResolverBinding.toJson))]

def decoder : Json.Decoder Surface := fun w => do
  match (← Json.fields ["index", "name", "resources", "resolvers"] w) with
  | [index, name, resources, resolvers] =>
      .ok {
        index := ← index.required .nat64
        name := ← name.required .string
        resources := ← resources.required (.list Resource.decoder)
        resolvers := ← resolvers.required (.list ResolverBinding.decoder) }
  | _ => .error .wrongShape

end Surface

namespace BuiltBatch

def toJson (b : BuiltBatch) : Json := .obj [
  ("surface", b.surface.toJson), ("base_url", .ofOption b.baseUrl)]

def decoder : Json.Decoder BuiltBatch := fun w => do
  match (← Json.fields ["surface", "base_url"] w) with
  | [surface, baseUrl] =>
      .ok {
        surface := ← surface.required Surface.decoder
        baseUrl := ← baseUrl.optional .string }
  | _ => .error .wrongShape

end BuiltBatch

end BatchedGateway
