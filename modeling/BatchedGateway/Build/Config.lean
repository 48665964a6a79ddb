/- The settings of a build. -/
import BatchedGateway.Files.Access
import BatchedGateway.Json.Decode
import BatchedGateway.Text.Blank
import BatchedGateway.Text.Encoding
import BatchedGateway.Yaml.Decode

namespace BatchedGateway

structure Project where
  name : String := "shardgate"
  description : Option String := none
  deriving DecidableEq, Repr

structure Backend where
  name : Option String := none
  url : Option String := none
  deriving DecidableEq, Repr

/-- Everything a configuration can say; what it does not say has a default. -/
structure Config where
  project : Project := {}
  descriptionPath : String := "openapi.json"
  schemaPath : String := "schema.graphql"
  templatesPath : Option String := none
  resolverDir : Option String := none
  maxResources : Nat := 50
  strictTemplates : Bool := false
  /-- The pattern of base URLs. -/
  endpointTemplate : String := "https://\x7bsurface\x7d.gateway.invalid/prod"
  backend : Backend := {}
  /-- Backend fields of operations whose id is not the name of their field. -/
  fieldNames : SortedMap String String := ∅
  deriving DecidableEq

inductive ConfigError
  | read (path : String) (why : IoError)
  | parse (path why : String)
  | invalid (why : String)
  deriving DecidableEq, Repr

def ConfigError.message : ConfigError → String
  | read path why => "failed to read config " ++ path ++ ": " ++ why.message
  | parse path why => "config " ++ path ++ " is neither valid JSON nor valid YAML: " ++ why
  | invalid why => "invalid config: " ++ why

namespace Project

def toJson (p : Project) : Json := .obj [
  ("name", .str p.name), ("description", .ofOption p.description)]

def decoder : Json.Decoder Project := fun w => do
  match (← Json.fields ["name", "description"] w) with
  | [name, description] =>
      .ok {
        name := ← name.orElse ({} : Project).name .string
        description := ← description.orElse none (.optional .string) }
  | _ => .error .wrongShape

def yamlDecoder : Yaml.Decoder Project := fun d n => do
  let members ← Yaml.Decoder.entries d n
  .ok {
    name := ← Yaml.Decoder.field "name" ({} : Project).name .string d members
    description := ← Yaml.Decoder.field "description" none (.optional .string) d members }

end Project

namespace Backend

def toJson (b : Backend) : Json := .obj [
  ("name", .ofOption b.name), ("url", .ofOption b.url)]

def decoder : Json.Decoder Backend := fun w => do
  match (← Json.fields ["name", "url"] w) with
  | [name, url] =>
      .ok {
        name := ← name.orElse none (.optional .string)
        url := ← url.orElse none (.optional .string) }
  | _ => .error .wrongShape

def yamlDecoder : Yaml.Decoder Backend := fun d n => do
  let members ← Yaml.Decoder.entries d n
  .ok {
    name := ← Yaml.Decoder.field "name" none (.optional .string) d members
    url := ← Yaml.Decoder.field "url" none (.optional .string) d members }

end Backend

namespace Config

def default : Config := {}

def fieldNamesJson (names : SortedMap String String) : Json :=
  .obj (names.entries.map fun e => (e.1, .str e.2))

def toJson (c : Config) : Json := .obj [
  ("project", c.project.toJson), ("description_path", .str c.descriptionPath),
  ("schema_path", .str c.schemaPath), ("templates_path", .ofOption c.templatesPath),
  ("resolver_dir", .ofOption c.resolverDir), ("max_resources_per_stack", .ofNat c.maxResources),
  ("strict_templates", .bool c.strictTemplates), ("endpoint_template", .str c.endpointTemplate),
  ("backend", c.backend.toJson), ("field_names", fieldNamesJson c.fieldNames)]

def fieldKeys : List String := [
  "project", "description_path", "schema_path", "templates_path", "resolver_dir",
  "max_resources_per_stack", "strict_templates", "endpoint_template", "backend", "field_names"]

def decoder : Json.Decoder Config := fun w => do
  match (← Json.fields fieldKeys w) with
  | [project, description, schema, templates, resolvers, max, strict, endpoint, backend, names] =>
      .ok {
        project := ← project.orElse default.project Project.decoder
        descriptionPath := ← description.orElse default.descriptionPath .string
        schemaPath := ← schema.orElse default.schemaPath .string
        templatesPath := ← templates.orElse default.templatesPath (.optional .string)
        resolverDir := ← resolvers.orElse default.resolverDir (.optional .string)
        maxResources := ← max.orElse default.maxResources .nat64
        strictTemplates := ← strict.orElse default.strictTemplates .bool
        endpointTemplate := ← endpoint.orElse default.endpointTemplate .string
        backend := ← backend.orElse default.backend Backend.decoder
        fieldNames := ← names.orElse default.fieldNames (.tableByName .string) }
  | _ => .error .wrongShape

def yamlDecoder : Yaml.Decoder Config := fun d n => do
  let members ← Yaml.Decoder.entries d n
  let field {α : Type} (name : String) (fallback : α) (value : Yaml.Decoder α) :
      Except Yaml.Fault α := Yaml.Decoder.field name fallback value d members
  .ok {
    project := ← field "project" default.project Project.yamlDecoder
    descriptionPath := ← field "description_path" default.descriptionPath .string
    schemaPath := ← field "schema_path" default.schemaPath .string
    templatesPath := ← field "templates_path" default.templatesPath (.optional .string)
    resolverDir := ← field "resolver_dir" default.resolverDir (.optional .string)
    maxResources := ← field "max_resources_per_stack" default.maxResources .nat64
    strictTemplates := ← field "strict_templates" default.strictTemplates .bool
    endpointTemplate := ← field "endpoint_template" default.endpointTemplate .string
    backend := ← field "backend" default.backend Backend.yamlDecoder
    fieldNames := ← field "field_names" default.fieldNames (.table .string) }

/-- Text that starts with a brace is JSON, all else YAML. The error is a text. -/
def parse (text : String) : Except String Config :=
  if Text.firstInk text = some '\x7b' then (Json.decode decoder text).mapError Json.Fault.message
  else (Yaml.decode yamlDecoder text).mapError Yaml.Fault.message

/-- Paths in a file are relative to the directory of the file. -/
def resolveIn (directory : String) (c : Config) : Config := { c with
  descriptionPath := Files.join directory c.descriptionPath
  schemaPath := Files.join directory c.schemaPath
  templatesPath := c.templatesPath.map (Files.join directory)
  resolverDir := c.resolverDir.map (Files.join directory) }

/-- The configuration in the text of a file. -/
def ofFile (path : String) : Except IoError String → Except ConfigError Config
  | .error why => .error (.read path why)
  | .ok content =>
      match parse content with
      | .error why => .error (.parse path why)
      | .ok c => .ok (c.resolveIn (Files.parent path))

def load {m : Type → Type} [Monad m] (files : Access m) (path : String) :
    m (Except ConfigError Config) := do
  return ofFile path (← files.read path)

def validate (c : Config) : Except ConfigError Unit :=
  if c.maxResources = 0 then .error (.invalid "max_resources_per_stack must be at least 1")
  else if Text.blank c.project.name then .error (.invalid "project.name must not be empty")
  else .ok ()

def backendName (c : Config) : String := c.backend.name.getD (c.project.name ++ "-graphql")

def surfaceName (c : Config) (batch : Nat) : String :=
  c.project.name ++ "-batch" ++ Text.decimal batch

end Config

end BatchedGateway
