/- From a configuration and its files to a manifest. -/
import BatchedGateway.Build.Manifest
import BatchedGateway.Operation.Classify
import BatchedGateway.Schema.Reading
import BatchedGateway.Surface.Materialize

namespace BatchedGateway

/-- What is read before any batch is built. -/
structure Inputs where
  description : Json
  schema : SchemaIndex
  templates : Templates

namespace Inputs

/-- Reads description, schema and templates, in this order. -/
def load {m : Type → Type} [Monad m] (files : Access m) (c : Config) :
    m (Except BuildError Inputs) := ExceptT.run do
  let description ← parsed (← contents c.descriptionPath)
  let schemaText ← contents c.schemaPath
  let schema ← liftExcept ((SchemaIndex.parse schemaText .auto).mapError .schema)
  let templates ← match c.templatesPath with
    | none => pure ∅
    | some path => do
        let loaded ← ExceptT.lift (Templates.load files path)
        liftExcept (loaded.mapError .templates)
  return ⟨description, schema, templates⟩
where
  liftExcept {α : Type} (e : Except BuildError α) : ExceptT BuildError m α := ExceptT.mk (pure e)
  contents (path : String) : ExceptT BuildError m String := do
    let text ← ExceptT.lift (files.read path)
    liftExcept (text.mapError (.read path))
  parsed (text : String) : ExceptT BuildError m Json :=
    liftExcept (((Description.parse text .auto).mapError .parse).map (·.document))

end Inputs

namespace Build

/-- The operations of a description in batches, and the warnings about their fields. -/
def batchesOf (c : Config) (schema : SchemaIndex) (ops : List IndexedOperation) :
    Except BuildError (List (Batch Operation) × List Diagnostic) := do
  let (described, warnings) := classifyAll schema c.fieldNames ops
  let batches ← (partition described c.maxResources).mapError .batch
  .ok (batches, warnings)

def plannerOf (c : Config) (inputs : Inputs) (isDirectory : String → Bool) : Planner where
  templates := inputs.templates
  options := {
    strictTemplates := c.strictTemplates
    resolverDir := c.resolverDir
    backendUrl := c.backend.url
    queryType := inputs.schema.queryType
    mutationType := inputs.schema.mutationType }
  isDirectory := isDirectory

def manifestOf (c : Config) (schema : SchemaIndex) (operationCount : Nat)
    (batches : List BuiltBatch) (s : Progress) (payload : Payload) : Manifest :=
  { project := ⟨c.project.name, c.project.description⟩
    backend := ⟨c.backendName, c.schemaPath, c.backend.url, schema.queryType,
      schema.mutationType⟩
    maxResources := c.maxResources
    operationCount
    batches
    router := RouterEntry.ofPayload c.project.name payload
    tables := s.tables
    payload
    diagnostics := s.diagnostics }

/-- Packs the tables of what was built, and makes the manifest of it. -/
def finish (z : Archive.Compressor) (c : Config) (schema : SchemaIndex) (operationCount : Nat)
    (s : Progress) (batches : List BuiltBatch) : Except BuildError Manifest :=
  ((Payload.encode z s.tables).mapError .codec).map
    (manifestOf c schema operationCount batches s)

/-- Runs a build. What it has done is known even if it fails. -/
def run (z : Archive.Compressor) (c : Config) (inputs : Inputs) (isDirectory : String → Bool)
    (provision : Provisioner) : Except BuildError Manifest × Progress :=
  let start : Except BuildError (List IndexedOperation × List (Batch Operation) ×
      List Diagnostic) := do
    c.validate.mapError .config
    let ops ← (indexOperations inputs.description).mapError .index
    let (batches, warnings) ← batchesOf c inputs.schema ops
    .ok (ops, batches, warnings)
  match start with
  | .error e => (.error e, {})
  | .ok (ops, batches, warnings) =>
      let planner := plannerOf c inputs isDirectory
      let (built, s) := materializeAll planner provision c.surfaceName batches
        { diagnostics := warnings }
      (built >>= finish z c inputs.schema ops.length s, s)

/-- The places where resolvers are looked for. -/
def resolverPaths (c : Config) (description : Json) : List String :=
  match c.resolverDir, indexOperations description with
  | some directory, .ok ops => ops.map fun op => Files.join directory op.id
  | _, _ => []

/-- Runs a build on inputs, with the directories that are there. -/
def runWith {m : Type → Type} [Monad m] (z : Archive.Compressor) (files : Access m) (c : Config)
    (inputs : Inputs) (provision : Provisioner) : m (Except BuildError Manifest × Progress) := do
  let found ← (resolverPaths c inputs.description).filterM files.isDirectory
  return run z c inputs found.contains provision

/-- Checks the configuration, reads the files it names and runs a build. -/
def runFromFiles {m : Type → Type} [Monad m] (z : Archive.Compressor) (files : Access m)
    (c : Config) (provision : Provisioner) : m (Except BuildError Manifest × Progress) := do
  match c.validate with
  | .error why => return (.error (.config why), {})
  | .ok () =>
      match (← Inputs.load files c) with
      | .error e => return (.error e, {})
      | .ok inputs => runWith z files c inputs provision

end Build

end BatchedGateway
