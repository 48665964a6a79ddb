/- The commands: what they read, what they print and how they end. -/
import BatchedGateway.Build.Pipeline
import BatchedGateway.Cli.Help

namespace BatchedGateway.Cli

/-- What a run leaves behind. -/
structure Outcome where
  exit : Nat
  out : String := ""
  err : String := ""
  deriving DecidableEq, Repr

/-- What runs need from the system around them. Serving comes back when it has ended or could
not start. -/
structure Host (m : Type → Type) extends Access m where
  env : Environment
  compressor : Archive.Compressor
  serve : ServeArgs → RoutingState → m (Except IoError Unit)

def exitInvalid : Nat := 2

def exitFailed : Nat := 4

def lines (ls : List String) : String := String.join (ls.map (· ++ "\n"))

def OutputArgs.render (output : OutputArgs) (v : Json) : String :=
  match output.format with
  | .text => v.pretty ++ "\n"
  | .json => v.compact ++ "\n"

/-- A run that ended well; a quiet one prints nothing. -/
def succeed (output : OutputArgs) (out : String) (err : String) : Outcome :=
  if output.quiet then { exit := 0 } else { exit := 0, out, err }

def fail (output : OutputArgs) (exit : Nat) (message : String) : Outcome :=
  if output.quiet then { exit }
  else match output.format with
    | .text => { exit, err := "error: " ++ message ++ "\n" }
    | .json => { exit, err := (Json.obj [("error", .str message)]).compact ++ "\n" }

/-- Bad input is invalid; trouble with files, surfaces or packing is a failure. -/
def exitOf : BuildError → Nat
  | .read _ _ => exitFailed
  | .templates (.read _ _) => exitFailed
  | .provision _ _ => exitFailed
  | .codec _ => exitFailed
  | _ => exitInvalid

def warningLines (diagnostics : List Diagnostic) : String :=
  lines (diagnostics.map fun d => "warning: " ++ d.message)

namespace BuildArgs

/-- What is said on the command line wins over the file. -/
def applyTo (args : BuildArgs) (c : Config) : Config := { c with
  project := { c.project with name := args.project.getD c.project.name }
  descriptionPath := args.description.getD c.descriptionPath
  schemaPath := args.schema.getD c.schemaPath
  templatesPath := args.templates.or c.templatesPath
  resolverDir := args.resolverDir.or c.resolverDir
  maxResources := args.maxResources.getD c.maxResources
  strictTemplates := args.strictTemplates || c.strictTemplates
  endpointTemplate := args.endpointTemplate.getD c.endpointTemplate
  backend := { c.backend with url := args.backendUrl.or c.backend.url } }

def resolve {m : Type → Type} [Monad m] (files : Access m) (args : BuildArgs) :
    m (Except ConfigError Config) := do
  let base ← match args.config with
    | some path => Config.load files path
    | none => pure (.ok Config.default)
  return do
    let c := args.applyTo (← base)
    c.validate
    .ok c

end BuildArgs

/-- What is printed about a manifest that was written to a file. -/
def reportText (m : Manifest) (path : String) : String :=
  lines (m.batches.map fun b =>
    match b.baseUrl with
    | some url =>
        b.surface.name ++ ": " ++ Text.decimal b.surface.resources.length ++ " resources -> " ++ url
    | none => b.surface.name ++ ": skipped (no routable operations)") ++
  lines ["ok: " ++ Text.decimal m.tables.operations.size ++ " of " ++
    Text.decimal m.operationCount ++ " operations routed, manifest written to " ++ path]

def summary (m : Manifest) (path : String) : Json := .obj [
  ("project", .str m.project.name), ("operations", .ofNat m.operationCount),
  ("routed", .ofNat m.tables.operations.size), ("batches", .ofNat m.batches.length),
  ("provisioned", .ofNat m.provisioned.length), ("warnings", .ofNat m.warningCount),
  ("manifest", .str path)]

/-- The end of a build whose manifest was written to a file. -/
def reported (output : OutputArgs) (manifest : Manifest) (path : String) : Outcome :=
  match output.format with
  | .text => succeed output (reportText manifest path) (warningLines manifest.diagnostics)
  | .json => succeed output (output.render (summary manifest path)) ""

variable {m : Type → Type} [Monad m]

def build (host : Host m) (args : BuildArgs) (out : Option String) (output : OutputArgs) :
    m Outcome := do
  match (← args.resolve host.toAccess) with
  | .error e => return fail output exitInvalid e.message
  | .ok c =>
      let provision := Provisioner.ofPattern c.endpointTemplate
      match (← Build.runFromFiles host.compressor host.toAccess c provision).1, out with
      | .error e, _ => return fail output (exitOf e) e.message
      | .ok manifest, none => return succeed output (output.render manifest.toJson) ""
      | .ok manifest, some path =>
          match (← host.write path manifest.toJson.pretty) with
          | .error why =>
              return fail output exitFailed ("failed to write " ++ path ++ ": " ++ why.message)
          | .ok () => return reported output manifest path

/-- Batches with the names of their surfaces, and the warnings about their operations. -/
structure DryRun where
  maxResources : Nat
  batches : List (Batch Operation × String)
  diagnostics : List Diagnostic

namespace DryRun

def ofInputs (c : Config) (inputs : Inputs) : Except BuildError DryRun := do
  let ops ← (indexOperations inputs.description).mapError .index
  let (batches, diagnostics) ← Build.batchesOf c inputs.schema ops
  .ok ⟨c.maxResources, batches.map fun b => (b, c.surfaceName b.index), diagnostics⟩

/-- The batches that a build would make, without building anything. -/
def load (files : Access m) (c : Config) : m (Except BuildError DryRun) := do
  let inputs ← Inputs.load files c
  return do ofInputs c (← inputs)

def operationJson (op : Operation) : Json := .obj [
  ("operation_id", .str op.id), ("method", .str op.method.text), ("path", .str op.path),
  ("field_name", .str op.field), ("role", op.role.toJson)]

def toJson (d : DryRun) : Json := .obj
  ([("max_resources_per_stack", .ofNat d.maxResources),
    ("batches", .arr (d.batches.map fun (b, name) => .obj [
      ("index", .ofNat b.index), ("surface", .str name),
      ("operations", .arr (b.operations.map operationJson))]))] ++
    if d.diagnostics.isEmpty then []
    else [("diagnostics", .arr (d.diagnostics.map Diagnostic.toJson))])

def padded (s : String) : String :=
  s ++ String.ofList (List.replicate (6 - s.length) ' ')

def operationLine (op : Operation) : String :=
  "  " ++ padded op.method.text ++ " " ++ op.path ++ " -> " ++ op.role.typeName ++ "." ++ op.field

def text (d : DryRun) : String :=
  String.join (d.batches.map fun (b, name) =>
    lines ((name ++ " (" ++ Text.decimal b.operations.length ++ " operations)") ::
      b.operations.map operationLine))

end DryRun

def batches (host : Host m) (args : BuildArgs) (output : OutputArgs) : m Outcome := do
  match (← args.resolve host.toAccess) with
  | .error e => return fail output exitInvalid e.message
  | .ok c =>
      match (← DryRun.load host.toAccess c), output.format with
      | .error e, _ => return fail output (exitOf e) e.message
      | .ok d, .text => return succeed output d.text (warningLines d.diagnostics)
      | .ok d, .json => return succeed output (output.render d.toJson) ""

/-- The payload in the text of a manifest. -/
def payloadOfFile (path : String) : Except IoError String → Except String Payload
  | .error why => .error ("failed to read " ++ path ++ ": " ++ why.message)
  | .ok content =>
      match Json.decode Manifest.decoder content with
      | .ok manifest => .ok manifest.payload
      | .error fault => .error (path ++ " is not a deployment manifest: " ++ fault.message)

def loadPayload (files : Access m) (args : PayloadArgs) : m (Except String Payload) := do
  match args.manifest, args.operations, args.endpoints with
  | some path, _, _ => return payloadOfFile path (← files.read path)
  | none, some operations, some endpoints => return .ok ⟨operations, endpoints⟩
  | none, _, _ => return .error ("both " ++ operationsVariable ++ " and " ++ endpointsVariable ++
      " are required (or --manifest)")

/-- A line for each operation, with its batch and the URL of that. -/
def routeLines (t : Tables) : String :=
  lines (t.operations.entries.map fun (id, batch) =>
    id ++ " -> batch " ++ Text.decimal batch ++ " (" ++
      (t.endpointFor batch).getD "<no endpoint>" ++ ")")

def decode (host : Host m) (args : PayloadArgs) (output : OutputArgs) : m Outcome := do
  match (← loadPayload host.toAccess args) with
  | .error message => return fail output exitInvalid message
  | .ok payload =>
      match payload.decode, output.format with
      | .error e, _ => return fail output exitInvalid ("failed to decode tables: " ++ e.message)
      | .ok t, .text => return succeed output (routeLines t) ""
      | .ok t, .json => return succeed output (output.render t.toJson) ""

/-- The tables are not decoded before the first request. -/
def serve (host : Host m) (args : PayloadArgs) (serving : ServeArgs) (output : OutputArgs) :
    m Outcome := do
  match (← loadPayload host.toAccess args) with
  | .error message => return fail output exitInvalid message
  | .ok payload =>
      match (← host.serve serving (RoutingState.start (.inline payload))) with
      | .ok () => return { exit := 0 }
      | .error why =>
          return fail output exitFailed
            ("failed to bind " ++ serving.listen.text ++ ": " ++ why.message)

def runCommand (host : Host m) : Command → m Outcome
  | .build args out output => build host args out output
  | .batches args output => batches host args output
  | .decode args output => decode host args output
  | .serve args serving output => serve host args serving output

/-- Runs a command line. -/
def run (host : Host m) (words : List String) : m Outcome :=
  match readWords host.env words with
  | .run command => runCommand host command
  | .usage => return { exit := exitInvalid, err := helpText host.env none }
  | .help command => return { exit := 0, out := helpText host.env command }
  | .version => return { exit := 0, out := versionText }

end BatchedGateway.Cli
