/- What a command line asks for. -/
import BatchedGateway.Cli.Options
import BatchedGateway.Router.Dispatch

namespace BatchedGateway.Cli

inductive OutputFormat
  | text
  | json
  deriving DecidableEq, Repr

structure OutputArgs where
  format : OutputFormat := .text
  quiet : Bool := false
  deriving DecidableEq, Repr

/-- A configuration file and what is said over it. -/
structure BuildArgs where
  config : Option String := none
  project : Option String := none
  description : Option String := none
  schema : Option String := none
  templates : Option String := none
  resolverDir : Option String := none
  maxResources : Option Nat := none
  strictTemplates : Bool := false
  endpointTemplate : Option String := none
  backendUrl : Option String := none
  deriving DecidableEq, Repr

/-- Where compressed tables are: in a manifest, or given one by one. -/
structure PayloadArgs where
  manifest : Option String
  operations : Option String
  endpoints : Option String
  deriving DecidableEq, Repr

structure ServeArgs where
  listen : SocketAddress
  timeout : Nat
  maxBodyBytes : Nat
  deriving DecidableEq, Repr

inductive Command
  | build (args : BuildArgs) (out : Option String) (output : OutputArgs)
  | batches (args : BuildArgs) (output : OutputArgs)
  | decode (args : PayloadArgs) (output : OutputArgs)
  | serve (args : PayloadArgs) (serving : ServeArgs) (output : OutputArgs)
  deriving DecidableEq, Repr

inductive CommandName
  | build
  | batches
  | decode
  | serve
  deriving DecidableEq, Repr

/-- What is to be done for a command line. Nothing at all is answered like a wrong one. -/
inductive Request
  | run (command : Command)
  | usage
  | help (command : Option CommandName)
  | version
  deriving DecidableEq, Repr

/-- The variable for the size of batches. -/
def maxResourcesVariable : String := "SHARDGATE_MAX_RESOURCES"

def logOption : OptionSpec := { long := "log-json", about := "Emit logs as JSON lines" }

def outputOptions : List OptionSpec := [
  { long := "format", value := some .format,
    about := "[default: text] [possible values: text, json]" },
  { long := "quiet", short := some 'q' }]

def buildOptions : List OptionSpec := [
  { long := "config", value := some .path, about := "Project file (JSON or YAML)" },
  { long := "project", value := some .text },
  { long := "description", value := some .path, about := "API description (JSON or YAML)" },
  { long := "schema", value := some .path,
    about := "Backend schema (SDL or introspection JSON)" },
  { long := "templates", value := some .path },
  { long := "resolver-dir", value := some .path },
  { long := "max-resources", value := some .nat64, shownVariable := some maxResourcesVariable },
  { long := "strict-templates" },
  { long := "endpoint-template", value := some .text },
  { long := "backend-url", value := some .text }]

def outOption : OptionSpec :=
  { long := "out", value := some .path, about := "Write the manifest here instead of stdout" }

def payloadOptions : List OptionSpec := [
  { long := "manifest", value := some .path,
    about := "Manifest written by \x60shardgate build --out\x60" },
  { long := "operation-map", value := some .text, about := "[env: SHARDGATE_OPERATION_MAP]" },
  { long := "endpoint-map", value := some .text, about := "[env: SHARDGATE_ENDPOINT_MAP]" }]

def serveOptions : List OptionSpec := [
  { long := "listen", value := some .address, about := "[default: 127.0.0.1:8080]" },
  { long := "timeout", value := some .nat64,
    about := "Downstream request timeout in milliseconds [default: 29000]" },
  { long := "max-body-bytes", value := some .nat64, about := "[default: 10485760]" }]

namespace CommandName

def all : List CommandName := [build, batches, decode, serve]

def text : CommandName → String
  | build => "build"
  | batches => "batches"
  | decode => "decode"
  | serve => "serve"

def about : CommandName → String
  | build => "Partition, materialize and write the deployment manifest"
  | batches => "Show how operations are classified and batched, without provisioning"
  | decode => "Decode the router's compressed tables"
  | serve => "Run the router locally"

/-- The options of a command alone. -/
def options : CommandName → List OptionSpec
  | build => buildOptions ++ outOption :: outputOptions
  | batches => buildOptions ++ outputOptions
  | decode => payloadOptions ++ outputOptions
  | serve => payloadOptions ++ serveOptions ++ outputOptions

def ofText? (s : String) : Option CommandName := all.find? fun c => c.text == s

end CommandName

def outputArgs (given : Given) : OutputArgs where
  format := if given.lookup "format" = some "json" then .json else .text
  quiet := (given.lookup "quiet").isSome

/-- The number a variable holds, if an option does not say it. -/
def numberOr (env : Environment) (name : String) (option : Option String) :
    Except Stop (Option Nat) :=
  match option, env name with
  | some value, _ => .ok (nat64? value)
  | none, none => .ok none
  | none, some value =>
      match nat64? value with
      | some n => .ok (some n)
      | none => .error .usage

def buildArgs (env : Environment) (given : Given) : Except Stop BuildArgs := do
  let maxResources ← numberOr env maxResourcesVariable (given.lookup "max-resources")
  .ok {
    config := given.lookup "config"
    project := given.lookup "project"
    description := given.lookup "description"
    schema := given.lookup "schema"
    templates := given.lookup "templates"
    resolverDir := given.lookup "resolver-dir"
    maxResources
    strictTemplates := (given.lookup "strict-templates").isSome
    endpointTemplate := given.lookup "endpoint-template"
    backendUrl := given.lookup "backend-url" }

/-- A manifest cannot be given together with tables, wherever these come from. -/
def payloadArgs (env : Environment) (given : Given) : Except Stop PayloadArgs :=
  let args : PayloadArgs := {
    manifest := given.lookup "manifest"
    operations := (given.lookup "operation-map").or (env operationsVariable)
    endpoints := (given.lookup "endpoint-map").or (env endpointsVariable) }
  if args.manifest.isSome && (args.operations.isSome || args.endpoints.isSome) then .error .usage
  else .ok args

def serveArgs (given : Given) : ServeArgs where
  listen := ((given.lookup "listen").bind SocketAddress.parse?).getD
    ⟨.four [127, 0, 0, 1], 8080⟩
  timeout := ((given.lookup "timeout").bind nat64?).getD 29000
  maxBodyBytes := ((given.lookup "max-body-bytes").bind nat64?).getD defaultBodyLimit

def commandOf (env : Environment) (name : CommandName) (given : Given) : Except Stop Command := do
  let output := outputArgs given
  match name with
  | .build => .ok (.build (← buildArgs env given) (given.lookup "out") output)
  | .batches => .ok (.batches (← buildArgs env given) output)
  | .decode => .ok (.decode (← payloadArgs env given) output)
  | .serve => .ok (.serve (← payloadArgs env given) (serveArgs given) output)

def stopped (command : Option CommandName) : Stop → Request
  | .usage => .usage
  | .help => .help command
  | .version => .version

/-- The words after the name of a command. -/
def readCommand (env : Environment) (name : CommandName) (words : List String) : Request :=
  let read : Except Stop Command := do
    let (given, rest) ← readOptions (logOption :: name.options) false [] words
    if rest ≠ [] then .error .usage else commandOf env name given
  match read with
  | .ok command => .run command
  | .error stop => stopped (some name) stop

/-- The words after the command that asks for help. -/
def readHelp : List String → Request
  | [] => .help none
  | [name] =>
      match CommandName.ofText? name with
      | some command => .help (some command)
      | none => .usage
  | _ => .usage

def readWords (env : Environment) (words : List String) : Request :=
  match readOptions [logOption] true [] words with
  | .error stop => stopped none stop
  | .ok (_, []) => .usage
  | .ok (_, name :: rest) =>
      if name = "help" then readHelp rest
      else match CommandName.ofText? name with
        | some command => readCommand env command rest
        | none => .usage

end BatchedGateway.Cli
