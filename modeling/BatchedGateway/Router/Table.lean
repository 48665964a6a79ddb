/- The routing table of a gateway that runs, and how it comes up. -/
import BatchedGateway.Routes.Payload
import BatchedGateway.Url.Check

namespace BatchedGateway

/-- Why there is no routing table. -/
inductive InitError
  | missingVariable (name : String)
  | decode (table : String) (why : PayloadError)
  | invalidEndpoint (batch : Nat) (url : String) (why : Url.Fault)
  deriving DecidableEq, Repr

def InitError.message : InitError → String
  | missingVariable name => "environment variable " ++ name ++ " is not set"
  | decode table why => "failed to decode " ++ table ++ " table: " ++ why.message
  | invalidEndpoint batch url why =>
      "batch " ++ Text.decimal batch ++ " has an invalid endpoint '" ++ url ++ "': " ++ why.message

inductive TransportError
  | timeout
  | network (what : String)
  | other (what : String)
  deriving DecidableEq, Repr

def TransportError.message : TransportError → String
  | timeout => "timeout"
  | network what => "connect/dns/tls error: " ++ what
  | other what => "http error: " ++ what

/-- Why a request is not answered by a backend. -/
inductive RouteError
  | missingKey
  | unknownOperation (id : String)
  | noEndpoint (id : String) (batch : Nat)
  | config (why : InitError)
  | body (what : String)
  | bodyTooLarge (limit : Nat)
  | downstream (why : TransportError)
  deriving DecidableEq, Repr

namespace RouteError

def message : RouteError → String
  | missingKey => "request path has no operation segment"
  | unknownOperation id => "unknown operation '" ++ id ++ "'"
  | noEndpoint id batch =>
      "operation '" ++ id ++ "' maps to batch " ++ Text.decimal batch ++
        ", which has no endpoint"
  | config why => "router configuration error: " ++ why.message
  | body what => "request body could not be read: " ++ what
  | bodyTooLarge limit => "request body exceeds " ++ Text.decimal limit ++ " bytes"
  | downstream why => "downstream request failed: " ++ why.message

def status : RouteError → Nat
  | missingKey => 404
  | unknownOperation _ => 404
  | noEndpoint _ _ => 404
  | config _ => 500
  | body _ => 400
  | bodyTooLarge _ => 413
  | downstream _ => 502

end RouteError

/-- Tables whose endpoints are all URLs that a path can be added to. -/
structure RoutingTable where
  tables : Tables
  deriving DecidableEq

structure Route where
  batch : Nat
  baseUrl : String
  deriving DecidableEq, Repr

namespace RoutingTable

def checkEndpoints : List (Nat × String) → Except InitError Unit
  | [] => .ok ()
  | (batch, url) :: rest =>
      match Url.check url with
      | .ok () => checkEndpoints rest
      | .error why => .error (.invalidEndpoint batch url why)

/-- The first endpoint that is no URL is the error. -/
def ofTables (t : Tables) : Except InitError RoutingTable := do
  checkEndpoints t.endpoints.entries
  .ok ⟨t⟩

def ofPayload (p : Payload) : Except InitError RoutingTable := do
  let operations ← (Payload.decodeText Tables.operationsDecoder p.operations).mapError
    (.decode "operation")
  let endpoints ← (Payload.decodeText Tables.endpointsDecoder p.endpoints).mapError
    (.decode "endpoint")
  ofTables ⟨operations, endpoints⟩

def route (t : RoutingTable) (id : String) : Except RouteError Route :=
  match t.tables.batchFor id with
  | none => .error (.unknownOperation id)
  | some batch =>
      match t.tables.endpointFor batch with
      | none => .error (.noEndpoint id batch)
      | some url => .ok ⟨batch, url⟩

end RoutingTable

/-- Variables by name; those that are not set have no value. -/
abbrev Environment := String → Option String

/-- Where the tables come from. -/
inductive Source
  | environment
  | inline (p : Payload)
  deriving DecidableEq, Repr

namespace Source

def valueOf (env : Environment) (name : String) : Except InitError String :=
  (env name).elim (.error (.missingVariable name)) .ok

def payload (env : Environment) : Source → Except InitError Payload
  | .inline p => .ok p
  | .environment => do
      let operations ← valueOf env operationsVariable
      let endpoints ← valueOf env endpointsVariable
      .ok ⟨operations, endpoints⟩

def table (env : Environment) (s : Source) : Except InitError RoutingTable := do
  RoutingTable.ofPayload (← s.payload env)

end Source

/-- The table of a gateway: nothing before the first request, and from then on the table or
the error of that moment. -/
structure RoutingState where
  source : Source
  outcome : Option (Except InitError RoutingTable)

namespace RoutingState

def start (source : Source) : RoutingState := ⟨source, none⟩

def isInitialized (s : RoutingState) : Bool := s.outcome.isSome

/-- The table, brought up in this environment if that has not been done before. -/
def get (s : RoutingState) (env : Environment) : Except InitError RoutingTable × RoutingState :=
  match s.outcome with
  | some outcome => (outcome, s)
  | none =>
      let outcome := s.source.table env
      (outcome, { s with outcome := some outcome })

end RoutingState

end BatchedGateway
