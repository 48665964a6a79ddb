/- Handling of a request: at most one call of a backend, or an error. -/
import BatchedGateway.Json.Printer
import BatchedGateway.Router.Headers
import BatchedGateway.Router.Table
import BatchedGateway.Router.Target

namespace BatchedGateway

/-- A body as it is read: pieces, and then the end or a failure. -/
structure BodyStream where
  chunks : List (List UInt8)
  failure : Option String
  deriving DecidableEq, Repr

structure Request where
  method : String
  target : RequestTarget
  headers : Headers
  body : BodyStream
  deriving DecidableEq, Repr

/-- A request to a backend. -/
structure ForwardRequest where
  method : String
  url : String
  headers : Headers
  body : List UInt8
  deriving DecidableEq, Repr

structure Response where
  status : Nat
  headers : Headers
  body : List UInt8
  deriving DecidableEq, Repr

abbrev Backend.Answer := Except TransportError Response

/-- Ten mebibytes. -/
def defaultBodyLimit : Nat := 10 * 1024 * 1024

namespace BodyStream

/-- The whole body, if it stays within the limit and can be read to its end. -/
def collect (limit room : Nat) : List (List UInt8) → Option String → Except RouteError (List UInt8)
  | [], none => .ok []
  | [], some what => .error (.body what)
  | chunk :: rest, failure =>
      if room < chunk.length then .error (.bodyTooLarge limit)
      else do .ok (chunk ++ (← collect limit (room - chunk.length) rest failure))

def read (b : BodyStream) (limit : Nat) : Except RouteError (List UInt8) :=
  collect limit limit b.chunks b.failure

end BodyStream

/-- What is sent to the backend for a request. The checks come in this order: table, key,
route, declared length, body. -/
def accept (table : Except InitError RoutingTable) (limit : Nat) (r : Request) :
    Except RouteError ForwardRequest := do
  let table ← table.mapError .config
  let id ← (routingKey r.target.path).elim (.error .missingKey) .ok
  let route ← table.route id
  if (r.headers.declaredLength).any (limit < ·) then .error (.bodyTooLarge limit)
  else do
    let body ← r.body.read limit
    .ok ⟨r.method, targetUrl route.baseUrl r.target.path r.target.query,
      r.headers.forwarded true, body⟩

namespace Response

/-- The answer of a backend as it goes out. -/
def relayed (r : Response) : Response := { r with headers := r.headers.forwarded false }

def ofError (e : RouteError) : Response where
  status := e.status
  headers := [("content-type", Text.toBytes "application/json")]
  body := Text.toBytes (Json.obj [("error", .str e.message)]).compact

/-- What opens a tunnel has neither body nor length. -/
def opensTunnel (method : String) (r : Response) : Bool :=
  method = "CONNECT" && 200 ≤ r.status && r.status < 300

/-- As it is put on the wire: with the length of its body, if it does not say one, and
without the body if it answers a HEAD request. -/
def framed (method : String) (r : Response) : Response :=
  if r.opensTunnel method then { r with body := [] }
  else {
    status := r.status
    headers :=
      if r.headers.contains "content-length" then r.headers
      else r.headers ++ [("content-length", Text.toBytes (Text.decimal r.body.length))]
    body := if method = "HEAD" then [] else r.body }

end Response

/-- Answers a request with what a backend says when it is asked, or with an error. -/
def respond {m : Type → Type} [Monad m] (ask : ForwardRequest → m Backend.Answer)
    (table : Except InitError RoutingTable) (limit : Nat) (r : Request) : m Response := do
  match accept table limit r with
  | .error e => return .ofError e
  | .ok accepted =>
      match (← ask accepted) with
      | .ok answer => return answer.relayed
      | .error why => return .ofError (.downstream why)

/-- A backend that is asked, with a record of what it was sent. -/
def recorded (backend : ForwardRequest → Backend.Answer) (sent : ForwardRequest) :
    StateM (Array ForwardRequest) Backend.Answer := do
  modify fun before => before.push sent
  return backend sent

/-- What comes of a request: the answer, and all that was sent to a backend for it. -/
structure Handled where
  response : Response
  sent : Array ForwardRequest
  deriving DecidableEq, Repr

def handle (table : Except InitError RoutingTable) (limit : Nat)
    (backend : ForwardRequest → Backend.Answer) (r : Request) : Handled :=
  let (response, sent) := (respond (recorded backend) table limit r).run #[]
  ⟨response, sent⟩

/-- Handles a request of a gateway in some state. -/
def RoutingState.dispatch (s : RoutingState) (env : Environment) (limit : Nat)
    (backend : ForwardRequest → Backend.Answer) (r : Request) : Handled × RoutingState :=
  let (table, s) := s.get env
  (handle table limit backend r, s)

end BatchedGateway
