/- The life of a gateway: its table comes up with the first request, in the environment of that
moment, and what came of it then holds for every request. -/
import BatchedGateway.Proofs.Router.Dispatch

namespace BatchedGateway

/-- The error of a step that fails. -/
def Outcome.fault? {ε α : Type} : Except ε α → Option ε
  | .error e => some e
  | .ok _ => none

def Environment.set (env : Environment) (name : String) (value : Option String) : Environment :=
  fun other => if other = name then value else env other

/-- A request as it comes in, and what backends say to whatever they are sent for it. -/
structure Arrival where
  request : Request
  backend : ForwardRequest → Backend.Answer

inductive Event
  /-- A variable gets a value or loses it. -/
  | change (name : String) (value : Option String)
  | arrival (a : Arrival)

/-- The requests among events, in order. -/
def arrivals (events : List Event) : List Arrival :=
  events.filterMap fun
    | .change _ _ => none
    | .arrival a => some a

/-- The environment in which the first request comes in, if one does. -/
def firstMoment (env : Environment) : List Event → Option Environment
  | [] => none
  | .change name value :: rest => firstMoment (env.set name value) rest
  | .arrival _ :: _ => some env

/-- A gateway and the environment around it. -/
structure Gateway where
  routing : RoutingState
  env : Environment

namespace Gateway

def start (source : Source) (env : Environment) : Gateway := ⟨.start source, env⟩

/-- What an event comes to. Only a request is answered. -/
def step (limit : Nat) (g : Gateway) : Event → List Handled × Gateway
  | .change name value => ([], { g with env := g.env.set name value })
  | .arrival a =>
      let (handled, routing) := g.routing.dispatch g.env limit a.backend a.request
      ([handled], { g with routing })

def run (limit : Nat) : Gateway → List Event → List Handled × Gateway
  | g, [] => ([], g)
  | g, event :: rest =>
      let (now, g) := g.step limit event
      let (later, g) := run limit g rest
      (now ++ later, g)

end Gateway

namespace Source
open Outcome

/-- One of the two texts of a source, if it is there. -/
def text (env : Environment) (name : String) (part : Payload → String) : Source → Option String
  | .inline p => some (part p)
  | .environment => env name

/-- What can keep a table from coming up, in the order in which it counts: no operations, no
endpoints, operations that cannot be read, endpoints that cannot be read, a URL that is none. -/
def faults (env : Environment) (source : Source) : List (Option InitError) :=
  let operations := source.text env operationsVariable (·.operations)
  let endpoints := source.text env endpointsVariable (·.endpoints)
  let assigned := operations.map (Payload.decodeText Tables.operationsDecoder)
  let served := endpoints.map (Payload.decodeText Tables.endpointsDecoder)
  [ if operations.isNone then some (.missingVariable operationsVariable) else none,
    if endpoints.isNone then some (.missingVariable endpointsVariable) else none,
    (assigned.bind fault?).map (.decode "operation"),
    (served.bind fault?).map (.decode "endpoint"),
    (served.bind Except.toOption).bind fun urls => urls.entries.findSome? fun e =>
      (fault? (Url.check e.2)).map (.invalidEndpoint e.1 e.2) ]

def firstFault (env : Environment) (source : Source) : Option InitError :=
  (source.faults env).findSome? id

theorem fault?_checkEndpoints (entries : List (Nat × String)) :
    fault? (RoutingTable.checkEndpoints entries) =
      entries.findSome? fun e => (fault? (Url.check e.2)).map (.invalidEndpoint e.1 e.2) := by
  induction entries with
  | nil => rfl
  | cons e rest ih =>
      obtain ⟨batch, url⟩ := e
      rw [RoutingTable.checkEndpoints, List.findSome?_cons]
      cases Url.check url with
      | ok u => exact ih
      | error why => rfl

theorem fault?_ofTables (t : Tables) :
    fault? (RoutingTable.ofTables t) =
      fault? (RoutingTable.checkEndpoints t.endpoints.entries) := by
  rw [RoutingTable.ofTables]
  cases RoutingTable.checkEndpoints t.endpoints.entries <;> rfl

section Reading

variable {env : Environment} {source : Source} {p : Payload}

/-- With both texts there, what counts is whether they can be read and name URLs. -/
theorem fault?_table_of_payload (hpayload : source.payload env = .ok p)
    (hoperations : source.text env operationsVariable (·.operations) = some p.operations)
    (hendpoints : source.text env endpointsVariable (·.endpoints) = some p.endpoints) :
    fault? (source.table env) = source.firstFault env := by
  rw [table_of_payload hpayload, RoutingTable.ofPayload, firstFault, faults, hoperations,
    hendpoints]
  cases hassigned : Payload.decodeText Tables.operationsDecoder p.operations with
  | error why => simp [hassigned, fault?]
  | ok operations =>
      cases hserved : Payload.decodeText Tables.endpointsDecoder p.endpoints with
      | error why => simp [hassigned, hserved, fault?]
      | ok endpoints =>
          rw [mapError_ok, ok_bind, mapError_ok, ok_bind, fault?_ofTables, fault?_checkEndpoints]
          simp [hassigned, hserved, fault?, Except.toOption]

/-- The error of a table that does not come up is the first fault. -/
theorem fault?_table (env : Environment) (source : Source) :
    fault? (source.table env) = source.firstFault env := by
  cases source with
  | inline p => exact fault?_table_of_payload rfl rfl rfl
  | environment =>
      cases hoperations : env operationsVariable with
      | none => simp [table, payload, valueOf, hoperations, fault?, firstFault, faults, text]
      | some operations =>
          cases hendpoints : env endpointsVariable with
          | none =>
              simp [table, payload, valueOf, hoperations, hendpoints, fault?, firstFault, faults,
                text]
          | some endpoints =>
              refine fault?_table_of_payload (p := ⟨operations, endpoints⟩) ?_ hoperations
                hendpoints
              simp [payload, valueOf, hoperations, hendpoints]

/-- A table that comes up is the one that the two texts spell. -/
theorem decode_of_table {t : RoutingTable} (h : source.table env = .ok t) :
    ∃ p, source.payload env = .ok p ∧ p.decode = .ok t.tables := by
  obtain ⟨p, hpayload, hloaded⟩ := bind_eq_ok.mp h
  obtain ⟨operations, hoperations, hloaded⟩ := bind_eq_ok.mp hloaded
  obtain ⟨endpoints, hendpoints, hloaded⟩ := bind_eq_ok.mp hloaded
  obtain ⟨_, -, hloaded⟩ := bind_eq_ok.mp hloaded
  cases hloaded
  rw [mapError_eq_ok] at hoperations hendpoints
  exact ⟨p, hpayload, by rw [Payload.decode, hoperations, ok_bind, hendpoints, ok_bind]⟩

end Reading

end Source

/-- Where a request leads by a table: a batch and the URL there. -/
def RoutingTable.destination (t : RoutingTable) (target : RequestTarget) :
    Except RouteError (Nat × String) :=
  match routingKey target.path with
  | none => .error .missingKey
  | some id => (t.route id).map fun route =>
      (route.batch, targetUrl route.baseUrl target.path target.query)

namespace Arrival
open Outcome

/-- What comes of a request if it is the only one of a gateway. -/
def alone (a : Arrival) (source : Source) (env : Environment) (limit : Nat) : Handled :=
  ((RoutingState.start source).dispatch env limit a.backend a.request).1

/-- A request that leads nowhere was turned away for that; any other was sent nowhere but to its
destination. -/
def GoesBy (a : Arrival) (t : RoutingTable) (handled : Handled) : Prop :=
  match t.destination a.request.target with
  | .error e => e.status = 404 ∧ handled = ⟨.ofError e, #[]⟩
  | .ok (_, url) => ∀ sent ∈ handled.sent, sent.url = url

variable {t : RoutingTable} {r : Request}

theorem status_of_route_eq_error {id : String} {e : RouteError} (h : t.route id = .error e) :
    e.status = 404 := by
  rw [RoutingTable.route] at h
  split at h
  · cases h
    rfl
  · split at h
    · cases h
      rfl
    · cases h

theorem accept_of_no_destination (limit : Nat) {e : RouteError}
    (h : t.destination r.target = .error e) :
    e.status = 404 ∧ accept (.ok t) limit r = .error e := by
  rw [RoutingTable.destination] at h
  rw [accept, mapError_ok, ok_bind]
  cases hkey : routingKey r.target.path with
  | none =>
      rw [hkey] at h
      cases h
      exact ⟨rfl, rfl⟩
  | some id =>
      rw [hkey] at h
      cases hroute : t.route id with
      | error why =>
          simp only [hroute, Except.map] at h
          cases h
          rw [Option.elim_some, ok_bind, hroute, error_bind]
          exact ⟨status_of_route_eq_error hroute, rfl⟩
      | ok route =>
          simp only [hroute, Except.map] at h
          cases h

theorem goesBy_handle (a : Arrival) (t : RoutingTable) (limit : Nat) :
    a.GoesBy t (handle (.ok t) limit a.backend a.request) := by
  rw [GoesBy]
  split
  · rename_i e hnowhere
    obtain ⟨hstatus, hrefused⟩ := accept_of_no_destination limit hnowhere
    exact ⟨hstatus, handle_of_refuse a.backend hrefused⟩
  · rename_i batch url hdestination
    rcases accept_cases (.ok t) limit a.request with ⟨_, id, route, hdeliver⟩ | ⟨e, hrefused, -⟩
    · cases hdeliver.ready
      rw [RoutingTable.destination, hdeliver.key] at hdestination
      simp only [hdeliver.routed, Except.map] at hdestination
      cases hdestination
      rw [handle_of_deliverable a.backend hdeliver]
      simp [Request.sentTo]
    · rw [handle_of_refuse a.backend hrefused]
      simp

end Arrival

namespace Gateway

/-- The table of a gateway has come up, or has failed to. -/
def Settled (g : Gateway) (outcome : Except InitError RoutingTable) : Prop :=
  g.routing.outcome = some outcome

variable {g : Gateway} {outcome : Except InitError RoutingTable} {source : Source}
  {env moment : Environment} (limit : Nat)

theorem run_cons (event : Event) (rest : List Event) : g.run limit (event :: rest) =
    ((g.step limit event).1 ++ ((g.step limit event).2.run limit rest).1,
      ((g.step limit event).2.run limit rest).2) := rfl

theorem Settled.get (h : g.Settled outcome) : g.routing.get g.env = (outcome, g.routing) := by
  rw [RoutingState.get, h]

/-- Whatever happens to a settled gateway, it stays as it is and answers by what it has. -/
theorem Settled.step (h : g.Settled outcome) (event : Event) :
    (g.step limit event).1 =
        (arrivals [event]).map (fun a => handle outcome limit a.backend a.request) ∧
      (g.step limit event).2.Settled outcome := by
  cases event with
  | change name value => exact ⟨rfl, h⟩
  | arrival a =>
      rw [Gateway.step, RoutingState.dispatch, h.get]
      exact ⟨rfl, h⟩

theorem Settled.run (h : g.Settled outcome) (events : List Event) :
    (g.run limit events).1 =
        (arrivals events).map (fun a => handle outcome limit a.backend a.request) ∧
      (g.run limit events).2.Settled outcome := by
  induction events generalizing g with
  | nil => exact ⟨rfl, h⟩
  | cons event rest ih =>
      obtain ⟨hnow, hsettled⟩ := h.step limit event
      obtain ⟨hlater, hend⟩ := ih hsettled
      refine ⟨?_, hend⟩
      have hsplit : arrivals (event :: rest) = arrivals [event] ++ arrivals rest :=
        List.filterMap_append (l := [event])
      rw [run_cons, hsplit, List.map_append, hnow, hlater]

/-- Without a request nothing is started, whatever the environment becomes. -/
theorem run_of_no_moment {events : List Event} (h : firstMoment env events = none) :
    ((start source env).run limit events).1 = [] ∧
      ((start source env).run limit events).2.routing = RoutingState.start source := by
  induction events generalizing env with
  | nil => exact ⟨rfl, rfl⟩
  | cons event rest ih =>
      cases event with
      | change name value => exact ih h
      | arrival a => cases h

/-- The first request settles a gateway. -/
theorem run_of_moment {events : List Event} (h : firstMoment env events = some moment) :
    ((start source env).run limit events).1 = (arrivals events).map
        (fun a => handle (source.table moment) limit a.backend a.request) ∧
      ((start source env).run limit events).2.Settled (source.table moment) := by
  induction events generalizing env with
  | nil => cases h
  | cons event rest ih =>
      cases event with
      | change name value => exact ih h
      | arrival a =>
          cases h
          have hsettled : ((start source moment).step limit (.arrival a)).2.Settled
              (source.table moment) := rfl
          obtain ⟨hlater, hend⟩ := hsettled.run limit rest
          refine ⟨?_, hend⟩
          rw [run_cons, hlater]
          rfl

/-- A gateway has no table before the first request. That request settles for good which table it
has, or which error, by the environment of that moment, and each request is answered as if it were
the only one in that environment. -/
theorem cold_start (source : Source) (env : Environment) (limit : Nat) (events : List Event) :
    let answers := ((start source env).run limit events).1
    let g := ((start source env).run limit events).2
    (firstMoment env events = none → answers = [] ∧ g.routing.isInitialized = false) ∧
      ∀ moment, firstMoment env events = some moment →
        g.routing.isInitialized = true ∧
        (g.routing.get g.env).1 = source.table moment ∧
        Outcome.fault? (source.table moment) = source.firstFault moment ∧
        answers = (arrivals events).map (·.alone source moment limit) ∧
        (∀ why, source.table moment = .error why → ∀ answer ∈ answers,
          answer = ⟨.ofError (.config why), #[]⟩ ∧ answer.response.status = 500) ∧
        ∀ t, source.table moment = .ok t →
          (∃ p, source.payload moment = .ok p ∧ p.decode = .ok t.tables) ∧
          ∀ a ∈ arrivals events, a.GoesBy t (a.alone source moment limit) := by
  intro answers g
  constructor
  · intro hnone
    obtain ⟨hanswers, hrouting⟩ : answers = [] ∧ g.routing = .start source :=
      run_of_no_moment limit hnone
    exact ⟨hanswers, by rw [hrouting]; rfl⟩
  · intro moment hmoment
    obtain ⟨hanswers, hsettled⟩ : answers = _ ∧ g.Settled _ := run_of_moment limit hmoment
    have hinitialized : g.routing.isInitialized = true := by
      rw [RoutingState.isInitialized, hsettled]
      rfl
    have htable : (g.routing.get g.env).1 = source.table moment := by rw [hsettled.get]
    refine ⟨hinitialized, htable, source.fault?_table moment, hanswers, ?_, ?_⟩
    · intro why hwhy answer hanswer
      rw [hanswers, hwhy] at hanswer
      obtain ⟨a, -, rfl⟩ := List.mem_map.mp hanswer
      exact ⟨handle_of_refuse a.backend rfl, by rw [handle_of_refuse a.backend rfl]; rfl⟩
    · intro t ht
      refine ⟨Source.decode_of_table ht, fun a _ => ?_⟩
      have halone : a.alone source moment limit = handle (.ok t) limit a.backend a.request := by
        rw [← ht]
        rfl
      rw [halone]
      exact a.goesBy_handle t limit

end Gateway

end BatchedGateway
