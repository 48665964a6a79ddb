/- The decision about a request: when a backend is asked, what it is sent, and with which status
a request is turned away. -/
import BatchedGateway.Proofs.Outcome
import BatchedGateway.Proofs.Router.Table
import BatchedGateway.Router.Dispatch

namespace BatchedGateway
open Outcome

/-- A body is its chunks, unless they exceed the room there is or end in a failure. -/
theorem BodyStream.collect_eq (limit room : Nat) (chunks : List (List UInt8))
    (failure : Option String) :
    collect limit room chunks failure =
      if room < chunks.flatten.length then .error (.bodyTooLarge limit)
      else failure.elim (.ok chunks.flatten) fun what => .error (.body what) := by
  induction chunks generalizing room with
  | nil => cases failure <;> rfl
  | cons chunk rest ih =>
      rw [collect, ih, List.flatten_cons, List.length_append]
      by_cases hchunk : room < chunk.length
      · rw [if_pos hchunk, if_pos (by omega)]
      · rw [if_neg hchunk]
        by_cases hrest : room - chunk.length < rest.flatten.length
        · rw [if_pos hrest, if_pos (by omega), error_bind]
        · rw [if_neg hrest, if_neg (by omega)]
          cases failure <;> rfl

/-- All bytes that come before a body ends or breaks off. -/
def BodyStream.bytes (b : BodyStream) : List UInt8 := b.chunks.flatten

theorem BodyStream.read_eq (b : BodyStream) (limit : Nat) :
    b.read limit =
      if limit < b.bytes.length then .error (.bodyTooLarge limit)
      else b.failure.elim (.ok b.bytes) fun what => .error (.body what) :=
  collect_eq limit limit b.chunks b.failure

/-- A body that can be read to its end within the limit, as can be the one that is declared. -/
structure Request.Readable (r : Request) (limit : Nat) : Prop where
  declared : ∀ n, r.headers.declaredLength = some n → n ≤ limit
  size : r.body.bytes.length ≤ limit
  whole : r.body.failure = none

/-- A request that a backend is asked about, with the table, the id and the route it has. -/
structure Deliverable (table : Except InitError RoutingTable) (limit : Nat) (r : Request)
    (t : RoutingTable) (id : String) (route : Route) : Prop where
  ready : table = .ok t
  key : routingKey r.target.path = some id
  routed : t.route id = .ok route
  readable : r.Readable limit

/-- What the backend of a route is sent for a request. -/
def Request.sentTo (r : Request) (route : Route) : ForwardRequest where
  method := r.method
  url := targetUrl route.baseUrl r.target.path r.target.query
  headers := r.headers.forwarded true
  body := r.body.bytes

/-- The reasons to turn a request away and their statuses, in the order in which they count:
no tables, no key, no batch, no endpoint, too large as declared, too large, broken off. -/
def refusals (table : Except InitError RoutingTable) (limit : Nat) (r : Request) :
    List (Bool × Nat) :=
  let tables := table.toOption.map (·.tables)
  let id := routingKey r.target.path
  let batch := do (← tables).batchFor (← id)
  let url := do (← tables).endpointFor (← batch)
  [(tables.isNone, 500), (id.isNone, 404), (batch.isNone, 404), (url.isNone, 404),
    (r.headers.declaredLength.any (limit < ·), 413),
    (limit < r.body.bytes.length, 413), (r.body.failure.isSome, 400)]

/-- The status of the first reason that applies. -/
def refusal (table : Except InitError RoutingTable) (limit : Nat) (r : Request) : Option Nat :=
  ((refusals table limit r).find? (·.1)).map (·.2)

section Accepting

variable {table : Except InitError RoutingTable} {limit : Nat} {r : Request} {t : RoutingTable}
  {id : String}

/-- With a route, the declared length and the body decide. -/
theorem accept_of_route {route : Route} (hkey : routingKey r.target.path = some id)
    (hroute : t.route id = .ok route) :
    accept (.ok t) limit r =
      if (r.headers.declaredLength).any (limit < ·) then .error (.bodyTooLarge limit)
      else if limit < r.body.bytes.length then .error (.bodyTooLarge limit)
      else r.body.failure.elim (.ok (r.sentTo route)) fun what => .error (.body what) := by
  rw [accept, mapError_ok, ok_bind, hkey, Option.elim_some, ok_bind, hroute, ok_bind,
    BodyStream.read_eq]
  split
  · rfl
  · split
    · rfl
    · cases r.body.failure <;> rfl

theorem refusal_of_route {route : Route} (hkey : routingKey r.target.path = some id)
    (hroute : t.route id = .ok route) :
    refusal (.ok t) limit r =
      if (r.headers.declaredLength).any (limit < ·) then some 413
      else if limit < r.body.bytes.length then some 413
      else r.body.failure.map fun _ => 400 := by
  obtain ⟨hbatch, hurl⟩ := RoutingTable.route_eq_ok_iff.mp hroute
  simp only [refusal, refusals, Except.toOption, Option.map_some, hkey, Option.bind_eq_bind,
    Option.bind_some, hbatch, hurl, Option.isNone_some, List.find?_cons]
  by_cases hdeclared : (r.headers.declaredLength).any (limit < ·) = true
  · simp [hdeclared]
  · by_cases hsize : limit < r.body.bytes.length
    · simp [hdeclared, hsize]
    · cases hfailure : r.body.failure <;> simp [hdeclared, hsize]

theorem accept_of_deliverable {route : Route} (h : Deliverable table limit r t id route) :
    accept table limit r = .ok (r.sentTo route) := by
  have hdeclared : ¬ (r.headers.declaredLength).any (limit < ·) = true := by
    cases hlength : r.headers.declaredLength with
    | none => simp
    | some n => simpa using h.readable.declared n hlength
  rw [h.ready, accept_of_route h.key h.routed, if_neg hdeclared,
    if_neg (Nat.not_lt.mpr h.readable.size), h.readable.whole]
  rfl

/-- A request without a route is refused for its tables, its key, its id or its endpoint. -/
theorem accept_of_no_route (h : ∀ t id route, table = .ok t → routingKey r.target.path = some id →
    t.route id ≠ .ok route) :
    ∃ e, accept table limit r = .error e ∧ refusal table limit r = some e.status := by
  cases table with
  | error why => exact ⟨.config why, rfl, rfl⟩
  | ok t =>
      cases hkey : routingKey r.target.path with
      | none =>
          refine ⟨.missingKey, ?_, ?_⟩
          · simp [accept, hkey]
          · simp [refusal, refusals, hkey, Except.toOption, RouteError.status]
      | some id =>
          cases hbatch : t.tables.batchFor id with
          | none =>
              refine ⟨.unknownOperation id, ?_, ?_⟩
              · simp [accept, hkey, RoutingTable.route, hbatch]
              · simp [refusal, refusals, hkey, hbatch, Except.toOption, RouteError.status]
          | some batch =>
              cases hurl : t.tables.endpointFor batch with
              | none =>
                  refine ⟨.noEndpoint id batch, ?_, ?_⟩
                  · simp [accept, hkey, RoutingTable.route, hbatch, hurl]
                  · simp [refusal, refusals, hkey, hbatch, hurl, Except.toOption, RouteError.status]
              | some url =>
                  have hroute : t.route id = .ok ⟨batch, url⟩ :=
                    RoutingTable.route_eq_ok_iff.mpr ⟨hbatch, hurl⟩
                  exact absurd hroute (h t id _ rfl hkey)

/-- A request is delivered, or it is refused for the first reason that applies. -/
theorem accept_cases (table : Except InitError RoutingTable) (limit : Nat) (r : Request) :
    (∃ t id route, Deliverable table limit r t id route) ∨
      ∃ e, accept table limit r = .error e ∧ refusal table limit r = some e.status := by
  by_cases hrouted : ∃ t id route, table = .ok t ∧ routingKey r.target.path = some id ∧
      t.route id = .ok route
  · obtain ⟨t, id, route, rfl, hkey, hroute⟩ := hrouted
    rw [accept_of_route hkey hroute, refusal_of_route hkey hroute]
    by_cases hdeclared : (r.headers.declaredLength).any (limit < ·) = true
    · simp [hdeclared, RouteError.status]
    · rw [if_neg hdeclared, if_neg hdeclared]
      by_cases hsize : limit < r.body.bytes.length
      · simp [hsize, RouteError.status]
      · cases hfailure : r.body.failure with
        | some what => simp [hsize, RouteError.status]
        | none =>
            have hwithin : ∀ n, r.headers.declaredLength = some n → n ≤ limit := by
              intro n hn
              rw [hn] at hdeclared
              simpa using hdeclared
            exact .inl ⟨t, id, route, rfl, hkey, hroute, hwithin, Nat.not_lt.mp hsize, hfailure⟩
  · refine .inr (accept_of_no_route fun t id route ht hkey hroute => ?_)
    exact hrouted ⟨t, id, route, ht, hkey, hroute⟩

end Accepting

section Dispatching

variable {table : Except InitError RoutingTable} {limit : Nat} {r : Request}
  (backend : ForwardRequest → Backend.Answer)

theorem handle_of_accept {sent : ForwardRequest} (h : accept table limit r = .ok sent) :
    handle table limit backend r =
      ⟨match backend sent with
        | .ok answer => answer.relayed
        | .error why => .ofError (.downstream why), #[sent]⟩ := by
  simp only [handle, respond, h]
  cases hanswer : backend sent <;> simp [recorded, hanswer] <;> rfl

theorem handle_of_refuse {e : RouteError} (h : accept table limit r = .error e) :
    handle table limit backend r = ⟨.ofError e, #[]⟩ := by
  simp only [handle, respond, h]
  rfl

/-- A request that can be delivered is sent once, and answered with what comes back. -/
theorem handle_of_deliverable {t : RoutingTable} {id : String} {route : Route}
    (h : Deliverable table limit r t id route) :
    handle table limit backend r =
      ⟨match backend (r.sentTo route) with
        | .ok answer => answer.relayed
        | .error why => .ofError (.downstream why), #[r.sentTo route]⟩ :=
  handle_of_accept backend (accept_of_deliverable h)

theorem handle_of_undeliverable
    (h : ¬ ∃ t id route, Deliverable table limit r t id route) :
    ∃ e, handle table limit backend r = ⟨.ofError e, #[]⟩ ∧
      refusal table limit r = some e.status := by
  rcases accept_cases table limit r with hdeliver | ⟨e, he, hrefusal⟩
  · exact absurd hdeliver h
  · exact ⟨e, handle_of_refuse backend he, hrefusal⟩

end Dispatching

/-- What a gateway does with a request: it asks a backend once if the request can be delivered,
and otherwise turns it away for the first reason that applies. -/
theorem dispatch_decision (s : RoutingState) (env : Environment) (limit : Nat)
    (backend : ForwardRequest → Backend.Answer) (r : Request) :
    let table := (s.get env).1
    let handled := (s.dispatch env limit backend r).1
    handled.sent.size ≤ 1 ∧
      (handled.sent ≠ #[] ↔ ∃ t id route, Deliverable table limit r t id route) ∧
      (∀ t id route, Deliverable table limit r t id route →
        handled.sent = #[r.sentTo route] ∧
        (∀ answer, backend (r.sentTo route) = .ok answer → handled.response =
          ⟨answer.status, answer.headers.forwarded false, answer.body⟩) ∧
        ∀ why, backend (r.sentTo route) = .error why → handled.response.status = 502) ∧
      ((¬ ∃ t id route, Deliverable table limit r t id route) →
        refusal table limit r = some handled.response.status) := by
  intro table handled
  by_cases hdeliver : ∃ t id route, Deliverable table limit r t id route
  · have hone : ∀ t id route, Deliverable table limit r t id route → handled =
        ⟨match backend (r.sentTo route) with
          | .ok answer => answer.relayed
          | .error why => .ofError (.downstream why), #[r.sentTo route]⟩ :=
      fun t id route h => handle_of_deliverable backend h
    have hsent : ∃ sent, handled.sent = #[sent] := by
      obtain ⟨t, id, route, h⟩ := hdeliver
      exact ⟨r.sentTo route, by rw [hone t id route h]⟩
    obtain ⟨sent, hsent⟩ := hsent
    refine ⟨?_, ⟨fun _ => hdeliver, fun _ => ?_⟩, ?_, fun hnone => absurd hdeliver hnone⟩
    · rw [hsent]
      exact Nat.le_refl 1
    · rw [hsent]
      simp
    · intro t id route h
      rw [hone t id route h]
      refine ⟨rfl, fun answer hanswer => ?_, fun why hwhy => ?_⟩
      · rw [hanswer]
        rfl
      · rw [hwhy]
        rfl
  · obtain ⟨e, he, hrefusal⟩ := handle_of_undeliverable backend hdeliver
    have hrefused : handled = ⟨.ofError e, #[]⟩ := he
    rw [hrefused]
    refine ⟨Nat.zero_le 1, ⟨fun hsent => absurd rfl hsent, fun h => absurd h hdeliver⟩, ?_, ?_⟩
    · exact fun t id route h => absurd ⟨t, id, route, h⟩ hdeliver
    · exact fun _ => hrefusal

/-- A length that is declared counts, though the body is shorter. -/
example :
    let table : RoutingTable := ⟨.ofLists [("a", 0)] [(0, "fn://h")]⟩
    let handled := handle (.ok table) 3 (fun _ => .error .timeout)
      ⟨"POST", ⟨"/a", none⟩, [("content-length", Text.toBytes "4")], ⟨[[1]], none⟩⟩
    handled.response.status = 413 ∧ handled.sent = #[] := by
  decide +kernel

end BatchedGateway
