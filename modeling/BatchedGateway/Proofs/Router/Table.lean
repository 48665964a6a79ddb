/- The routing table: when it comes up, and when an id has a route. -/
import BatchedGateway.Proofs.Routes.Payload
import BatchedGateway.Router.Table

namespace BatchedGateway

namespace RoutingTable
open Outcome

theorem checkEndpoints_eq_ok {entries : List (Nat × String)}
    (h : ∀ e ∈ entries, Url.check e.2 = .ok ()) : checkEndpoints entries = .ok () := by
  induction entries with
  | nil => rfl
  | cons e rest ih =>
      obtain ⟨hfirst, hrest⟩ := List.forall_mem_cons.mp h
      simp only [checkEndpoints, hfirst]
      exact ih hrest

theorem ofTables_eq_ok {t : Tables}
    (h : ∀ batch url, t.endpointFor batch = some url → Url.check url = .ok ()) :
    ofTables t = .ok ⟨t⟩ := by
  have hentries : ∀ e ∈ t.endpoints.entries, Url.check e.2 = .ok () :=
    fun e he => h e.1 e.2 (SortedMap.mem_entries.mp he)
  rw [ofTables, checkEndpoints_eq_ok hentries, ok_bind]

/-- Nothing is lost between the tables of a build and those that a gateway checks. -/
theorem ofPayload_of_packs {p : Payload} {t : Tables} (hp : p.Packs t) (ht : t.Fits) :
    ofPayload p = ofTables t := by
  rw [ofPayload, hp.decodeText_operations ht, hp.decodeText_endpoints ht]
  simp only [mapError_ok, ok_bind]

variable {t : RoutingTable} {id : String}

theorem route_eq_ok_iff {route : Route} :
    t.route id = .ok route ↔ t.tables.batchFor id = some route.batch ∧
      t.tables.endpointFor route.batch = some route.baseUrl := by
  constructor
  · intro h
    rw [RoutingTable.route] at h
    split at h
    · cases h
    · rename_i batch hbatch
      split at h
      · cases h
      · rename_i url hurl
        cases h
        exact ⟨hbatch, hurl⟩
  · rintro ⟨hbatch, hurl⟩
    simp only [RoutingTable.route, hbatch, hurl]

end RoutingTable

theorem Source.table_of_payload {source : Source} {env : Environment} {p : Payload}
    (h : source.payload env = .ok p) : source.table env = RoutingTable.ofPayload p := by
  rw [table, h, Outcome.ok_bind]

end BatchedGateway
