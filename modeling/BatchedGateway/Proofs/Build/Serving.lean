/- What is built is what is served: a gateway that comes up on the payload of a build has its
tables, and sends each request for an operation to the batch that was built for it. -/
import BatchedGateway.Proofs.Build.Pipeline
import BatchedGateway.Proofs.Router.Dispatch
import BatchedGateway.Proofs.Router.Target

namespace BatchedGateway

theorem RouterEntry.payload?_ofPayload (project : String) (p : Payload) :
    (ofPayload project p).payload? = some p := by
  have hne : operationsVariable ≠ endpointsVariable := by decide
  rw [payload?, ofPayload]
  simp [SortedMap.ofList, SortedMap.get?_insert, hne]

theorem Provisioner.check_ofPattern {pattern url : String} {n : Nat} {surface : Surface}
    (h : ofPattern pattern n surface = .ok url) : Url.check url = .ok () := by
  rw [ofPattern] at h
  split at h
  · rename_i hcheck
    cases h
    exact hcheck
  · cases h

/-- A resource for an operation was built in a batch that is served at a URL. -/
def Manifest.Serves (m : Manifest) (id : String) (batch : Nat) (url : String) : Prop :=
  ∃ built ∈ m.batches, built.surface.index = batch ∧ built.baseUrl = some url ∧
    ∃ resource ∈ built.surface.resources, resource.operation = id

namespace Build
open Outcome

variable {z : Archive.Compressor} {c : Config} {inputs : Inputs} {isDirectory : String → Bool}
  {provision : Provisioner} {m : Manifest} {s : Progress} {ops : List IndexedOperation}
  {batches : List (Batch Operation)}

namespace Stages

theorem payload_eq (r : Stages z c inputs isDirectory provision ops batches m s) :
    m.router.payload? = some m.payload := by
  rw [r.manifest]
  exact RouterEntry.payload?_ofPayload ..

theorem packed_tables (r : Stages z c inputs isDirectory provision ops batches m s) :
    Payload.encode z m.tables = .ok m.payload := r.tables ▸ r.packed

theorem packs (r : Stages z c inputs isDirectory provision ops batches m s) :
    m.payload.Packs m.tables := Payload.packs_of_encode r.packed_tables

/-- No batch has an index as great as the number of operations. -/
theorem lt_operationCount (r : Stages z c inputs isDirectory provision ops batches m s) {b : Nat}
    {built : BuiltBatch} (hb : m.batches[b]? = some built) : b < m.operationCount := by
  have hsize := (partition_eq_ok r.cut).1
  have hlength := (List.getElem?_eq_some_iff.mp hb).1
  rw [r.length_batches, Nat.lt_div_iff_mul_lt hsize] at hlength
  have hmul := Nat.le_mul_of_pos_right b hsize
  rw [r.operationCount_eq]
  omega

theorem batchFor_iff_built (r : Stages z c inputs isDirectory provision ops batches m s)
    (id : String) (b : Nat) : m.tables.batchFor id = some b ↔
      ∃ built, m.batches[b]? = some built ∧ id ∈ built.surface.operations := by
  rw [r.batchFor_iff, r.routedIn_iff]
  constructor
  · rintro ⟨batch, hbatch, hid⟩
    have hsurface := r.getElem?_batches b
    rw [hbatch, Option.map_some, Option.map_eq_some_iff] at hsurface
    obtain ⟨built, hb, hsurface⟩ := hsurface
    exact ⟨built, hb, by rw [hsurface, Planner.operations_surfaceOf]; exact hid⟩
  · rintro ⟨built, hb, hid⟩
    obtain ⟨batch, hbatch, hsurface⟩ := r.surface_eq hb
    rw [hsurface, Planner.operations_surfaceOf] at hid
    exact ⟨batch, hbatch, hid⟩

theorem fits (r : Stages z c inputs isDirectory provision ops batches m s)
    (hcount : m.operationCount ≤ Json.maxNat64) : m.tables.Fits where
  operations := by
    rintro ⟨id, b⟩ he
    obtain ⟨built, hb, -⟩ := (r.batchFor_iff_built id b).mp (SortedMap.mem_entries.mp he)
    exact Nat.le_trans (Nat.le_of_lt (r.lt_operationCount hb)) hcount
  endpoints := by
    rintro ⟨b, url⟩ he
    have hurl : m.tables.endpointFor b = some url := SortedMap.mem_entries.mp he
    cases hb : m.batches[b]? with
    | none =>
        rw [r.endpointFor_eq_none hb] at hurl
        cases hurl
    | some built => exact Nat.le_trans (Nat.le_of_lt (r.lt_operationCount hb)) hcount

theorem serves_iff (r : Stages z c inputs isDirectory provision ops batches m s) {id : String}
    {b : Nat} {url : String} :
    m.Serves id b url ↔ m.tables.batchFor id = some b ∧ m.tables.endpointFor b = some url := by
  rw [r.batchFor_iff_built]
  constructor
  · rintro ⟨built, hmem, hindex, hurl, resource, hresource, rfl⟩
    obtain ⟨k, hk⟩ := List.mem_iff_getElem?.mp hmem
    have hkb : k = b := (r.index_eq hk).symm.trans hindex
    rw [← hkb, r.endpointFor_eq hk]
    exact ⟨⟨built, hk, List.mem_map.mpr ⟨resource, hresource, rfl⟩⟩, hurl⟩
  · rintro ⟨⟨built, hb, hid⟩, hurl⟩
    rw [r.endpointFor_eq hb] at hurl
    exact ⟨built, List.mem_of_getElem? hb, r.index_eq hb, hurl, List.mem_map.mp hid⟩

/-- An operation that has a batch has an endpoint. -/
theorem exists_serves (r : Stages z c inputs isDirectory provision ops batches m s) {id : String}
    {b : Nat} (h : m.tables.batchFor id = some b) : ∃ url, m.Serves id b url := by
  obtain ⟨built, hb, hid⟩ := (r.batchFor_iff_built id b).mp h
  have hserved := (r.built.isSome_baseUrl built (List.mem_of_getElem? hb)).mpr
    (List.ne_nil_of_mem hid)
  obtain ⟨url, hurl⟩ := Option.isSome_iff_exists.mp hserved
  exact ⟨url, r.serves_iff.mpr ⟨h, (r.endpointFor_eq hb).trans hurl⟩⟩

theorem pathPart_eq (r : Stages z c inputs isDirectory provision ops batches m s)
    {built : BuiltBatch} (hbuilt : built ∈ m.batches) {resource : Resource}
    (h : resource ∈ built.surface.resources) : resource.pathPart = resource.operation := by
  obtain ⟨b, hb⟩ := List.mem_iff_getElem?.mp hbuilt
  obtain ⟨batch, -, hsurface⟩ := r.surface_eq hb
  rw [hsurface] at h
  exact Planner.pathPart_of_mem_chain h

theorem route_eq_ok_iff (r : Stages z c inputs isDirectory provision ops batches m s) {id : String}
    {b : Nat} {url : String} :
    RoutingTable.route ⟨m.tables⟩ id = .ok ⟨b, url⟩ ↔ m.Serves id b url :=
  RoutingTable.route_eq_ok_iff.trans r.serves_iff.symm

/-- A missing route is never for want of an endpoint. -/
theorem route_eq_error (r : Stages z c inputs isDirectory provision ops batches m s) {id : String}
    (h : ¬ ∃ b url, m.Serves id b url) :
    RoutingTable.route ⟨m.tables⟩ id = .error (.unknownOperation id) := by
  cases hbatch : m.tables.batchFor id with
  | none => simp only [RoutingTable.route, hbatch]
  | some b =>
      obtain ⟨url, hserves⟩ := r.exists_serves hbatch
      exact absurd ⟨b, url, hserves⟩ h

theorem ofPayload_eq_ok (r : Stages z c inputs isDirectory provision ops batches m s)
    (hcount : m.operationCount ≤ Json.maxNat64)
    (hurls : (∃ pattern, provision = Provisioner.ofPattern pattern) ∨
      ∀ n surface url, s.calls[n]? = some surface → provision n surface = .ok url →
        Url.check url = .ok ()) :
    RoutingTable.ofPayload m.payload = .ok ⟨m.tables⟩ := by
  rw [RoutingTable.ofPayload_of_packs r.packs (r.fits hcount)]
  refine RoutingTable.ofTables_eq_ok fun b url hurl => ?_
  obtain ⟨n, surface, hcall, -, hanswer⟩ := (r.endpointFor_iff b url).mp hurl
  rcases hurls with ⟨pattern, rfl⟩ | hurls
  · exact Provisioner.check_ofPattern hanswer
  · exact hurls n surface url hcall hanswer

end Stages

/-- A gateway on the payload of a build holds its tables, routes an id if and only if a resource
for it is served, and then sends a readable request for it once, to the URL of its batch. The
number of operations is one of 64 bits, and the URLs come from a pattern or pass the check. -/
theorem run_served (h : run z c inputs isDirectory provision = (.ok m, s))
    (hcount : m.operationCount ≤ Json.maxNat64)
    (hurls : (∃ pattern, provision = Provisioner.ofPattern pattern) ∨
      ∀ n surface url, s.calls[n]? = some surface → provision n surface = .ok url →
        Url.check url = .ok ()) :
    ∃ p, m.router.payload? = some p ∧ RoutingTable.ofPayload p = .ok ⟨m.tables⟩ ∧
      (∀ id b url, RoutingTable.route ⟨m.tables⟩ id = .ok ⟨b, url⟩ ↔ m.Serves id b url) ∧
      (∀ id, (¬ ∃ b url, m.Serves id b url) →
        RoutingTable.route ⟨m.tables⟩ id = .error (.unknownOperation id)) ∧
      ∀ built ∈ m.batches, ∀ url, built.baseUrl = some url →
        ∀ resource ∈ built.surface.resources, resource.operation ≠ "" →
          ∀ written suffix : String, Text.PercentForm resource.pathPart.toList written.toList →
            suffix = "" ∨ suffix.toList.head? = some '/' →
              ∀ (source : Source) (env : Environment) (limit : Nat)
                (backend : ForwardRequest → Backend.Answer) (r : Request),
                source.payload env = .ok p → r.target = ⟨"/" ++ written ++ suffix, none⟩ →
                  r.Readable limit →
                    ((RoutingState.start source).dispatch env limit backend r).1.sent =
                      #[⟨r.method, String.ofList (dropSlashes url) ++ ("/" ++ written ++ suffix),
                        r.headers.forwarded true, r.body.bytes⟩] := by
  obtain ⟨ops, batches, stages⟩ := run_eq_ok h
  have htable := stages.ofPayload_eq_ok hcount hurls
  refine ⟨m.payload, stages.payload_eq, htable, fun id b url =>
    stages.route_eq_ok_iff, fun id => stages.route_eq_error, ?_⟩
  intro built hbuilt url hurl resource hresource hid written suffix hwritten hsuffix source env
    limit backend r hpayload htarget hreadable
  have hpath : r.target.path.toList =
      List.replicate 1 '/' ++ (written.toList ++ suffix.toList) := by
    rw [htarget]
    simp
  have hrest : suffix.toList = [] ∨ suffix.toList.head? = some '/' :=
    hsuffix.imp_left String.toList_eq_nil_iff.mpr
  rw [stages.pathPart_eq hbuilt hresource] at hwritten
  have hserves : m.Serves resource.operation built.surface.index url :=
    ⟨built, hbuilt, rfl, hurl, resource, hresource, rfl⟩
  have hdeliver : Deliverable (source.table env) limit r ⟨m.tables⟩ resource.operation
      ⟨built.surface.index, url⟩ := {
    ready := (Source.table_of_payload hpayload).trans htable
    key := routingKey_of_percentForm hid hwritten hrest hpath
    routed := stages.route_eq_ok_iff.mpr hserves
    readable := hreadable }
  have hsent := congrArg Handled.sent (handle_of_deliverable backend hdeliver)
  rwa [Request.sentTo, htarget, targetUrl_of_path (by simp)] at hsent

/-- What the tables with the second of two operations are packed to. -/
def secondPayload : Payload where
  operations := "H4sIAAAAAAAA/6tWSk8tUUhSsjKsBQDnLXJqCwAAAA=="
  endpoints := "H4sIAAAAAAAA/6tWMlSyUkrLs9LXz9BXqgUAZVgcmw8AAAA="

/-- A request for the one operation that is served goes to the URL of batch one. -/
theorem run_served_oneTemplate :
    ∃ m s, run .fixedCode { maxResources := 1 } oneTemplate (fun _ => false)
        (.ofPattern "fn://h/") = (.ok m, s) ∧ m.router.payload? = some secondPayload ∧
      RoutingTable.ofPayload secondPayload = .ok ⟨m.tables⟩ ∧
      RoutingTable.route ⟨m.tables⟩ "get b" = .ok ⟨1, "fn://h/"⟩ ∧
      ((RoutingState.start (.inline secondPayload)).dispatch (fun _ => none) 0
        (fun _ => .error .timeout) ⟨"GET", ⟨"/get%20b/x", none⟩, [], ⟨[], none⟩⟩).1.sent =
          #[⟨"GET", "fn://h/get%20b/x", [], []⟩] := by
  obtain ⟨m, h⟩ := exists_eq_ok (x := run .fixedCode { maxResources := 1 } oneTemplate
    (fun _ => false) (.ofPattern "fn://h/")) (by decide +kernel)
  have hparts : (run .fixedCode { maxResources := 1 } oneTemplate (fun _ => false)
      (.ofPattern "fn://h/")).1.toOption.map (fun m => (m.operationCount, m.batches.flatMap fun b =>
        b.surface.resources.map fun r => (b.surface.index, b.baseUrl, r.operation, r.pathPart))) =
      some (2, [(1, some "fn://h/", "get b", "get b")]) := by decide +kernel
  have hpayload : (run .fixedCode { maxResources := 1 } oneTemplate (fun _ => false)
      (.ofPattern "fn://h/")).1.toOption.map (·.router.payload?) = some (some secondPayload) := by
    decide +kernel
  rw [h] at hparts hpayload
  obtain ⟨hcount, hresources⟩ := Prod.mk.inj (Option.some.inj hparts)
  have hpayload := Option.some.inj hpayload
  obtain ⟨p, hp, htable, hroutes, -, hsent⟩ :=
    run_served h (by rw [hcount]; decide) (.inl ⟨_, rfl⟩)
  cases hpayload.symm.trans hp
  obtain ⟨built, hbuilt, hmem⟩ := List.mem_flatMap.mp (hresources ▸ List.mem_cons_self)
  obtain ⟨resource, hresource, heq⟩ := List.mem_map.mp hmem
  simp only [Prod.mk.injEq] at heq
  obtain ⟨hindex, hurl, hid, hpart⟩ := heq
  refine ⟨m, _, h, hp, htable,
    (hroutes "get b" 1 _).mpr ⟨built, hbuilt, hindex, hurl, resource, hresource, hid⟩, ?_⟩
  have hwritten : Text.PercentForm resource.pathPart.toList "get%20b".toList := by
    rw [hpart]
    exact Text.percentForm_percentEncode "get b"
  have hreadable : Request.Readable ⟨"GET", ⟨"/get%20b/x", none⟩, [], ⟨[], none⟩⟩ 0 :=
    ⟨by decide, Nat.le_refl 0, rfl⟩
  exact hsent built hbuilt _ hurl resource hresource (by rw [hid]; decide) "get%20b" "/x" hwritten
    (.inr (by decide)) (.inline secondPayload) (fun _ => none) 0 _ _ rfl rfl hreadable

end Build

end BatchedGateway
