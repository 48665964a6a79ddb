/- A payload that is loaded, beside the same payload unpacked: both end with one error, or the ids
are routed as the unpacked tables resolve them. -/
import BatchedGateway.Proofs.Router.Table

namespace BatchedGateway
open Outcome

/-- Which table is to blame for a payload that cannot be unpacked. Of two that are broken it is the
one of the operations. -/
def Payload.brokenTable (p : Payload) : String :=
  if (decodeText Tables.operationsDecoder p.operations).isOk then "endpoint" else "operation"

namespace Tables

/-- The URL of a batch is none, and no batch of a smaller number has such a URL. -/
structure FirstFlaw (t : Tables) (batch : Nat) (url : String) (why : Url.Fault) : Prop where
  served : t.endpointFor batch = some url
  refused : Url.check url = .error why
  smallest : ∀ other text fault, t.endpointFor other = some text →
    Url.check text = .error fault → batch ≤ other

/-- All batches are served at URLs. -/
def Sound (t : Tables) : Prop :=
  ∀ batch url, t.endpointFor batch = some url → Url.check url = .ok ()

theorem resolve_eq_some {t : Tables} {id url : String} {batch : Nat} :
    t.resolve id = some (batch, url) ↔
      t.batchFor id = some batch ∧ t.endpointFor batch = some url := by
  simp only [resolve, Option.bind_eq_bind, Option.bind_eq_some_iff, Option.some.injEq,
    Prod.mk.injEq]
  constructor
  · rintro ⟨b, hb, u, hu, rfl, rfl⟩
    exact ⟨hb, hu⟩
  · rintro ⟨hbatch, hurl⟩
    exact ⟨batch, hbatch, url, hurl, rfl, rfl⟩

section Flaws

variable {t : Tables} {batch other : Nat} {url text : String} {why fault : Url.Fault}

theorem FirstFlaw.not_sound (h : t.FirstFlaw batch url why) : ¬ t.Sound := by
  intro hsound
  have hok := hsound batch url h.served
  rw [h.refused] at hok
  cases hok

theorem FirstFlaw.unique (h : t.FirstFlaw batch url why) (hother : t.FirstFlaw other text fault) :
    batch = other ∧ url = text ∧ why = fault := by
  obtain rfl : batch = other := Nat.le_antisymm
    (h.smallest other text fault hother.served hother.refused)
    (hother.smallest batch url why h.served h.refused)
  obtain rfl : url = text := Option.some.inj (h.served.symm.trans hother.served)
  exact ⟨rfl, rfl, Except.error.inj (h.refused.symm.trans hother.refused)⟩

end Flaws

end Tables

namespace RoutingTable

/-- The ids that have a route are those that tables resolve; any other is unknown, or its batch is
not served. -/
structure Follows (table : RoutingTable) (t : Tables) : Prop where
  route : ∀ id batch url, table.route id = .ok ⟨batch, url⟩ ↔ t.resolve id = some (batch, url)
  unknown : ∀ id, table.route id = .error (.unknownOperation id) ↔ t.batchFor id = none
  noEndpoint : ∀ id batch, table.route id = .error (.noEndpoint id batch) ↔
    t.batchFor id = some batch ∧ t.resolve id = none

/-- The check goes through all entries, or it ends at the first whose URL is none. -/
theorem checkEndpoints_cases (entries : List (Nat × String)) :
    ((∀ e ∈ entries, Url.check e.2 = .ok ()) ∧ checkEndpoints entries = .ok ()) ∨
      ∃ front batch url back why, entries = front ++ (batch, url) :: back ∧
        (∀ e ∈ front, Url.check e.2 = .ok ()) ∧ Url.check url = .error why ∧
          checkEndpoints entries = .error (.invalidEndpoint batch url why) := by
  fun_induction checkEndpoints entries with
  | case1 => exact .inl ⟨by simp, rfl⟩
  | case2 batch url rest hurl ih =>
      refine ih.imp (fun ⟨hrest, hdone⟩ => ⟨List.forall_mem_cons.mpr ⟨hurl, hrest⟩, hdone⟩) ?_
      rintro ⟨front, b, text, back, why, rfl, hfront, htext, hends⟩
      exact ⟨(batch, url) :: front, b, text, back, why, rfl,
        List.forall_mem_cons.mpr ⟨hurl, hfront⟩, htext, hends⟩
  | case3 batch url rest why hurl => exact .inr ⟨[], batch, url, rest, why, rfl, by simp, hurl, rfl⟩

/-- Entries stand in the order of their numbers, so the first of them that is none has the smallest
number. -/
theorem firstFlaw_of_entries {t : Tables} {front back : List (Nat × String)} {batch : Nat}
    {url : String} {why : Url.Fault} (hcut : t.endpoints.entries = front ++ (batch, url) :: back)
    (hfront : ∀ e ∈ front, Url.check e.2 = .ok ()) (hurl : Url.check url = .error why) :
    t.FirstFlaw batch url why where
  served := SortedMap.mem_entries.mp (by simp [hcut])
  refused := hurl
  smallest other text fault hother htext := by
    have hmem := SortedMap.mem_entries.mpr hother
    have hsorted := t.endpoints.inOrder
    rw [Sorted.InOrder, hcut] at hsorted
    rw [hcut, List.mem_append, List.mem_cons] at hmem
    rcases hmem with hmem | heq | hmem
    · have hok : Url.check text = .ok () := hfront (other, text) hmem
      rw [hok] at htext
      cases htext
    · exact Nat.le_of_eq (congrArg Prod.fst heq).symm
    · have hback := (List.pairwise_cons.mp (List.pairwise_append.mp hsorted).2.1).1 _ hmem
      exact Nat.le_of_lt (Nat.compare_eq_lt.mp hback)

/-- Tables come up as they are if all batches are served at URLs; else the first that is not is the
error. -/
theorem ofTables_cases (t : Tables) : (t.Sound ∧ ofTables t = .ok ⟨t⟩) ∨
    ∃ batch url why, t.FirstFlaw batch url why ∧
      ofTables t = .error (.invalidEndpoint batch url why) := by
  rw [ofTables]
  rcases checkEndpoints_cases t.endpoints.entries with ⟨hall, hdone⟩ |
    ⟨front, batch, url, back, why, hcut, hfront, hurl, hends⟩
  · refine .inl ⟨fun batch url h => hall (batch, url) (SortedMap.mem_entries.mpr h), ?_⟩
    rw [hdone, ok_bind]
  · refine .inr ⟨batch, url, why, firstFlaw_of_entries hcut hfront hurl, ?_⟩
    rw [hends, error_bind]

theorem ofTables_eq_ok_iff {t : Tables} {table : RoutingTable} :
    ofTables t = .ok table ↔ t.Sound ∧ table = ⟨t⟩ := by
  rcases ofTables_cases t with ⟨hsound, hok⟩ | ⟨batch, url, why, hflaw, herror⟩
  · rw [hok, Except.ok.injEq, and_iff_right hsound, eq_comm]
  · rw [herror]
    exact ⟨(nomatch ·), fun h => absurd h.1 hflaw.not_sound⟩

theorem ofTables_eq_error_iff {t : Tables} {e : InitError} :
    ofTables t = .error e ↔ ∃ batch url why, t.FirstFlaw batch url why ∧
      e = .invalidEndpoint batch url why := by
  rcases ofTables_cases t with ⟨hsound, hok⟩ | ⟨batch, url, why, hflaw, herror⟩
  · rw [hok]
    refine ⟨(nomatch ·), ?_⟩
    rintro ⟨batch, url, why, hflaw, -⟩
    exact absurd hsound hflaw.not_sound
  · rw [herror, Except.error.injEq]
    constructor
    · rintro rfl
      exact ⟨batch, url, why, hflaw, rfl⟩
    · rintro ⟨other, text, fault, hother, rfl⟩
      obtain ⟨rfl, rfl, rfl⟩ := hflaw.unique hother
      rfl

theorem follows (t : Tables) : Follows ⟨t⟩ t where
  route id batch url := by
    rw [route_eq_ok_iff, Tables.resolve_eq_some]
  unknown id := by
    rw [RoutingTable.route]
    cases t.batchFor id with
    | none => simp
    | some batch => cases hurl : t.endpointFor batch <;> simp [hurl]
  noEndpoint id batch := by
    rw [RoutingTable.route, Tables.resolve]
    cases t.batchFor id with
    | none => simp
    | some b =>
        cases hurl : t.endpointFor b with
        | none => simp [hurl]
        | some url => simp [hurl]

/-- The two texts are read in one order, by a gateway and by the unpacking. -/
theorem ofPayload_cases (p : Payload) :
    (∃ e, p.decode = .error e ∧ ofPayload p = .error (.decode p.brokenTable e)) ∨
      ∃ t, p.decode = .ok t ∧ ofPayload p = ofTables t := by
  rw [Payload.decode, ofPayload, Payload.brokenTable]
  cases Payload.decodeText Tables.operationsDecoder p.operations with
  | error why => exact .inl ⟨why, rfl, rfl⟩
  | ok operations =>
      cases Payload.decodeText Tables.endpointsDecoder p.endpoints with
      | error why => exact .inl ⟨why, rfl, rfl⟩
      | ok endpoints => exact .inr ⟨⟨operations, endpoints⟩, rfl, rfl⟩

/-- What a gateway makes of two texts goes by what unpacking makes of them. A payload that cannot be
unpacked is refused for the same reason, with the table that is to blame. Of one that can be, the
tables come up if all batches are served at URLs, and the ids are routed as these tables resolve
them; else the batch of the smallest number whose URL is none is the error. -/
theorem ofPayload_agrees (p : Payload) :
    (∀ e, p.decode = .error e → ofPayload p = .error (.decode p.brokenTable e)) ∧
    ∀ t, p.decode = .ok t →
      (∀ table, ofPayload p = .ok table ↔ t.Sound ∧ table = ⟨t⟩) ∧
      (∀ e, ofPayload p = .error e ↔
        ∃ batch url why, t.FirstFlaw batch url why ∧ e = .invalidEndpoint batch url why) ∧
      Follows ⟨t⟩ t := by
  rcases ofPayload_cases p with ⟨why, hdecode, hload⟩ | ⟨tables, hdecode, hload⟩
  · rw [hdecode, hload]
    refine ⟨fun e he => ?_, fun t ht => (nomatch ht)⟩
    cases he
    rfl
  · rw [hdecode, hload]
    refine ⟨fun e he => (nomatch he), fun t ht => ?_⟩
    cases ht
    exact ⟨fun table => ofTables_eq_ok_iff, fun e => ofTables_eq_error_iff, follows tables⟩

/-- Two batches whose URLs are none. -/
def flawedTables : Tables :=
  Tables.ofLists [("a", 9), ("b", 2), ("c", 4)] [(10, "h"), (9, ":"), (2, "fn://h")]

def flawedPayload : Payload where
  operations := "H4sIAAAAAAAA/6tWSlSystRRSlKyMtJRSlayMqkFAFrTzFITAAAA"
  endpoints := "H4sIAAAAAAAA/6tWMlKyUkrLs9LXz1DSUbIEcqyAtKEBkMpQqgUAVMWorB8AAAA="

/-- Copies what the URLs have in common. -/
def flawedCompressor : Archive.Compressor :=
  Payload.packingTo .fixedCode (Tables.endpointsJson flawedTables.endpoints)
    flawedPayload.endpoints (by decide +kernel)

theorem packs_flawed : flawedPayload.Packs flawedTables :=
  Payload.packs_of_encode (z := flawedCompressor) (toOption_eq_some.mp (by decide +kernel))

/-- Where both texts are broken it is the operations that count, and of two URLs that are none the
one of the smaller number, though it is not the first as a text. -/
theorem ofPayload_agrees_flawed :
    ofPayload ⟨"not base64!", "AAAA"⟩ = .error (.decode "operation" .base64) ∧
    ofPayload ⟨flawedPayload.operations, "AAAA"⟩ = .error (.decode "endpoint" .compression) ∧
    flawedPayload.decode = .ok flawedTables ∧
    ofPayload flawedPayload = .error (.invalidEndpoint 9 ":" .relative) ∧
    Follows ⟨flawedTables⟩ flawedTables := by
  have hfits : flawedTables.Fits := ⟨by decide, by decide⟩
  have hdecode := packs_flawed.decode_eq hfits
  have hall := (ofPayload_agrees flawedPayload).2 flawedTables hdecode
  have hfirst : Url.check "fn://h" = .ok () := rfl
  have hcut : flawedTables.endpoints.entries = [(2, "fn://h")] ++ (9, ":") :: [(10, "h")] := by
    decide
  have hflaw : flawedTables.FirstFlaw 9 ":" .relative :=
    firstFlaw_of_entries hcut (by simpa using hfirst) rfl
  have hoperations := packs_flawed.decodeText_operations hfits
  have hendpoints : Payload.decodeText Tables.endpointsDecoder "AAAA" = .error .compression :=
    rfl
  have hbroken := (ofPayload_agrees ⟨flawedPayload.operations, "AAAA"⟩).1 .compression
    (by rw [Payload.decode, hoperations, ok_bind, hendpoints, error_bind])
  rw [Payload.brokenTable, hoperations] at hbroken
  exact ⟨(ofPayload_agrees _).1 _ rfl, hbroken, hdecode, (hall.2.1 _).mpr ⟨_, _, _, hflaw, rfl⟩,
    hall.2.2⟩

end RoutingTable

end BatchedGateway
