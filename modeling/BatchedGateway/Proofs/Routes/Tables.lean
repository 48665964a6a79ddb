/- What the tables answer after routes and URLs were entered. -/
import BatchedGateway.Proofs.Sorted
import BatchedGateway.Routes.Tables
import BatchedGateway.Surface.Basic

namespace BatchedGateway

namespace Tables

/-- The tables after several operations were assigned to one batch. -/
def assignMany (t : Tables) (batch : Nat) (ids : List String) : Tables :=
  ids.foldl (fun t id => t.assign id batch) t

/-- The tables after the routes of a surface and its URL were entered. -/
def enter (t : Tables) (surface : Surface) (url : String) : Tables :=
  (t.assignMany surface.index surface.operations).serve surface.index url

variable (t : Tables) (id j : String) (batch b : Nat) (url : String) (ids : List String)

theorem batchFor_assign :
    (t.assign id batch).batchFor j = if j = id then some batch else t.batchFor j :=
  SortedMap.get?_insert ..

theorem batchFor_assignMany :
    (t.assignMany batch ids).batchFor j = if j ∈ ids then some batch else t.batchFor j := by
  induction ids generalizing t with
  | nil => rfl
  | cons id rest ih =>
      have hstep : t.assignMany batch (id :: rest) = (t.assign id batch).assignMany batch rest :=
        rfl
      rw [hstep, ih, batchFor_assign]
      by_cases hrest : j ∈ rest
      · rw [if_pos hrest, if_pos (List.mem_cons_of_mem _ hrest)]
      · simp [hrest]

theorem endpoints_assignMany : (t.assignMany batch ids).endpoints = t.endpoints := by
  induction ids generalizing t with
  | nil => rfl
  | cons id rest ih => exact ih (t.assign id batch)

theorem batchFor_enter (surface : Surface) :
    (t.enter surface url).batchFor j =
      if j ∈ surface.operations then some surface.index else t.batchFor j :=
  batchFor_assignMany ..

theorem endpointFor_enter (surface : Surface) :
    (t.enter surface url).endpointFor b =
      if b = surface.index then some url else t.endpointFor b := by
  rw [endpointFor, enter, serve, SortedMap.get?_insert, endpoints_assignMany]
  rfl

end Tables

/-- Ids can be assigned when they are distinct and none of them has a batch. -/
structure Tables.Fresh (t : Tables) (ids : List String) : Prop where
  nodup : ids.Nodup
  unassigned : ∀ id ∈ ids, t.batchFor id = none

theorem Tables.fresh_cons {t : Tables} (batch : Nat) {id : String} {rest : List String} :
    t.Fresh (id :: rest) ↔ t.batchFor id = none ∧ (t.assign id batch).Fresh rest := by
  constructor
  · rintro ⟨hnodup, hunassigned⟩
    obtain ⟨hid, hrest⟩ := List.nodup_cons.mp hnodup
    refine ⟨hunassigned id List.mem_cons_self, hrest, fun j hj => ?_⟩
    have hne : j ≠ id := fun heq => hid (heq ▸ hj)
    rw [batchFor_assign, if_neg hne]
    exact hunassigned j (List.mem_cons_of_mem _ hj)
  · rintro ⟨hid, hnodup, hunassigned⟩
    have hrest : ∀ j ∈ rest, j ≠ id ∧ t.batchFor j = none := by
      intro j hj
      have hnone := hunassigned j hj
      rw [batchFor_assign] at hnone
      split at hnone
      · cases hnone
      · exact ⟨‹_›, hnone⟩
    refine ⟨List.nodup_cons.mpr ⟨fun h => (hrest id h).1 rfl, hnodup⟩, ?_⟩
    rintro j (_ | ⟨_, hj⟩)
    · exact hid
    · exact (hrest j hj).2

/-- Each fresh id makes the table of operations longer by one. -/
theorem Tables.Fresh.size_assignMany {t : Tables} {ids : List String} (h : t.Fresh ids)
    (batch : Nat) :
    (t.assignMany batch ids).operations.size = t.operations.size + ids.length := by
  induction ids generalizing t with
  | nil => rfl
  | cons id rest ih =>
      obtain ⟨hid, hrest⟩ := (fresh_cons batch).mp h
      have hfirst : (t.assign id batch).operations.size = t.operations.size + 1 :=
        SortedMap.size_insert hid batch
      have hstep : t.assignMany batch (id :: rest) = (t.assign id batch).assignMany batch rest :=
        rfl
      rw [hstep, ih hrest, hfirst, List.length_cons]
      omega

end BatchedGateway
