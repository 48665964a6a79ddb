/- Building surfaces and entering their routes. -/
import BatchedGateway.Routes.Tables
import BatchedGateway.Surface.Plan

namespace BatchedGateway

/-- What a build has done so far: the routes it entered, its warnings, and the surfaces it
had built, in order. -/
structure Progress where
  tables : Tables := ∅
  diagnostics : List Diagnostic := []
  calls : List Surface := []

/-- Assigns operations to a batch. One that had a batch already ends it, but by then it has
the new one. -/
def assignAll (batch : Nat) : List String → Tables → Except BuildError Unit × Tables
  | [], t => (.ok (), t)
  | id :: rest, t =>
      match t.batchFor id with
      | some previous => (.error (.duplicateAssignment id batch previous), t.assign id batch)
      | none => assignAll batch rest (t.assign id batch)

/-- Plans a batch, builds its surface if any route is left, and enters the routes and the
URL. -/
def materialize (p : Planner) (provision : Provisioner) (batch : Batch Operation) (name : String)
    (s : Progress) : Except BuildError BuiltBatch × Progress :=
  let (planned, warnings) := p.plan batch name
  let s := { s with diagnostics := s.diagnostics ++ warnings }
  match planned with
  | .error e => (.error e, s)
  | .ok surface =>
      if surface.resources.isEmpty then (.ok ⟨surface, none⟩, s)
      else
        let answer := provision s.calls.length surface
        let s := { s with calls := s.calls ++ [surface] }
        match answer with
        | .error why => (.error (.provision surface.index why), s)
        | .ok url =>
            match assignAll surface.index surface.operations s.tables with
            | (.error e, tables) => (.error e, { s with tables })
            | (.ok (), tables) =>
                (.ok ⟨surface, some url⟩, { s with tables := tables.serve surface.index url })

/-- Builds batches up to the first that fails. -/
def materializeAll (p : Planner) (provision : Provisioner) (nameOf : Nat → String) :
    List (Batch Operation) → Progress → Except BuildError (List BuiltBatch) × Progress
  | [], s => (.ok [], s)
  | batch :: rest, s =>
      match materialize p provision batch (nameOf batch.index) s with
      | (.error e, s) => (.error e, s)
      | (.ok built, s) =>
          let (result, s) := materializeAll p provision nameOf rest s
          (result.map (built :: ·), s)

end BatchedGateway
