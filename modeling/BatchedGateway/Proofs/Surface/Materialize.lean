/- Building batches: what one step does, and what a whole run of steps leaves in the tables. -/
import BatchedGateway.Proofs.Routes.Tables
import BatchedGateway.Proofs.Surface.Plan
import BatchedGateway.Surface.Materialize

namespace BatchedGateway
open Outcome

/-- Assigning succeeds on fresh ids only, and enters them all. -/
theorem assignAll_eq_ok {batch : Nat} {ids : List String} {t t' : Tables} :
    assignAll batch ids t = (.ok (), t') ↔ t.Fresh ids ∧ t' = t.assignMany batch ids := by
  induction ids generalizing t with
  | nil =>
      have hfresh : t.Fresh [] := ⟨List.nodup_nil, fun _ h => nomatch h⟩
      simp [assignAll, Tables.assignMany, hfresh, eq_comm]
  | cons id rest ih =>
      rw [assignAll, Tables.fresh_cons batch]
      cases hid : t.batchFor id with
      | some previous => simp
      | none => simp [ih, Tables.assignMany]


/-- What building a batch can come to. A batch without routes is left out; any other is built
once, by the next call, and entered. -/
inductive Materialized (p : Planner) (provision : Provisioner) (batch : Batch Operation)
    (name : String) (s : Progress) : BuiltBatch → Progress → Prop
  | nowhere (hroutes : p.routedIds batch.operations = []) :
      Materialized p provision batch name s ⟨p.surfaceOf batch name, none⟩
        { s with diagnostics := s.diagnostics ++ batch.operations.filterMap p.skipped }
  | served {url : String} (hroutes : p.routedIds batch.operations ≠ [])
      (hanswer : provision s.calls.length (p.surfaceOf batch name) = .ok url)
      (hfresh : s.tables.Fresh (p.routedIds batch.operations)) :
      Materialized p provision batch name s ⟨p.surfaceOf batch name, some url⟩
        { tables := s.tables.enter (p.surfaceOf batch name) url
          diagnostics := s.diagnostics ++ batch.operations.filterMap p.skipped
          calls := s.calls ++ [p.surfaceOf batch name] }

/-- A run that builds every batch of a list, step by step. -/
inductive MaterializedAll (p : Planner) (provision : Provisioner) (nameOf : Nat → String) :
    List (Batch Operation) → Progress → List BuiltBatch → Progress → Prop
  | nil {s : Progress} : MaterializedAll p provision nameOf [] s [] s
  | cons {batch : Batch Operation} {batches : List (Batch Operation)} {built : BuiltBatch}
      {builts : List BuiltBatch} {s s₁ s' : Progress}
      (first : Materialized p provision batch (nameOf batch.index) s built s₁)
      (rest : MaterializedAll p provision nameOf batches s₁ builts s') :
      MaterializedAll p provision nameOf (batch :: batches) s (built :: builts) s'

section Steps

variable {p : Planner} {provision : Provisioner} {nameOf : Nat → String} {name : String}
  {batch : Batch Operation} {batches : List (Batch Operation)} {built : BuiltBatch}
  {builts : List BuiltBatch} {s s' : Progress}

theorem materialize_eq_ok (h : materialize p provision batch name s = (.ok built, s')) :
    Materialized p provision batch name s built s' := by
  cases hstop : batch.operations.find? p.stops with
  | some op => simp [materialize, Planner.plan_eq_error hstop] at h
  | none =>
      have hnone : ∀ op ∈ batch.operations, p.stops op = false := by simpa using hstop
      have hoperations := Planner.operations_surfaceOf (p := p) batch name
      simp only [materialize, Planner.plan_eq_ok hnone] at h
      split at h
      · rename_i hempty
        rw [Planner.surfaceOf_isEmpty, List.isEmpty_iff] at hempty
        cases h
        exact .nowhere hempty
      · rename_i hroutes
        rw [Planner.surfaceOf_isEmpty, List.isEmpty_iff] at hroutes
        split at h
        · cases h
        · rename_i url hanswer
          split at h
          · cases h
          · rename_i tables hassign
            obtain ⟨hfresh, rfl⟩ := assignAll_eq_ok.mp hassign
            rw [hoperations] at hfresh
            cases h
            exact .served hroutes hanswer hfresh

theorem materializeAll_eq_ok
    (h : materializeAll p provision nameOf batches s = (.ok builts, s')) :
    MaterializedAll p provision nameOf batches s builts s' := by
  induction batches generalizing s builts with
  | nil =>
      cases h
      exact .nil
  | cons batch batches ih =>
      rw [materializeAll] at h
      split at h
      · cases h
      · rename_i built s₁ hstep
        obtain ⟨hresult, rfl⟩ := Prod.mk.inj h
        obtain ⟨more, hmore, rfl⟩ := map_eq_ok.mp hresult
        exact .cons (materialize_eq_ok hstep) (ih (Prod.ext hmore rfl))

end Steps

/-- The surfaces that are served somewhere, with their URLs. -/
def served (builts : List BuiltBatch) : List (Surface × String) :=
  builts.filterMap fun b => b.baseUrl.map (b.surface, ·)

theorem mem_served {builts : List BuiltBatch} {surface : Surface} {url : String} :
    (surface, url) ∈ served builts ↔ ⟨surface, some url⟩ ∈ builts := by
  simp only [served, List.mem_filterMap, Option.map_eq_some_iff, Prod.mk.injEq]
  constructor
  · rintro ⟨⟨_, _⟩, hmem, _, rfl, rfl, rfl⟩
    exact hmem
  · intro hmem
    exact ⟨_, hmem, url, rfl, rfl, rfl⟩

namespace MaterializedAll

variable {p : Planner} {provision : Provisioner} {nameOf : Nat → String}
  {batches : List (Batch Operation)} {builts : List BuiltBatch} {s s' : Progress}

/-- Each batch is built in its place, with its own surface. -/
theorem map_surface (h : MaterializedAll p provision nameOf batches s builts s') :
    builts.map (·.surface) = batches.map fun batch => p.surfaceOf batch (nameOf batch.index) := by
  induction h with
  | nil => rfl
  | cons first rest ih =>
      rw [List.map_cons, List.map_cons, ih]
      cases first <;> rfl

/-- A batch is served somewhere if and only if it has a route. -/
theorem isSome_baseUrl (h : MaterializedAll p provision nameOf batches s builts s') :
    ∀ built ∈ builts, built.baseUrl.isSome = true ↔ built.surface.operations ≠ [] := by
  induction h with
  | nil => exact fun built hbuilt => nomatch hbuilt
  | cons first rest ih =>
      refine List.forall_mem_cons.mpr ⟨?_, ih⟩
      cases first with
      | nowhere hroutes => simp [Planner.operations_surfaceOf, hroutes]
      | served hroutes hanswer hfresh => simp [Planner.operations_surfaceOf, hroutes]

/-- The calls of a run are for the surfaces that it serves, in order. -/
theorem calls_eq (h : MaterializedAll p provision nameOf batches s builts s') :
    s'.calls = s.calls ++ (served builts).map (·.1) := by
  induction h with
  | nil => exact (List.append_nil _).symm
  | cons first rest ih =>
      rw [ih]
      cases first with
      | nowhere hroutes => simp [served]
      | served hroutes hanswer hfresh => simp [served]

/-- Each surface has the URL that its own call was answered with. -/
theorem answers (h : MaterializedAll p provision nameOf batches s builts s') :
    ∀ (i : Nat) (e : Surface × String), (served builts)[i]? = some e →
      provision (s.calls.length + i) e.1 = .ok e.2 := by
  induction h with
  | nil => exact fun i e he => nomatch he
  | cons first rest ih =>
      intro i e he
      cases first with
      | nowhere hroutes => exact ih i e he
      | served hroutes hanswer hfresh =>
          cases i with
          | zero =>
              cases he
              exact hanswer
          | succ i =>
              have hnext := ih i e he
              rwa [List.length_append, List.length_singleton, Nat.add_assoc,
                Nat.add_comm 1] at hnext

/-- A run warns of the operations that got no route, in order. -/
theorem diagnostics_eq (h : MaterializedAll p provision nameOf batches s builts s') :
    s'.diagnostics =
      s.diagnostics ++ (batches.flatMap (·.operations)).filterMap p.skipped := by
  induction h with
  | nil => exact (List.append_nil _).symm
  | cons first rest ih =>
      rw [ih, List.flatMap_cons, List.filterMap_append]
      cases first <;> exact List.append_assoc ..

/-- A run enters the operations that got a route, each once. -/
theorem size_operations (h : MaterializedAll p provision nameOf batches s builts s') :
    s'.tables.operations.size =
      s.tables.operations.size + (p.routedIds (batches.flatMap (·.operations))).length := by
  induction h with
  | nil => rfl
  | @cons batch batches built builts s s₁ s' first rest ih =>
      have hfirst : s₁.tables.operations.size =
          s.tables.operations.size + (p.routedIds batch.operations).length := by
        cases first with
        | nowhere hroutes => rw [hroutes]; rfl
        | served hroutes hanswer hfresh =>
            rw [← Planner.operations_surfaceOf batch (nameOf batch.index)] at hfresh ⊢
            exact hfresh.size_assignMany batch.index
      rw [ih, hfirst, List.flatMap_cons, Planner.routedIds_append, List.length_append,
        Nat.add_assoc]

/-- An id leads to the batch that has a route for it, or where it led before. -/
theorem batchFor_iff (h : MaterializedAll p provision nameOf batches s builts s') (id : String)
    (b : Nat) : s'.tables.batchFor id = some b ↔ s.tables.batchFor id = some b ∨
      ∃ batch ∈ batches, batch.index = b ∧ id ∈ p.routedIds batch.operations := by
  induction h with
  | nil => simp
  | @cons batch batches built builts s s₁ s' first rest ih =>
      have hfirst : s₁.tables.batchFor id = some b ↔ s.tables.batchFor id = some b ∨
          (batch.index = b ∧ id ∈ p.routedIds batch.operations) := by
        cases first with
        | nowhere hroutes => simp [hroutes]
        | served hroutes hanswer hfresh =>
            rw [Tables.batchFor_enter, Planner.operations_surfaceOf]
            by_cases hid : id ∈ p.routedIds batch.operations
            -- a fresh id had no batch, so entering it replaces nothing
            · simp [hid, hfresh.unassigned id hid, Planner.surfaceOf]
            · simp [hid]
      rw [ih, hfirst, or_assoc]
      simp [List.mem_cons, or_and_right, exists_or]

theorem endpointFor_of_ne (h : MaterializedAll p provision nameOf batches s builts s') {b : Nat}
    (hb : ∀ batch ∈ batches, batch.index ≠ b) :
    s'.tables.endpointFor b = s.tables.endpointFor b := by
  induction h with
  | nil => rfl
  | cons first rest ih =>
      obtain ⟨hne, hothers⟩ := List.forall_mem_cons.mp hb
      rw [ih hothers]
      cases first with
      | nowhere hroutes => rfl
      | served hroutes hanswer hfresh => exact (Tables.endpointFor_enter ..).trans (if_neg hne.symm)

/-- In a run over batches with indexes of their own, an index leads to the URL of its batch. -/
theorem endpointFor_eq (h : MaterializedAll p provision nameOf batches s builts s')
    (hdistinct : (batches.map (·.index)).Nodup)
    (hnew : ∀ batch ∈ batches, s.tables.endpointFor batch.index = none) :
    ∀ built ∈ builts, s'.tables.endpointFor built.surface.index = built.baseUrl := by
  induction h with
  | nil => exact fun built hbuilt => nomatch hbuilt
  | @cons batch batches built builts s s₁ s' first rest ih =>
      obtain ⟨hindex, hrestDistinct⟩ := List.nodup_cons.mp hdistinct
      obtain ⟨hfirstNew, hrestNew⟩ := List.forall_mem_cons.mp hnew
      have hne : ∀ other ∈ batches, other.index ≠ batch.index :=
        fun other hother heq => hindex (List.mem_map.mpr ⟨other, hother, heq⟩)
      -- the batches that follow have other indexes and leave this one's URL alone
      have hkeep := rest.endpointFor_of_ne hne
      refine List.forall_mem_cons.mpr ⟨?_, ih hrestDistinct fun other hother => ?_⟩
      · cases first with
        | nowhere hroutes => exact hkeep.trans hfirstNew
        | served hroutes hanswer hfresh =>
            exact hkeep.trans ((Tables.endpointFor_enter ..).trans (if_pos rfl))
      · have hold := hrestNew other hother
        cases first with
        | nowhere hroutes => exact hold
        | served hroutes hanswer hfresh =>
            rw [Tables.endpointFor_enter]
            exact (if_neg (hne other hother)).trans hold

end MaterializedAll

end BatchedGateway
