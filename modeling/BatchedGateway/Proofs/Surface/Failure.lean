/- Batches that are not built: what ends the attempt, and what it leaves behind. -/
import BatchedGateway.Proofs.Surface.Materialize

namespace BatchedGateway

namespace Tables

/-- The first of several ids that cannot be assigned, with the batch it has by then: one from
before, or the very batch it is assigned to if the id is there twice. -/
structure Clash (t : Tables) (batch : Nat) (ids before : List String) (id : String)
    (previous : Nat) : Prop where
  cut : ∃ after, ids = before ++ id :: after
  fresh : t.Fresh before
  taken : (t.assignMany batch before).batchFor id = some previous

variable {t : Tables} {batch previous : Nat} {ids before rest : List String} {id first : String}

theorem not_clash_nil : ¬ t.Clash batch [] before id previous := by
  rintro ⟨⟨after, hcut⟩, -, -⟩
  exact List.append_ne_nil_of_right_ne_nil before (List.cons_ne_nil id after) hcut.symm

theorem clash_cons : t.Clash batch (first :: rest) before id previous ↔
    (before = [] ∧ first = id ∧ t.batchFor first = some previous) ∨
      ∃ more, before = first :: more ∧ t.batchFor first = none ∧
        (t.assign first batch).Clash batch rest more id previous := by
  constructor
  · rintro ⟨⟨after, hcut⟩, hfresh, htaken⟩
    cases before with
    | nil =>
        obtain ⟨rfl, -⟩ := List.cons.inj hcut
        exact .inl ⟨rfl, rfl, htaken⟩
    | cons _ more =>
        obtain ⟨rfl, hrest⟩ := List.cons.inj hcut
        obtain ⟨hfirst, hmore⟩ := (fresh_cons batch).mp hfresh
        exact .inr ⟨more, rfl, hfirst, ⟨after, hrest⟩, hmore, htaken⟩
  · rintro (⟨rfl, rfl, htaken⟩ | ⟨more, rfl, hfirst, ⟨after, rfl⟩, hmore, htaken⟩)
    · exact ⟨⟨rest, rfl⟩, ⟨List.nodup_nil, fun _ h => nomatch h⟩, htaken⟩
    · exact ⟨⟨after, rfl⟩, (fresh_cons batch).mpr ⟨hfirst, hmore⟩, htaken⟩

/-- Only an id that comes first and had this very batch changes nothing by its clash. -/
theorem Clash.assignMany_eq_iff (h : t.Clash batch ids before id previous) :
    t.assignMany batch (before ++ [id]) = t ↔ before = [] ∧ previous = batch := by
  constructor
  · intro heq
    have hmoved : ∀ j ∈ before ++ [id], t.batchFor j = some batch := by
      intro j hj
      rw [← heq, batchFor_assignMany, if_pos hj]
    have hnil : before = [] := by
      refine List.eq_nil_iff_forall_not_mem.mpr fun j hj => ?_
      have hnone := h.fresh.unassigned j hj
      rw [hmoved j (List.mem_append_left _ hj)] at hnone
      cases hnone
    subst hnil
    have htaken : t.batchFor id = some previous := h.taken
    rw [hmoved id List.mem_cons_self] at htaken
    exact ⟨rfl, (Option.some.inj htaken).symm⟩
  · rintro ⟨rfl, rfl⟩
    have hsame : t.operations.insert id previous = t.operations := SortedMap.insert_of_get? h.taken
    rw [List.nil_append, assignMany, List.foldl_cons, List.foldl_nil, assign, hsame]

/-- Fresh ids do not clash. -/
theorem Fresh.not_clash (h : t.Fresh ids) : ¬ t.Clash batch ids before id previous := by
  rintro ⟨⟨after, rfl⟩, -, htaken⟩
  have hnew : id ∉ before := fun hmem =>
    (List.nodup_append.mp h.nodup).2.2 id hmem id List.mem_cons_self rfl
  rw [batchFor_assignMany, if_neg hnew, h.unassigned id (by simp)] at htaken
  cases htaken

end Tables

/-- Assigning ends at a clash. By then the id in question and all before it are entered. -/
theorem assignAll_eq_error {batch : Nat} {ids : List String} {t t' : Tables} {e : BuildError} :
    assignAll batch ids t = (.error e, t') ↔ ∃ before id previous,
      t.Clash batch ids before id previous ∧ e = .duplicateAssignment id batch previous ∧
        t' = t.assignMany batch (before ++ [id]) := by
  induction ids generalizing t with
  | nil =>
      constructor
      · exact fun h => nomatch h
      · exact fun ⟨_, _, _, hclash, _, _⟩ => absurd hclash Tables.not_clash_nil
  | cons first rest ih =>
      rw [assignAll]
      cases hfirst : t.batchFor first with
      | some previous =>
          constructor
          · intro h
            cases h
            exact ⟨[], first, previous, Tables.clash_cons.mpr (.inl ⟨rfl, rfl, hfirst⟩), rfl, rfl⟩
          · rintro ⟨before, id, previous', hclash, rfl, rfl⟩
            rcases Tables.clash_cons.mp hclash with ⟨rfl, rfl, htaken⟩ | ⟨_, _, hnone, _⟩
            · cases hfirst.symm.trans htaken
              rfl
            · cases hfirst.symm.trans hnone
      | none =>
          simp only [ih]
          constructor
          · rintro ⟨before, id, previous, hclash, rfl, rfl⟩
            exact ⟨first :: before, id, previous,
              Tables.clash_cons.mpr (.inr ⟨before, rfl, hfirst, hclash⟩), rfl, rfl⟩
          · rintro ⟨before, id, previous, hclash, rfl, rfl⟩
            rcases Tables.clash_cons.mp hclash with ⟨_, _, htaken⟩ | ⟨more, rfl, _, hmore⟩
            · cases hfirst.symm.trans htaken
            · exact ⟨more, id, previous, hmore, rfl, rfl⟩

/-- What can keep a batch from being built, and how far it has got by then: an operation without
templates, the answer to the call, or an id that has a batch already. -/
inductive Unbuilt (p : Planner) (provision : Provisioner) (batch : Batch Operation)
    (name : String) (s : Progress) : BuildError → Progress → Prop
  | stopped {op : Operation} (hstop : batch.operations.find? p.stops = some op) :
      Unbuilt p provision batch name s (.missingTemplate op.id)
        { s with diagnostics := s.diagnostics ++
            (batch.operations.takeWhile fun op => !p.stops op).filterMap p.skipped }
  | refused {why : ProvisionError} (hgoes : ∀ op ∈ batch.operations, p.stops op = false)
      (hroutes : p.routedIds batch.operations ≠ [])
      (hanswer : provision s.calls.length (p.surfaceOf batch name) = .error why) :
      Unbuilt p provision batch name s (.provision batch.index why)
        { s with
          diagnostics := s.diagnostics ++ batch.operations.filterMap p.skipped
          calls := s.calls ++ [p.surfaceOf batch name] }
  | clashed {url id : String} {before : List String} {previous : Nat}
      (hgoes : ∀ op ∈ batch.operations, p.stops op = false)
      (hanswer : provision s.calls.length (p.surfaceOf batch name) = .ok url)
      (hclash : s.tables.Clash batch.index (p.routedIds batch.operations) before id previous) :
      Unbuilt p provision batch name s (.duplicateAssignment id batch.index previous)
        { tables := s.tables.assignMany batch.index (before ++ [id])
          diagnostics := s.diagnostics ++ batch.operations.filterMap p.skipped
          calls := s.calls ++ [p.surfaceOf batch name] }

@[simp] theorem Planner.index_surfaceOf (p : Planner) (batch : Batch Operation) (name : String) :
    (p.surfaceOf batch name).index = batch.index := rfl

section Steps

variable {p : Planner} {provision : Provisioner} {name : String} {batch : Batch Operation}
  {e : BuildError} {s s' : Progress}

theorem materialize_eq_error :
    materialize p provision batch name s = (.error e, s') ↔
      Unbuilt p provision batch name s e s' := by
  constructor
  · intro h
    cases hstop : batch.operations.find? p.stops with
    | some op =>
        simp only [materialize, Planner.plan_eq_error hstop] at h
        cases h
        exact .stopped hstop
    | none =>
        have hgoes : ∀ op ∈ batch.operations, p.stops op = false := by simpa using hstop
        simp only [materialize, Planner.plan_eq_ok hgoes, Planner.surfaceOf_isEmpty] at h
        split at h
        · cases h
        · rename_i hroutes
          rw [List.isEmpty_iff] at hroutes
          split at h
          · rename_i why hanswer
            cases h
            exact .refused hgoes hroutes hanswer
          · rename_i url hanswer
            split at h
            · rename_i hassign
              obtain ⟨before, id, previous, hclash, rfl, rfl⟩ := assignAll_eq_error.mp hassign
              rw [Planner.operations_surfaceOf] at hclash
              cases h
              exact .clashed hgoes hanswer hclash
            · cases h
  · intro h
    cases h with
    | stopped hstop => simp only [materialize, Planner.plan_eq_error hstop]
    | refused hgoes hroutes hanswer =>
        simp [materialize, Planner.plan_eq_ok hgoes, Planner.surfaceOf_isEmpty, hroutes, hanswer]
    | clashed hgoes hanswer hclash =>
        have hroutes : p.routedIds batch.operations ≠ [] :=
          fun hnil => Tables.not_clash_nil (hnil ▸ hclash)
        have hassign := assignAll_eq_error.mpr ⟨_, _, _, hclash, rfl, rfl⟩
        simp [materialize, Planner.plan_eq_ok hgoes, Planner.surfaceOf_isEmpty, hroutes, hanswer,
          Planner.operations_surfaceOf, hassign]

/-- An attempt that fails leaves the tables as they were, unless it is for an id that has a batch
already. Then the ids up to that one are moved to the new batch, which shows unless that one comes
first and had this very batch. -/
theorem tables_of_materialize_error
    (h : materialize p provision batch name s = (.error e, s')) :
    ((∀ id b previous, e ≠ .duplicateAssignment id b previous) → s'.tables = s.tables) ∧
      ∀ id b previous, e = .duplicateAssignment id b previous → b = batch.index ∧
        ∃ before, s.tables.Clash b (p.routedIds batch.operations) before id previous ∧
          s'.tables = s.tables.assignMany b (before ++ [id]) ∧
          (s'.tables = s.tables ↔ before = [] ∧ previous = b) := by
  cases materialize_eq_error.mp h with
  | stopped hstop => exact ⟨fun _ => rfl, fun _ _ _ he => nomatch he⟩
  | refused hgoes hroutes hanswer => exact ⟨fun _ => rfl, fun _ _ _ he => nomatch he⟩
  | clashed hgoes hanswer hclash =>
      refine ⟨fun hother => absurd rfl (hother _ _ _), fun id b previous he => ?_⟩
      cases he
      exact ⟨rfl, _, hclash, rfl, hclash.assignMany_eq_iff⟩

end Steps

section Runs

variable {p : Planner} {provision : Provisioner} {nameOf : Nat → String} {name : String}
  {batch : Batch Operation} {batches : List (Batch Operation)} {builts : List BuiltBatch}
  {e : BuildError} {s s' : Progress}

/-- A run that fails has built the batches before the one it fails at, and none behind it. -/
theorem materializeAll_eq_error
    (h : materializeAll p provision nameOf batches s = (.error e, s')) :
    ∃ front batch back builts s₁, batches = front ++ batch :: back ∧
      MaterializedAll p provision nameOf front s builts s₁ ∧
      Unbuilt p provision batch (nameOf batch.index) s₁ e s' := by
  induction batches generalizing s with
  | nil => cases h
  | cons first batches ih =>
      rw [materializeAll] at h
      split at h
      · rename_i hstep
        cases h
        exact ⟨[], first, batches, [], s, rfl, .nil, materialize_eq_error.mp hstep⟩
      · rename_i built s₁ hstep
        obtain ⟨hresult, rfl⟩ := Prod.mk.inj h
        obtain ⟨front, batch, back, builts, s₂, rfl, hfront, hbatch⟩ :=
          ih (Prod.ext (Outcome.map_eq_error.mp hresult) rfl)
        exact ⟨first :: front, batch, back, built :: builts, s₂, rfl,
          .cons (materialize_eq_ok hstep) hfront, hbatch⟩

/-- Of ids that are all distinct, those of a batch are still fresh when the batches before it have
been built. -/
theorem MaterializedAll.fresh (h : MaterializedAll p provision nameOf batches s builts s')
    (hfresh : s.tables.Fresh (p.routedIds (batches.flatMap (·.operations) ++ batch.operations))) :
    s'.tables.Fresh (p.routedIds batch.operations) := by
  rw [Planner.routedIds_append] at hfresh
  obtain ⟨-, hnodup, happart⟩ := List.nodup_append.mp hfresh.nodup
  refine ⟨hnodup, fun id hid => Option.eq_none_iff_forall_ne_some.mpr fun b hb => ?_⟩
  rcases (h.batchFor_iff id b).mp hb with hold | ⟨other, hother, -, hmem⟩
  · rw [hfresh.unassigned id (List.mem_append_right _ hid)] at hold
    cases hold
  · obtain ⟨op, hop, hserved⟩ := Planner.mem_routedIds.mp hmem
    have hbefore : id ∈ p.routedIds (batches.flatMap (·.operations)) :=
      Planner.mem_routedIds.mpr ⟨op, List.mem_flatMap.mpr ⟨other, hother, hop⟩, hserved⟩
    exact happart id hbefore id hid rfl

/-- A batch of fresh ids is kept from being built by missing templates or the answer alone. -/
theorem Unbuilt.cause_of_fresh (h : Unbuilt p provision batch name s e s')
    (hfresh : s.tables.Fresh (p.routedIds batch.operations)) :
    (∃ id, e = .missingTemplate id) ∨ ∃ why, e = .provision batch.index why := by
  cases h with
  | stopped hstop => exact .inl ⟨_, rfl⟩
  | refused hgoes hroutes hanswer => exact .inr ⟨_, rfl⟩
  | clashed hgoes hanswer hclash => exact absurd hclash hfresh.not_clash

end Runs

/-- Two ids with templates. -/
def bothRouted : Planner where
  templates := SortedMap.ofList [("a", ⟨"in", "out"⟩), ("b", ⟨"in", "out"⟩)]
  options := {}
  isDirectory := fun _ => false

/-- A batch of a new operation and one that may have been assigned before. -/
def secondBatch : Batch Operation :=
  ⟨1, [⟨"b", "/b", .get, "b", .query⟩, ⟨"a", "/a", .get, "a", .query⟩]⟩

/-- The first batch was built, with the one operation it has. -/
def firstBuilt : Progress where
  tables := Tables.ofLists [("a", 0)] [(0, "https://batch0.example")]

/-- A call that is turned down leaves the tables of the first batch alone. -/
theorem tables_of_materialize_error_refused :
    ∃ e s', materialize bothRouted (fun _ _ => .error (.other "full")) secondBatch "p-batch1"
      firstBuilt = (.error e, s') ∧ s'.tables = firstBuilt.tables := by
  have h : materialize bothRouted (fun _ _ => .error (.other "full")) secondBatch "p-batch1"
      firstBuilt = (.error (.provision 1 (.other "full")), _) := rfl
  exact ⟨_, _, h, (tables_of_materialize_error h).1 fun _ _ _ he => nomatch he⟩

/-- A batch that fails for an id assigned before takes that id and the one before it along: the
operation of the first batch loses its endpoint. -/
theorem materialize_clash_moves_operations :
    let after := materialize bothRouted (fun _ _ => .ok "https://batch1.example") secondBatch
      "p-batch1" firstBuilt
    after.1 = .error (.duplicateAssignment "a" 1 0) ∧ after.2.tables ≠ firstBuilt.tables ∧
      after.2.tables.batchFor "b" = some 1 ∧
      firstBuilt.tables.resolve "a" = some (0, "https://batch0.example") ∧
      after.2.tables.resolve "a" = none := by
  refine ⟨rfl, ?_⟩
  decide +kernel

end BatchedGateway
