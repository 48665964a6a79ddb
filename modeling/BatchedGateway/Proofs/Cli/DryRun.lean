/- A dry run against the build it stands for: both fail alike until batches are built, and a dry
run that succeeds foretells the batches of the build. -/
import BatchedGateway.Cli.Commands
import BatchedGateway.Proofs.Build.Failure

namespace BatchedGateway.Cli
open BatchedGateway.Outcome Build

variable {z : Archive.Compressor} {c : Config} {inputs : Inputs} {provision : Provisioner}
  {ops : List IndexedOperation} {batches : List (Batch Operation)} {m : Manifest}
  {e : BuildError} {s : Progress}

namespace DryRun

/-- What a dry run tells of a build that succeeds, with the templates of the build. -/
structure Foretells (d : DryRun) (templates : Templates) (m : Manifest) : Prop where
  surfaces : (m.batches.map fun b => (b.surface.index, b.surface.name)) =
    d.batches.map fun b => (b.1.index, b.2)
  /-- Of the foretold operations of a batch, those with a field and templates have resources. -/
  resources : (m.batches.map fun b => b.surface.resources.map Planner.sourceOf) =
    d.batches.map fun b =>
      b.1.operations.filter fun op => op.hasField && (templates.get? op.id).isSome
  /-- All operations of the description are foretold. -/
  count : (d.batches.flatMap (·.1.operations)).length = m.operationCount
  diagnostics : d.diagnostics <+: m.diagnostics

/-- What a dry run gives for batches. -/
def ofBatches (c : Config) (schema : SchemaIndex) (ops : List IndexedOperation)
    (batches : List (Batch Operation)) : DryRun where
  maxResources := c.maxResources
  batches := batches.map fun b => (b, c.surfaceName b.index)
  diagnostics := (classifyAll schema c.fieldNames ops).2

theorem ofInputs_of_prepared (r : Prepared c inputs ops batches) :
    ofInputs c inputs = .ok (ofBatches c inputs.schema ops batches) := by
  rw [ofInputs, r.indexed, mapError_ok, ok_bind, r.batchesOf_eq, ok_bind]
  rfl

theorem ofInputs_of_unprepared (hvalid : c.validate = .ok ()) (h : Unprepared c inputs e) :
    ofInputs c inputs = .error e := by
  cases h with
  | invalid hinvalid =>
      rw [hvalid] at hinvalid
      cases hinvalid
  | unindexed _ hindex => rw [ofInputs, hindex, mapError_error, error_bind]

theorem foretells_ofBatches {isDirectory : String → Bool}
    (r : Stages z c inputs isDirectory provision ops batches m s) :
    (ofBatches c inputs.schema ops batches).Foretells inputs.templates m := by
  have hsurfaces := r.built.map_surface
  refine ⟨?_, ?_, ?_, ?_⟩
  · have hnames := congrArg (List.map fun surface => (surface.index, surface.name)) hsurfaces
    rw [List.map_map, List.map_map] at hnames
    rw [ofBatches, List.map_map]
    exact hnames
  · have hresources := congrArg (List.map fun surface => surface.resources.map Planner.sourceOf)
      hsurfaces
    simp only [List.map_map, Function.comp_def, Planner.sources_surfaceOf] at hresources
    rw [ofBatches, List.map_map]
    exact hresources
  · have hcut := congrArg List.length (flatMap_operations_partition r.cut)
    rw [r.operationCount_eq]
    simpa [ofBatches, List.flatMap_map] using hcut
  · rw [r.diagnostics]
    exact ⟨_, r.built.diagnostics_eq.symm⟩

end DryRun

section Loading

variable {files : Access Id}

theorem load_of_error (h : Inputs.load files c = .error e) : DryRun.load files c = .error e := by
  rw [DryRun.load, h]
  rfl

theorem load_of_ok (h : Inputs.load files c = .ok inputs) :
    DryRun.load files c = DryRun.ofInputs c inputs := by
  rw [DryRun.load, h]
  rfl

theorem runFromFiles_of_error (hvalid : c.validate = .ok ())
    (h : Inputs.load files c = .error e) : runFromFiles z files c provision = (.error e, {}) := by
  rw [runFromFiles, hvalid, h]
  rfl

theorem runFromFiles_of_ok (provision : Provisioner) (hvalid : c.validate = .ok ())
    (h : Inputs.load files c = .ok inputs) : ∃ isDirectory,
    runFromFiles z files c provision = Build.run z c inputs isDirectory provision := by
  rw [runFromFiles, hvalid, h]
  exact ⟨_, rfl⟩

/-- A dry run and the build go together up to the batches: they both fail, or both have them. -/
theorem load_cases (files : Access Id) (hvalid : c.validate = .ok ()) :
    (∃ e, DryRun.load files c = .error e ∧
      ∀ provision, (runFromFiles z files c provision).1 = .error e) ∨
    ∃ inputs ops batches, Inputs.load files c = .ok inputs ∧ Prepared c inputs ops batches ∧
      DryRun.load files c = .ok (.ofBatches c inputs.schema ops batches) ∧
      ∀ provision, ∃ isDirectory,
        runFromFiles z files c provision = Build.run z c inputs isDirectory provision := by
  cases hload : Inputs.load files c with
  | error e =>
      exact .inl ⟨e, load_of_error hload, fun _ => by rw [runFromFiles_of_error hvalid hload]⟩
  | ok inputs =>
      rcases prepared_or_unprepared c inputs with ⟨ops, batches, hprepared⟩ | ⟨e, hunprepared⟩
      · exact .inr ⟨inputs, ops, batches, rfl, hprepared,
          (load_of_ok hload).trans (DryRun.ofInputs_of_prepared hprepared),
          fun _ => runFromFiles_of_ok _ hvalid hload⟩
      · refine .inl ⟨e, (load_of_ok hload).trans
          (DryRun.ofInputs_of_unprepared hvalid hunprepared), fun provision => ?_⟩
        obtain ⟨_, hrun⟩ := runFromFiles_of_ok provision hvalid hload
        rw [hrun, hunprepared.run_eq]

end Loading

section Commands

variable {host : Host Id} {args : BuildArgs} {output : OutputArgs}

theorem build_of_error (hc : args.resolve host.toAccess = .ok c) (out : Option String)
    (h : (runFromFiles host.compressor host.toAccess c
      (.ofPattern c.endpointTemplate)).1 = .error e) :
    build host args out output = fail output (exitOf e) e.message := by
  simp only [build, bind, pure, hc, h]

theorem batches_of_error (hc : args.resolve host.toAccess = .ok c)
    (h : DryRun.load host.toAccess c = .error e) :
    Cli.batches host args output = fail output (exitOf e) e.message := by
  simp only [Cli.batches, bind, pure, hc, h]

end Commands

/-- A dry run fails only as the build does, and both commands then end alike. After one that
succeeds the build can fail for missing templates or the answer to a call alone; a build that
succeeds makes the batches that were foretold. -/
theorem dryRun_agrees (host : Host Id) (c : Config) (provision : Provisioner)
    (hvalid : c.validate = .ok ()) :
    (∀ e, DryRun.load host.toAccess c = .error e →
      (runFromFiles host.compressor host.toAccess c provision).1 = .error e ∧
        ∀ (args : BuildArgs) (out : Option String) (output : OutputArgs),
          args.resolve host.toAccess = .ok c →
            build host args out output = fail output (exitOf e) e.message ∧
              Cli.batches host args output = fail output (exitOf e) e.message) ∧
      ∀ d, DryRun.load host.toAccess c = .ok d →
        (∀ e, (runFromFiles host.compressor host.toAccess c provision).1 = .error e →
          (∃ id, e = .missingTemplate id) ∨ ∃ batch why, e = .provision batch why) ∧
        ∀ m, (runFromFiles host.compressor host.toAccess c provision).1 = .ok m →
          ∃ inputs, Inputs.load host.toAccess c = .ok inputs ∧
            d.Foretells inputs.templates m := by
  rcases load_cases host.toAccess hvalid with
    ⟨e, hdry, hbuild⟩ | ⟨inputs, ops, batches, hload, hprepared, hdry, hbuild⟩
  · constructor
    · intro e' he'
      cases hdry.symm.trans he'
      exact ⟨hbuild provision, fun args out output hc =>
        ⟨build_of_error hc out (hbuild _), batches_of_error hc hdry⟩⟩
    · intro d hd
      cases hdry.symm.trans hd
  -- both have the same batches, so only building them can still fail
  · obtain ⟨isDirectory, hrun⟩ := hbuild provision
    constructor
    · intro e he
      cases hdry.symm.trans he
    · intro d hd
      cases hdry.symm.trans hd
      rw [hrun]
      constructor
      · intro e he
        obtain ⟨_, batch, _, _, _, -, -, -, hid | ⟨why, hwhy⟩⟩ :=
          hprepared.run_eq_error (Prod.ext he rfl)
        · exact .inl hid
        · exact .inr ⟨batch.index, why, hwhy⟩
      · intro m hm
        exact ⟨inputs, hload, DryRun.foretells_ofBatches (hprepared.stages (Prod.ext hm rfl))⟩

/-- The files of a description with two operations, of which one has templates. -/
def twoOperations : Host Id where
  read path :=
    match path with
    | "openapi.json" => .ok
        ("\x7b\"paths\": \x7b\"/a\": \x7b" ++
          "\"get\": \x7b\"operationId\": \"a\"\x7d, \"put\": \x7b\"operationId\": \"b\"\x7d" ++
          "\x7d\x7d\x7d")
    | "schema.graphql" => .ok "type Query \x7b a: Int \x7d"
    | "templates.json" => .ok
        "\x7b\"b\": \x7b\"request_vtl\": \"in\", \"response_vtl\": \"out\"\x7d\x7d"
    | _ => .error .notFound
  isDirectory _ := false
  write _ _ := .ok ()
  env _ := none
  compressor := .fixedCode
  serve _ _ := .ok ()

/-- The configuration for them. -/
def withTemplates : Config where
  templatesPath := some "templates.json"

theorem validate_withTemplates : withTemplates.validate = .ok () := by
  have hname : Text.blank withTemplates.project.name = false := by decide +kernel
  rw [Config.validate, hname]
  rfl

/-- Both operations are foretold, in one batch, of which the build routes one. -/
theorem dryRun_agrees_twoOperations :
    ∃ (d : DryRun) (m : Manifest) (inputs : Inputs),
      DryRun.load twoOperations.toAccess withTemplates = .ok d ∧
      (runFromFiles twoOperations.compressor twoOperations.toAccess withTemplates
        fun _ _ => .ok "https://h").1 = .ok m ∧
      d.Foretells inputs.templates m ∧ m.operationCount = 2 ∧ m.tables.operations.size = 1 := by
  have hcounts : (runFromFiles twoOperations.compressor twoOperations.toAccess withTemplates
      fun _ _ => .ok "https://h").1.toOption.map
        (fun m => (m.operationCount, m.tables.operations.size)) = some (2, 1) := by decide +kernel
  obtain ⟨hfails, hgoes⟩ := dryRun_agrees twoOperations withTemplates
    (fun _ _ => .ok "https://h") validate_withTemplates
  cases hm : (runFromFiles twoOperations.compressor twoOperations.toAccess withTemplates
      fun _ _ => .ok "https://h").1 with
  | error e =>
      rw [hm] at hcounts
      cases hcounts
  | ok m =>
      rw [hm] at hcounts hfails hgoes
      obtain ⟨hcount, hsize⟩ := Prod.mk.inj (Option.some.inj hcounts)
      cases hd : DryRun.load twoOperations.toAccess withTemplates with
      | error e => cases (hfails e hd).1
      | ok d =>
          obtain ⟨inputs, -, hforetells⟩ := (hgoes d hd).2 m rfl
          exact ⟨d, m, inputs, rfl, rfl, hforetells, hcount, hsize⟩

end BatchedGateway.Cli
