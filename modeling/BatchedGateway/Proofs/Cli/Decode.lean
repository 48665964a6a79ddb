/- A build writes a manifest that is read back as it was made, so that decoding the tables in that
file shows each routed operation once, with the batch that was built for it and its URL. -/
import BatchedGateway.Cli.Commands
import BatchedGateway.Proofs.Build.Manifest
import BatchedGateway.Proofs.Build.Serving

namespace BatchedGateway

theorem Outcome.run_bind {σ α β : Type} (x : StateM σ α) (f : α → StateM σ β) (s : σ) :
    (x >>= f).run s = (f (x.run s).1).run (x.run s).2 := rfl

open Outcome

/-- What was written to a file can be read from it afterwards. -/
def Access.KeepsWritten {σ : Type} (files : Access (StateM σ)) : Prop :=
  ∀ path text s s', (files.write path text).run s = (.ok (), s') →
    ((files.read path).run s').1 = .ok text

/-- The routes of what is served, one for each operation in the table, in its order. -/
structure Manifest.Routed (m : Manifest) (routes : List (String × Route)) : Prop where
  keys : routes.map (·.1) = m.tables.operations.keys
  inOrder : Sorted.InOrder routes
  mem_iff : ∀ id batch url, (id, ⟨batch, url⟩) ∈ routes ↔ m.Serves id batch url

namespace Build

variable {z : Archive.Compressor} {c : Config} {inputs : Inputs} {isDirectory : String → Bool}
  {provision : Provisioner} {m : Manifest} {s : Progress} {ops : List IndexedOperation}
  {batches : List (Batch Operation)}

namespace Stages

theorem fits_manifest (r : Stages z c inputs isDirectory provision ops batches m s)
    (hmax : m.maxResources ≤ Json.maxNat64) (hcount : m.operationCount ≤ Json.maxNat64) :
    m.Fits where
  maxResources := hmax
  operationCount := hcount
  batches := by
    intro b hb
    obtain ⟨k, hk⟩ := List.mem_iff_getElem?.mp hb
    rw [r.index_eq hk]
    exact Nat.le_trans (Nat.le_of_lt (r.lt_operationCount hk)) hcount
  tables := r.fits hcount

end Stages

theorem runFromFiles_eq_ok {σ : Type} {files : Access (StateM σ)} {t t' : σ}
    (h : (runFromFiles z files c provision).run t = ((.ok m, s), t')) :
    ∃ inputs isDirectory, run z c inputs isDirectory provision = (.ok m, s) := by
  rw [runFromFiles] at h
  split at h
  · cases h
  · rw [run_bind] at h
    split at h
    · cases h
    · rename_i inputs _
      rw [runWith, run_bind] at h
      exact ⟨inputs, _, (Prod.mk.inj h).1⟩

end Build

namespace Cli

def routeLine : String × Route → String
  | (id, ⟨batch, url⟩) => id ++ " -> batch " ++ Text.decimal batch ++ " (" ++ url ++ ")"

/-- The routes that are shown for tables. -/
def routesOf (t : Tables) : List (String × Route) :=
  t.operations.entries.map fun (id, batch) =>
    (id, ⟨batch, (t.endpointFor batch).getD "<no endpoint>"⟩)

theorem routeLines_eq (t : Tables) : routeLines t = lines ((routesOf t).map routeLine) := by
  rw [routeLines, routesOf, List.map_map]
  rfl

section Routes

variable {z : Archive.Compressor} {c : Config} {inputs : Inputs} {isDirectory : String → Bool}
  {provision : Provisioner} {m : Manifest} {s : Progress} {ops : List IndexedOperation}
  {batches : List (Batch Operation)}

theorem routed_routesOf (r : Build.Stages z c inputs isDirectory provision ops batches m s) :
    m.Routed (routesOf m.tables) where
  keys := by
    rw [routesOf, List.map_map]
    rfl
  inOrder := List.pairwise_map.mpr m.tables.operations.inOrder
  mem_iff id batch url := by
    rw [r.serves_iff]
    constructor
    · intro hmem
      obtain ⟨⟨id', batch'⟩, hentry, heq⟩ := List.mem_map.mp hmem
      obtain ⟨rfl, hroute⟩ := Prod.mk.inj heq
      obtain ⟨rfl, hurl⟩ := Route.mk.inj hroute
      have hbatch : m.tables.batchFor id' = some batch' := SortedMap.mem_entries.mp hentry
      obtain ⟨url', hserves⟩ := r.exists_serves hbatch
      have hendpoint := (r.serves_iff.mp hserves).2
      rw [hendpoint, Option.getD_some] at hurl
      exact ⟨hbatch, hurl ▸ hendpoint⟩
    · rintro ⟨hbatch, hurl⟩
      refine List.mem_map.mpr ⟨(id, batch), SortedMap.mem_entries.mpr hbatch, ?_⟩
      simp only [hurl, Option.getD_some]

/-- The text that is shown in place of an endpoint is no endpoint of a build. -/
theorem endpointFor_ne {pattern : String} {batch : Nat}
    (r : Build.Stages z c inputs isDirectory (.ofPattern pattern) ops batches m s) :
    m.tables.endpointFor batch ≠ some "<no endpoint>" := by
  intro hurl
  obtain ⟨_, _, -, -, hanswer⟩ := (r.endpointFor_iff batch _).mp hurl
  have hrefused : (Url.check "<no endpoint>").isOk = false := by decide +kernel
  rw [Provisioner.check_ofPattern hanswer] at hrefused
  cases hrefused

end Routes

variable {σ : Type} {host : Host (StateM σ)} {args : BuildArgs} {path : String}
  {output : OutputArgs} {s s' : σ} {outcome : Outcome} {m : Manifest}

theorem fail_exit (output : OutputArgs) (exit : Nat) (message : String) :
    (fail output exit message).exit = exit := by
  rw [fail]
  split
  · rfl
  · split <;> rfl

theorem exitOf_ne (e : BuildError) : exitOf e ≠ 0 := by
  unfold exitOf
  split <;> decide

/-- The manifest that a build makes, if it makes one. -/
def built? (host : Host (StateM σ)) (args : BuildArgs) (s : σ) : Option Manifest :=
  match (args.resolve host.toAccess).run s with
  | (.error _, _) => none
  | (.ok c, s) =>
      ((Build.runFromFiles host.compressor host.toAccess c
        (.ofPattern c.endpointTemplate)).run s).1.1.toOption

theorem stages_of_built (h : built? host args s = some m) :
    ∃ c inputs isDirectory ops batches p,
      Build.Stages host.compressor c inputs isDirectory (.ofPattern c.endpointTemplate) ops
        batches m p := by
  rw [built?] at h
  split at h
  · cases h
  · rename_i c s₁ _
    cases hresult :
        ((Build.runFromFiles host.compressor host.toAccess c
          (.ofPattern c.endpointTemplate)).run s₁).1.1 with
    | error e =>
        rw [hresult] at h
        cases h
    | ok m' =>
        rw [hresult] at h
        cases h
        obtain ⟨inputs, isDirectory, hrun⟩ :=
          Build.runFromFiles_eq_ok (Prod.ext (Prod.ext hresult rfl) rfl)
        obtain ⟨ops, batches, hstages⟩ := Build.run_eq_ok hrun
        exact ⟨c, inputs, isDirectory, ops, batches, _, hstages⟩

/-- A build that ends well has made a manifest and written it to the file it was given. -/
theorem build_eq_ok (h : (build host args (some path) output).run s = (outcome, s'))
    (hexit : outcome.exit = 0) : ∃ m t, built? host args s = some m ∧
      (host.write path m.toJson.pretty).run t = (.ok (), s') := by
  -- every way to fail has an exit code of its own, so that only one way is left
  rw [build, run_bind] at h
  split at h
  · obtain ⟨rfl, -⟩ := Prod.mk.inj h
    cases (fail_exit ..).symm.trans hexit
  · rename_i c hc
    rw [run_bind] at h
    split at h
    · obtain ⟨rfl, -⟩ := Prod.mk.inj h
      exact absurd ((fail_exit ..).symm.trans hexit) (exitOf_ne _)
    · rename_i heq
      cases heq
    · rename_i m path' hm heq
      cases heq
      rw [run_bind] at h
      split at h
      · obtain ⟨rfl, -⟩ := Prod.mk.inj h
        cases (fail_exit ..).symm.trans hexit
      · rename_i hwrite
        obtain ⟨-, rfl⟩ := Prod.mk.inj h
        refine ⟨m, _, ?_, Prod.ext hwrite rfl⟩
        have hresolved : (args.resolve host.toAccess).run s =
            (.ok c, ((args.resolve host.toAccess).run s).2) := Prod.ext hc rfl
        rw [built?, hresolved]
        simp only [hm, Except.toOption]

/-- The payload in the text of a printed manifest. -/
theorem payloadOfFile_print (path : String) (hm : m.Fits) (layout : Json.Layout) :
    payloadOfFile path (.ok (layout.print m.toJson)) = .ok m.payload := by
  simp only [payloadOfFile, (Manifest.readsBack hm).decode_print layout]

theorem loadPayload_run (files : Access (StateM σ)) {given : PayloadArgs}
    (h : given.manifest = some path) :
    ((loadPayload files given).run s).1 = payloadOfFile path ((files.read path).run s).1 := by
  rw [loadPayload, h]
  rfl

theorem decode_run {given : PayloadArgs} {payload : Payload} {t : Tables}
    (hpayload : ((loadPayload host.toAccess given).run s).1 = .ok payload)
    (ht : payload.decode = .ok t) :
    ((decode host given {}).run s).1 = { exit := 0, out := routeLines t } := by
  rw [decode, run_bind, hpayload]
  simp only [ht]
  rfl

/-- Every manifest is read back from its text, in either layout. A build that ends well leaves the
text of its manifest, from which its payload is loaded and its tables are decoded; what is then
shown is a line for each routed operation, with a URL in each. -/
theorem decode_built :
    (∀ m : Manifest, m.Fits → ∀ layout : Json.Layout,
      Json.decode Manifest.decoder (layout.print m.toJson) = .ok m) ∧
    ∀ {σ : Type} (host : Host (StateM σ)), host.toAccess.KeepsWritten →
      ∀ (args : BuildArgs) (path : String) (output : OutputArgs) (s s' : σ) (outcome : Outcome),
        (build host args (some path) output).run s = (outcome, s') → outcome.exit = 0 →
          ∃ m, built? host args s = some m ∧
            (m.maxResources ≤ Json.maxNat64 → m.operationCount ≤ Json.maxNat64 →
              ∀ given : PayloadArgs, given.manifest = some path →
                ((loadPayload host.toAccess given).run s').1 = .ok m.payload ∧
                m.payload.decode = .ok m.tables ∧
                ∃ routes, m.Routed routes ∧
                  (∀ e ∈ routes, e.2.baseUrl ≠ "<no endpoint>") ∧
                  ((decode host given {}).run s').1 =
                    { exit := 0, out := lines (routes.map routeLine) }) := by
  refine ⟨fun m hm layout => (Manifest.readsBack hm).decode_print layout, ?_⟩
  intro σ host hkeeps args path output s s' outcome h hexit
  obtain ⟨m, t, hbuilt, hwrite⟩ := build_eq_ok h hexit
  refine ⟨m, hbuilt, fun hmax hcount given hgiven => ?_⟩
  obtain ⟨c, inputs, isDirectory, ops, batches, p, hstages⟩ := stages_of_built hbuilt
  have hloaded : ((loadPayload host.toAccess given).run s').1 = .ok m.payload := by
    rw [loadPayload_run _ hgiven, hkeeps path _ t s' hwrite]
    exact payloadOfFile_print path (hstages.fits_manifest hmax hcount) .pretty
  have hdecoded : m.payload.decode = .ok m.tables := by
    exact hstages.packs.decode_eq (hstages.fits hcount)
  have hrouted := routed_routesOf hstages
  refine ⟨hloaded, hdecoded, routesOf m.tables, hrouted, ?_, ?_⟩
  · rintro ⟨id, batch, url⟩ he rfl
    have hserves := (hrouted.mem_iff id batch _).mp he
    exact endpointFor_ne hstages (hstages.serves_iff.mp hserves).2
  · rw [decode_run hloaded hdecoded, routeLines_eq]

/-- Files in memory. -/
def inMemory (z : Archive.Compressor) : Host (StateM (List (String × String))) where
  read path := do return ((← get).lookup path).elim (.error .notFound) .ok
  isDirectory _ := return false
  write path text := do
    set ((path, text) :: (← get))
    return .ok ()
  env _ := none
  compressor := z
  serve _ _ := return .ok ()

theorem keepsWritten_inMemory (z : Archive.Compressor) :
    (inMemory z).toAccess.KeepsWritten := by
  intro path text s s' h
  cases h
  have hread : (((inMemory z).read path).run ((path, text) :: s)).1 =
      (((path, text) :: s).lookup path).elim (.error .notFound) .ok := rfl
  rw [List.lookup_cons_self] at hread
  exact hread

/-- The files of two operations with templates. Their ids are not in the order of the paths. -/
def twoRoutes : List (String × String) := [
  ("openapi.json", "\x7b\"paths\": \x7b\"/a\": \x7b" ++
    "\"get\": \x7b\"operationId\": \"b\"\x7d, \"put\": \x7b\"operationId\": \"a\"\x7d\x7d\x7d\x7d"),
  ("schema.graphql", "type Query \x7b a: Int \x7d"),
  ("templates.json", "\x7b\"a\": \x7b\"request_vtl\": \"in\", \"response_vtl\": \"out\"\x7d," ++
    "\"b\": \x7b\"request_vtl\": \"in\", \"response_vtl\": \"out\"\x7d\x7d")]

/-- One operation in each batch. -/
def oneByOne : BuildArgs where
  project := some "p"
  templates := some "templates.json"
  maxResources := some 1
  endpointTemplate := some "fn://\x7bsurface\x7d"

/-- What their tables are packed to. -/
def twoRoutesPayload : Payload where
  operations := "H4sIAAAAAAAA/6tWSlSyMtRRSlKyMqgFAAGsd/0NAAAA"
  endpoints := "H4sIAAAAAAAA/6tWMlCyUkrLs9LXL9BNSixJzjBQ0lEyRBMzVKoFAGujqkYpAAAA"

/-- Copies what the URLs have in common. -/
def copying : Archive.Compressor :=
  Payload.packingTo .fixedCode
    (Tables.endpointsJson (.ofList [(0, "fn://p-batch0"), (1, "fn://p-batch1")]))
    twoRoutesPayload.endpoints (by decide +kernel)

/-- Both operations are shown in the order of their ids, each with a batch of its own. -/
theorem decode_built_twoRoutes :
    ((build (inMemory copying) oneByOne (some "m.json") {}).run twoRoutes).1.exit = 0 ∧
      ∃ m routes, built? (inMemory copying) oneByOne twoRoutes = some m ∧ m.Fits ∧
        Json.decode Manifest.decoder m.toJson.compact = .ok m ∧ m.payload = twoRoutesPayload ∧
        m.payload.decode = .ok m.tables ∧ m.Routed routes ∧ routes.map (·.1) = ["a", "b"] ∧
        ((decode (inMemory copying) ⟨some "m.json", none, none⟩ {}).run
            ((build (inMemory copying) oneByOne (some "m.json") {}).run twoRoutes).2).1 =
          { exit := 0, out := lines (routes.map routeLine) } := by
  have hruns : ((build (inMemory copying) oneByOne (some "m.json") {}).run twoRoutes).1.exit = 0 ∧
      (built? (inMemory copying) oneByOne twoRoutes).map
        (fun m => (m.maxResources, m.operationCount, m.tables.operations.keys)) =
          some (1, 2, ["a", "b"]) ∧
      (built? (inMemory copying) oneByOne twoRoutes).map (·.payload) = some twoRoutesPayload := by
    decide +kernel
  obtain ⟨hexit, hparts, hpayload⟩ := hruns
  obtain ⟨hmanifests, hbuilds⟩ := decode_built
  obtain ⟨m, hbuilt, hread⟩ := hbuilds (inMemory copying) (keepsWritten_inMemory copying) oneByOne
    "m.json" {} twoRoutes _ _ (Prod.eta _).symm hexit
  rw [hbuilt] at hparts hpayload
  obtain ⟨hone, hrest⟩ := Prod.mk.inj (Option.some.inj hparts)
  obtain ⟨htwo, hkeys⟩ := Prod.mk.inj hrest
  have hmax : m.maxResources ≤ Json.maxNat64 := by
    rw [hone]
    decide
  have hcount : m.operationCount ≤ Json.maxNat64 := by
    rw [htwo]
    decide
  obtain ⟨_, _, _, _, _, _, hstages⟩ := stages_of_built hbuilt
  have hfits := hstages.fits_manifest hmax hcount
  obtain ⟨-, hdecode, routes, hrouted, -, hshown⟩ :=
    hread hmax hcount ⟨some "m.json", none, none⟩ rfl
  exact ⟨hexit, m, routes, hbuilt, hfits, hmanifests m hfits .compact, Option.some.inj hpayload,
    hdecode, hrouted, hrouted.keys.trans hkeys, hshown⟩

end Cli

end BatchedGateway
