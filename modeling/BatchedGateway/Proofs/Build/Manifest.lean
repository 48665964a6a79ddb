/- Manifests as text: every manifest, and every part of one, is read back as it was printed. -/
import BatchedGateway.Build.Manifest
import BatchedGateway.Proofs.Json.Records
import BatchedGateway.Proofs.Routes.Payload

namespace BatchedGateway
open Json Outcome

theorem Method.readsBack (m : Method) : ReadsBack decoder m.toJson m := by
  cases m <;> exact .oneOf (by decide)

theorem Role.readsBack (r : Role) : ReadsBack decoder r.toJson r := by
  cases r <;> exact .oneOf (by decide)

theorem Severity.readsBack (s : Severity) : ReadsBack decoder (.str s.text) s := by
  cases s <;> exact .oneOf (by decide)

/-- A list of texts. -/
theorem readsBack_texts (texts : List String) :
    ReadsBack (.list .string) (.arr (texts.map .str)) texts := .list fun s _ => .string s

theorem Diagnostic.readsBack (d : Diagnostic) : ReadsBack decoder d.toJson d := by
  obtain ⟨severity, message, operation⟩ := d
  have hseverity := severity.readsBack
  cases operation <;> constructor <;>
    simp [toJson, decoder, member?, integral_obj, fields_written, hseverity.read]

theorem Tables.readsBack {t : Tables} (h : t.Fits) : ReadsBack decoder t.toJson t := by
  have hoperations : ReadsBack operationsDecoder (operationsJson t.operations) t.operations :=
    .tableByName fun e he => .nat64 (h.operations e he)
  have hendpoints : ReadsBack endpointsDecoder (endpointsJson t.endpoints) t.endpoints :=
    .tableByNumber (fun e _ => .string e.2) h.endpoints
  constructor <;>
    simp [toJson, decoder, integral_obj, fields_written, hoperations.integral,
      hendpoints.integral, hoperations.read, hendpoints.read]

theorem Payload.readsBack (p : Payload) : ReadsBack decoder p.toJson p := by
  constructor <;> simp [toJson, decoder, integral_obj, fields_written]

theorem Integration.readsBack (i : Integration) : ReadsBack decoder i.toJson i := by
  obtain ⟨target, method, role, field, contentType, request, response, headers⟩ := i
  have hmethod := method.readsBack
  have hrole := role.readsBack
  have hheaders := readsBack_texts headers
  cases target <;> constructor <;>
    simp [toJson, decoder, member?, integral_obj, fields_written, hmethod.integral,
      hrole.integral, hheaders.integral, hmethod.read, hrole.read, hheaders.read]

theorem Resource.readsBack (r : Resource) : ReadsBack decoder r.toJson r := by
  obtain ⟨operation, pathPart, method, path, integration, dependsOn⟩ := r
  have hmethod := method.readsBack
  have hintegration := integration.readsBack
  cases dependsOn <;> constructor <;>
    simp [toJson, decoder, member?, integral_obj, fields_written, hmethod.integral,
      hintegration.integral, hmethod.read, hintegration.read]

theorem ResolverBinding.readsBack (b : ResolverBinding) : ReadsBack decoder b.toJson b := by
  constructor <;> simp [toJson, decoder, integral_obj, fields_written]

theorem Surface.readsBack {s : Surface} (h : s.index ≤ maxNat64) :
    ReadsBack decoder s.toJson s := by
  have hindex := ReadsBack.nat64 h
  have hresources : ReadsBack (.list Resource.decoder) (.arr (s.resources.map Resource.toJson))
      s.resources := .list fun r _ => r.readsBack
  have hresolvers : ReadsBack (.list ResolverBinding.decoder)
      (.arr (s.resolvers.map ResolverBinding.toJson)) s.resolvers := .list fun b _ => b.readsBack
  constructor <;>
    simp [toJson, decoder, integral_obj, fields_written, hresources.integral, hresolvers.integral,
      hindex.read, hresources.read, hresolvers.read]

theorem BuiltBatch.readsBack {b : BuiltBatch} (h : b.surface.index ≤ maxNat64) :
    ReadsBack decoder b.toJson b := by
  have hsurface := Surface.readsBack h
  constructor <;>
    simp [toJson, decoder, integral_obj, fields_written, hsurface.integral, hsurface.read]

theorem ProjectInfo.readsBack (p : ProjectInfo) : ReadsBack decoder p.toJson p := by
  obtain ⟨name, description⟩ := p
  cases description <;> constructor <;>
    simp [toJson, decoder, member?, integral_obj, fields_written]

theorem BackendInfo.readsBack (b : BackendInfo) : ReadsBack decoder b.toJson b := by
  obtain ⟨name, schemaPath, url, queryType, mutationType⟩ := b
  cases url <;> constructor <;>
    simp [toJson, decoder, member?, integral_obj, fields_written]

theorem RouterEntry.readsBack (r : RouterEntry) : ReadsBack decoder r.toJson r := by
  have hroutes := readsBack_texts r.routes
  have henvironment : ReadsBack (.tableByName .string)
      (.obj (r.environment.entries.map fun e => (e.1, .str e.2))) r.environment :=
    .tableByName fun e _ => .string e.2
  constructor <;>
    simp [toJson, decoder, integral_obj, fields_written, hroutes.integral, hroutes.read,
      henvironment.integral, henvironment.read]

namespace Manifest

/-- The numbers in a manifest are numbers of 64 bits. -/
structure Fits (m : Manifest) : Prop where
  maxResources : m.maxResources ≤ maxNat64
  operationCount : m.operationCount ≤ maxNat64
  batches : ∀ b ∈ m.batches, b.surface.index ≤ maxNat64
  tables : m.tables.Fits

theorem readsBack {m : Manifest} (h : m.Fits) : ReadsBack decoder m.toJson m := by
  have hproject := m.project.readsBack
  have hbackend := m.backend.readsBack
  have hmax := ReadsBack.nat64 h.maxResources
  have hcount := ReadsBack.nat64 h.operationCount
  have hbatches : ReadsBack (.list BuiltBatch.decoder) (.arr (m.batches.map BuiltBatch.toJson))
      m.batches := .list fun b hb => BuiltBatch.readsBack (h.batches b hb)
  have hrouter := m.router.readsBack
  have htables := Tables.readsBack h.tables
  have hpayload := m.payload.readsBack
  have hdiagnostics : ReadsBack (.list Diagnostic.decoder)
      (.arr (m.diagnostics.map Diagnostic.toJson)) m.diagnostics := .list fun d _ => d.readsBack
  constructor
  · simp [toJson, integral_obj, hproject.integral, hbackend.integral, hbatches.integral,
      hrouter.integral, htables.integral, hpayload.integral, hdiagnostics.integral]
  · simp [toJson, decoder, fields_written, hproject.read, hbackend.read, hmax.read, hcount.read,
      hbatches.read, hrouter.read, htables.read, hpayload.read, hdiagnostics.read]

end Manifest

end BatchedGateway
