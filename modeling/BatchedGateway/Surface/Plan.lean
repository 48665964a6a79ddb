/- Laying out the surface of a batch. -/
import BatchedGateway.Build.Error
import BatchedGateway.Files.Access

namespace BatchedGateway

/-- The header that carries the caller's key to the backend. -/
def apiKeyHeader : String := "x-api-key"

structure PlanOptions where
  strictTemplates : Bool := false
  resolverDir : Option String := none
  backendUrl : Option String := none
  queryType : Option String := none
  mutationType : Option String := none
  deriving DecidableEq, Repr

/-- What surfaces are laid out with. -/
structure Planner where
  templates : Templates
  options : PlanOptions
  /-- Which paths are directories. -/
  isDirectory : String → Bool

/-- A surface in the making, the latest resource and resolver first. -/
structure Draft where
  resources : List Resource := []
  resolvers : List ResolverBinding := []

namespace Planner

def rootType (p : Planner) : Role → String
  | .query => p.options.queryType.getD Role.query.typeName
  | .mutation => p.options.mutationType.getD Role.mutation.typeName

/-- Where the resolver of an operation would be. -/
def resolverPath (p : Planner) (op : Operation) : Option String :=
  p.options.resolverDir.map fun directory => Files.join directory op.id

def resolver (p : Planner) (op : Operation) : Option ResolverBinding := do
  let path ← p.resolverPath op
  if p.isDirectory path then some ⟨op.id, p.rootType op.role, op.field, path⟩ else none

def resource (p : Planner) (op : Operation) (pair : TemplatePair) (before : Option Resource) :
    Resource where
  operation := op.id
  pathPart := op.id
  method := op.method
  descriptionPath := op.path
  integration := {
    target := p.options.backendUrl
    method := .post
    role := op.role
    field := op.field
    contentType := "application/json"
    requestTemplate := pair.request
    responseTemplate := pair.response
    forwardedHeaders := [apiKeyHeader] }
  dependsOn := before.map (·.operation)

def blankField (op : Operation) : Diagnostic :=
  .warning op.id ("invalid field name for operation '" ++ op.id ++ "'; skipped")

def noTemplates (op : Operation) : Diagnostic :=
  .warning op.id ("templates for operation '" ++ op.id ++ "' not found; skipped")

/-- Takes up the operations one after the other. One with a blank field or without templates
is skipped with a warning; in strict mode missing templates are an error. The warnings so far
are part of the answer in any case. -/
def layOut (p : Planner) : Draft → List Operation → Except BuildError Draft × List Diagnostic
  | draft, [] => (.ok draft, [])
  | draft, op :: rest =>
      if !op.hasField then
        let (result, diagnostics) := p.layOut draft rest
        (result, blankField op :: diagnostics)
      else
        let draft := { draft with resolvers := (p.resolver op).toList ++ draft.resolvers }
        match p.templates.get? op.id with
        | some pair =>
            let resource := p.resource op pair draft.resources.head?
            p.layOut { draft with resources := resource :: draft.resources } rest
        | none =>
            if p.options.strictTemplates then (.error (.missingTemplate op.id), [])
            else
              let (result, diagnostics) := p.layOut draft rest
              (result, noTemplates op :: diagnostics)

/-- The surface of a batch, and the warnings about it. -/
def plan (p : Planner) (batch : Batch Operation) (name : String) :
    Except BuildError Surface × List Diagnostic :=
  let (result, diagnostics) := p.layOut {} batch.operations
  (result.map fun draft =>
    ⟨batch.index, name, draft.resources.reverse, draft.resolvers.reverse⟩, diagnostics)

end Planner

end BatchedGateway
