/- The root fields of a backend's schema. -/
import BatchedGateway.Json.Value
import BatchedGateway.Json.Written
import BatchedGateway.Sorted
import BatchedGateway.Sdl.Token

namespace BatchedGateway

/-- Names of the query and mutation types, and of their fields. -/
structure SchemaIndex where
  queryType : Option String
  mutationType : Option String
  queryFields : NameSet
  mutationFields : NameSet
  deriving DecidableEq

inductive SchemaError
  | sdl (fault : Sdl.Fault)
  | introspection (what : String)
  | json (fault : Json.Fault)
  deriving DecidableEq, Repr

def SchemaError.message : SchemaError → String
  | .sdl fault => "invalid GraphQL schema: " ++ fault.message
  | .introspection what => "invalid introspection result: " ++ what
  | .json fault => "failed to parse introspection JSON: " ++ fault.message

namespace SchemaIndex

def empty : SchemaIndex := ⟨none, none, ∅, ∅⟩

/-- An index of the given fields, under the default type names. -/
def ofFields (query mutation : List String) : SchemaIndex :=
  ⟨some "Query", some "Mutation", NameSet.ofNames query, NameSet.ofNames mutation⟩

def hasQuery (s : SchemaIndex) (field : String) : Bool := s.queryFields.contains field

def hasMutation (s : SchemaIndex) (field : String) : Bool := s.mutationFields.contains field

end SchemaIndex

end BatchedGateway
