/- The tables that lead from an operation to the batch that serves it and to its URL. -/
import BatchedGateway.Json.Decode
import BatchedGateway.Text.Encoding

namespace BatchedGateway

structure Tables where
  /-- The batch of each operation. -/
  operations : SortedMap String Nat
  /-- The base URL of each batch. -/
  endpoints : SortedMap Nat String
  deriving DecidableEq

namespace Tables

def empty : Tables := ⟨∅, ∅⟩

instance : EmptyCollection Tables := ⟨empty⟩
instance : Inhabited Tables := ⟨empty⟩

def ofLists (operations : List (String × Nat)) (endpoints : List (Nat × String)) : Tables :=
  ⟨SortedMap.ofList operations, SortedMap.ofList endpoints⟩

def batchFor (t : Tables) (id : String) : Option Nat := t.operations.get? id

def endpointFor (t : Tables) (batch : Nat) : Option String := t.endpoints.get? batch

def assign (t : Tables) (id : String) (batch : Nat) : Tables :=
  { t with operations := t.operations.insert id batch }

def serve (t : Tables) (batch : Nat) (url : String) : Tables :=
  { t with endpoints := t.endpoints.insert batch url }

/-- The batch and the base URL of an operation. -/
def resolve (t : Tables) (id : String) : Option (Nat × String) := do
  let batch ← t.batchFor id
  let url ← t.endpointFor batch
  some (batch, url)

def operationsJson (operations : SortedMap String Nat) : Json :=
  .obj (operations.entries.map fun e => (e.1, .ofNat e.2))

def endpointsJson (endpoints : SortedMap Nat String) : Json :=
  .obj (endpoints.entries.map fun e => (Text.decimal e.1, .str e.2))

def toJson (t : Tables) : Json := .obj [
  ("operations", operationsJson t.operations), ("endpoints", endpointsJson t.endpoints)]

def operationsDecoder : Json.Decoder (SortedMap String Nat) := .tableByName .nat64

def endpointsDecoder : Json.Decoder (SortedMap Nat String) := .tableByNumber .string

def decoder : Json.Decoder Tables := fun w => do
  match (← Json.fields ["operations", "endpoints"] w) with
  | [operations, endpoints] =>
      .ok {
        operations := ← operations.required operationsDecoder
        endpoints := ← endpoints.required endpointsDecoder }
  | _ => .error .wrongShape

end Tables

end BatchedGateway
