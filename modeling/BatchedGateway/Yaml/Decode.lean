/- Typed reading of YAML documents. A type that is asked for decides what a scalar means. -/
import BatchedGateway.Sorted
import BatchedGateway.Yaml.Value

namespace BatchedGateway.Yaml

abbrev Decoder (α : Type) := Document → Node → Except Fault α

/-- The node that an alias leads to. -/
def Document.follow (d : Document) : Node → Except Fault Node
  | .alias id => (d.anchored.target? id).elim (.error .unknownAlias) .ok
  | n => .ok n

namespace Decoder

/-- The text of any scalar. -/
def string : Decoder String := fun d n => do
  match (← d.follow n) with
  | .scalar _ _ s => .ok s
  | _ => .error .wrongShape

/-- Quoted text is neither number nor truth value; a literal block may be, with a tag. -/
def isBare (tag : Option Tag) (style : Style) (core : String) : Bool :=
  style = .plain || (style = .literal && tag = some (Value.coreTag core))

def bool : Decoder Bool := fun d n => do
  match (← d.follow n) with
  | .scalar tag style s =>
      match isBare tag style "bool", Plain.bool? s with
      | true, some b => .ok b
      | _, _ => .error .wrongShape
  | _ => .error .wrongShape

def nat64 : Decoder Nat := fun d n => do
  match (← d.follow n) with
  | .scalar tag style s =>
      match isBare tag style "int", Plain.nat64? s with
      | true, some k => .ok k
      | _, _ => .error .wrongShape
  | _ => .error .wrongShape

/-- Plain text that says null, or nothing at all, is no value. -/
def optional {α : Type} (value : Decoder α) : Decoder (Option α) := fun d n => do
  let n ← d.follow n
  let present ← match n with
    | .scalar none .plain s => pure (s ≠ "" && !Plain.isNull s)
    | .scalar (some tag) .plain s =>
        if tag = Value.coreTag "null" then
          if Plain.isNull s then pure false else .error .badScalar
        else pure true
    | _ => pure true
  if present then return some (← value d n) else return none

/-- The entries of a mapping; an empty place is an empty mapping. -/
def entries : Decoder (List (String × Node)) := fun d n => do
  match (← d.follow n) with
  | .mapping _ members => members.mapM fun (k, v) => do .ok (← string d k, v)
  | .scalar _ .plain "" => .ok []
  | _ => .error .wrongShape

/-- Of a repeated key the last value counts. -/
def table {α : Type} (value : Decoder α) : Decoder (SortedMap String α) := fun d n => do
  let values ← (← entries d n).mapM fun (k, v) => do .ok (k, ← value d v)
  .ok (SortedMap.ofList values)

/-- A field of a record, which may be missing but not repeated. -/
def field {α : Type} (name : String) (fallback : α) (value : Decoder α) (d : Document)
    (members : List (String × Node)) : Except Fault α :=
  match members.filter (·.1 == name) with
  | [] => .ok fallback
  | [(_, n)] => value d n
  | _ => .error .repeatedKey

end Decoder

/-- Reads a stream as a value of some type; a stream without a document is an empty place. -/
def decode {α : Type} (value : Decoder α) (text : String) : Except Fault α := do
  let d ← readDocument text
  value d (d.root.getD .nothing)

end BatchedGateway.Yaml
