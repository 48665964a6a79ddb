/- API descriptions: JSON or YAML text read as a JSON value. -/
import BatchedGateway.Json.Reading
import BatchedGateway.Yaml.Value
import BatchedGateway.Text.Blank

namespace BatchedGateway

inductive Format
  | json
  | yaml
  | auto
  deriving DecidableEq, Repr

inductive ParseError
  | json (fault : Json.Fault)
  | yaml (fault : Yaml.Fault)
  deriving DecidableEq, Repr

def ParseError.message : ParseError → String
  | .json fault => "failed to parse as JSON: " ++ fault.message
  | .yaml fault => "failed to parse as YAML: " ++ fault.message

structure Description where
  document : Json
  format : Format
  deriving Repr

namespace Description

def ofJson (text : String) : Except ParseError Json :=
  (Json.parse text).mapError .json

/-- Keys that are no strings become strings where they have a text. -/
def ofYaml (text : String) : Except ParseError Json := do
  let value ← (Yaml.Value.parse text).mapError .yaml
  match value.toJson? with
  | some document => .ok document
  | none => .error (.json .wrongShape)

/-- Text whose first character opens an object or an array is more likely JSON, and then
the fault reported is the one of JSON. -/
def detect (text : String) : Except ParseError Description :=
  if Text.firstInk text = some '\x7b' ∨ Text.firstInk text = some '[' then
    match ofJson text with
    | .ok document => .ok ⟨document, .json⟩
    | .error e =>
        match ofYaml text with
        | .ok document => .ok ⟨document, .yaml⟩
        | .error _ => .error e
  else
    match ofYaml text with
    | .ok document => .ok ⟨document, .yaml⟩
    | .error e =>
        match ofJson text with
        | .ok document => .ok ⟨document, .json⟩
        | .error _ => .error e

def parse (text : String) : Format → Except ParseError Description
  | .json => do .ok ⟨← ofJson text, .json⟩
  | .yaml => do .ok ⟨← ofYaml text, .yaml⟩
  | .auto => detect text

end Description

end BatchedGateway
