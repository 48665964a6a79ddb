/- The pairs of templates that shape the calls of operations. -/
import BatchedGateway.Files.Access
import BatchedGateway.Json.Decode

namespace BatchedGateway

structure TemplatePair where
  request : String
  response : String
  deriving DecidableEq, Repr

abbrev Templates := SortedMap String TemplatePair

inductive TemplatesError
  | read (path : String) (why : IoError)
  | parse (path : String) (fault : Json.Fault)
  deriving DecidableEq, Repr

def TemplatesError.message : TemplatesError → String
  | read path why => "failed to read templates " ++ path ++ ": " ++ why.message
  | parse path fault =>
      "templates " ++ path ++ " must map operationId to \x7brequest_vtl, response_vtl\x7d: " ++
        fault.message

namespace TemplatePair

def toJson (p : TemplatePair) : Json := .obj [
  ("request_vtl", .str p.request), ("response_vtl", .str p.response)]

def decoder : Json.Decoder TemplatePair := fun w => do
  match (← Json.fields ["request_vtl", "response_vtl"] w) with
  | [request, response] =>
      .ok {
        request := ← request.required .string
        response := ← response.required .string }
  | _ => .error .wrongShape

end TemplatePair

namespace Templates

/-- The templates in the text of a file. No file means no templates. -/
def ofFile (path : String) : Except IoError String → Except TemplatesError Templates
  | .error .notFound => .ok ∅
  | .error why => .error (.read path why)
  | .ok content =>
      (Json.decode (Json.Decoder.tableByName TemplatePair.decoder) content).mapError (.parse path)

def load {m : Type → Type} [Monad m] (files : Access m) (path : String) :
    m (Except TemplatesError Templates) := do
  return ofFile path (← files.read path)

end Templates

end BatchedGateway
