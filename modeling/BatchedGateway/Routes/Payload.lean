/- The tables as text for an environment: JSON, compressed, in base 64. -/
import BatchedGateway.Archive.Base64
import BatchedGateway.Archive.Gzip
import BatchedGateway.Json.Printer
import BatchedGateway.Routes.Tables
import BatchedGateway.Text.Blank
import BatchedGateway.Text.Encoding

namespace BatchedGateway

/-- The ways to fail with a packed table. There is none for printing it as JSON, which always
succeeds. -/
inductive PayloadError
  | packing (why : String)
  | base64
  | compression
  | content (fault : Json.Fault)
  deriving DecidableEq, Repr

def PayloadError.message : PayloadError → String
  | .packing why => "failed to compress mapping table: " ++ why
  | .base64 => "mapping payload is not valid base64: invalid text"
  | .compression => "failed to decompress mapping payload: corrupt stream"
  | .content fault => "failed to deserialize mapping table: " ++ fault.message

/-- The names of the variables that hold the two tables. -/
def operationsVariable : String := "SHARDGATE_OPERATION_MAP"

def endpointsVariable : String := "SHARDGATE_ENDPOINT_MAP"

/-- Both tables, each as a text of its own. -/
structure Payload where
  operations : String
  endpoints : String
  deriving DecidableEq, Repr

namespace Payload

def encodeText (z : Archive.Compressor) (v : Json) : Except PayloadError String :=
  ((z.pack (Text.toBytes v.compact)).mapError .packing).map Base64.encode

/-- The JSON text in an encoded one, which may have blanks around it. -/
def decodeBytes (text : String) : Except PayloadError (List UInt8) :=
  match Base64.decode (Text.trim text) with
  | none => .error .base64
  | some bytes =>
      match Archive.gunzip bytes with
      | none => .error .compression
      | some content => .ok content

def decodeText {α : Type} (value : Json.Decoder α) (text : String) : Except PayloadError α := do
  let bytes ← decodeBytes text
  match Text.ofBytes? bytes with
  | none => .error (.content .notUtf8)
  | some content => (Json.decode value content).mapError .content

/-- Each table is compressed on its own. -/
def encode (z : Archive.Compressor) (t : Tables) : Except PayloadError Payload := do
  let operations ← encodeText z (Tables.operationsJson t.operations)
  let endpoints ← encodeText z (Tables.endpointsJson t.endpoints)
  .ok ⟨operations, endpoints⟩

def decode (p : Payload) : Except PayloadError Tables := do
  let operations ← decodeText Tables.operationsDecoder p.operations
  let endpoints ← decodeText Tables.endpointsDecoder p.endpoints
  .ok ⟨operations, endpoints⟩

def toJson (p : Payload) : Json := .obj [
  ("operations", .str p.operations), ("endpoints", .str p.endpoints)]

def decoder : Json.Decoder Payload := fun w => do
  match (← Json.fields ["operations", "endpoints"] w) with
  | [operations, endpoints] =>
      .ok {
        operations := ← operations.required .string
        endpoints := ← endpoints.required .string }
  | _ => .error .wrongShape

end Payload

end BatchedGateway
