/- What ends a build. -/
import BatchedGateway.Build.Config
import BatchedGateway.Description
import BatchedGateway.Operation.Batch
import BatchedGateway.Operation.Index
import BatchedGateway.Routes.Payload
import BatchedGateway.Schema.Index
import BatchedGateway.Surface.Provision
import BatchedGateway.Surface.Templates
import BatchedGateway.Text.Encoding

namespace BatchedGateway

/-- The ways a build can end without a manifest. That a background job breaks down is left out:
nothing here runs in the background. -/
inductive BuildError
  | read (path : String) (why : IoError)
  | config (why : ConfigError)
  | parse (why : ParseError)
  | index (why : IndexError)
  | schema (why : SchemaError)
  | batch (why : BatchError)
  | templates (why : TemplatesError)
  | missingTemplate (operation : String)
  | provision (batch : Nat) (why : ProvisionError)
  | duplicateAssignment (operation : String) (batch previous : Nat)
  | codec (why : PayloadError)
  deriving DecidableEq, Repr

def BuildError.message : BuildError → String
  | read path why => "failed to read " ++ path ++ ": " ++ why.message
  | config why => why.message
  | parse why => "api description: " ++ why.message
  | index why => "api description: " ++ why.message
  | schema why => "schema: " ++ why.message
  | batch why => why.message
  | templates why => why.message
  | missingTemplate operation =>
      "no transformation templates for operation '" ++ operation ++ "'"
  | provision n why => "failed to provision batch " ++ Text.decimal n ++ ": " ++ why.message
  | duplicateAssignment operation n previous =>
      "operation '" ++ operation ++ "' assigned to batch " ++ Text.decimal n ++
        " was already assigned to batch " ++ Text.decimal previous
  | codec why => why.message

end BatchedGateway
