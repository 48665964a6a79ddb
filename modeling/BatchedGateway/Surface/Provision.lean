/- How a surface gets the URL it is served at. -/
import BatchedGateway.Surface.Basic
import BatchedGateway.Text.Encoding
import BatchedGateway.Url.Check

namespace BatchedGateway

inductive ProvisionError
  | invalidUrl (url : String) (why : Url.Fault)
  | other (what : String)
  deriving DecidableEq, Repr

def ProvisionError.message : ProvisionError → String
  | invalidUrl url why => "invalid endpoint URL '" ++ url ++ "': " ++ why.message
  | other what => what

/-- Builds a surface and answers with its base URL. The number counts the surfaces that were
built before. -/
abbrev Provisioner := Nat → Surface → Except ProvisionError String

/-- The URL that a pattern gives for a surface. -/
def renderUrl (pattern name : String) (index : Nat) : String :=
  let named := Text.replace pattern "\x7bsurface\x7d" name
  Text.replace named "\x7bbatch\x7d" (Text.decimal index)

def Provisioner.ofPattern (pattern : String) : Provisioner := fun _ surface =>
  let url := renderUrl pattern surface.name surface.index
  match Url.check url with
  | .ok () => .ok url
  | .error why => .error (.invalidUrl url why)

end BatchedGateway
