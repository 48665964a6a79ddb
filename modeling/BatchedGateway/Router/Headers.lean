/- Header fields, and which of them stay on a connection. -/
import BatchedGateway.Text.Blank
import BatchedGateway.Text.Encoding
import BatchedGateway.Text.Pieces

namespace BatchedGateway

/-- Fields with names in lower case, in the order they came. -/
abbrev Headers := List (String × List UInt8)

namespace Headers

/-- Fields about one connection only. -/
def hopByHop : List String := [
  "connection", "keep-alive", "proxy-authenticate", "proxy-authorization", "te", "trailer",
  "transfer-encoding", "upgrade"]

def lower (s : String) : String := String.ofList (s.toList.map Char.toLower)

def ofFields (fields : List (String × List UInt8)) : Headers :=
  fields.map fun f => (lower f.1, f.2)

def values (h : Headers) (name : String) : List (List UInt8) :=
  (h.filter (·.1 == name)).map (·.2)

def contains (h : Headers) (name : String) : Bool := h.any (·.1 == name)

/-- A value of tabs and printable ASCII as text. -/
def text? (value : List UInt8) : Option String :=
  if value.all fun b => b = 9 || (32 ≤ b && b < 127) then
    some (String.ofList (value.map fun b => Char.ofNat b.toNat))
  else none

def tokens (s : String) : List String :=
  ((Text.pieces ',' s.toList).map fun p => lower (Text.trim (String.ofList p))).filter (· ≠ "")

/-- The names that the connection fields list. -/
def connectionNames (h : Headers) : List String :=
  ((h.values "connection").filterMap text?).flatMap tokens

def isDropped (h : Headers) (stripHost : Bool) (name : String) : Bool :=
  hopByHop.contains name || (stripHost && name == "host") || h.connectionNames.contains name

/-- The fields that go on to the next connection. -/
def forwarded (h : Headers) (stripHost : Bool) : Headers :=
  h.filter fun f => !h.isDropped stripHost f.1

/-- A length of 64 bits: digits, perhaps after a plus sign. -/
def lengthOf? (s : String) : Option Nat :=
  let ds := match s.toList with
    | '+' :: rest => rest
    | cs => cs
  if ds ≠ [] && ds.all Char.isDigit && Nat.ofDigitChars 10 ds 0 < UInt64.size then
    some (Nat.ofDigitChars 10 ds 0)
  else none

/-- The length that a message says its body has. -/
def declaredLength (h : Headers) : Option Nat := do
  let value ← (h.values "content-length").head?
  lengthOf? (← text? value)

end Headers

end BatchedGateway
