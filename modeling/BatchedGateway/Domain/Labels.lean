/- Names of hosts: their characters mapped, their labels checked. -/
import BatchedGateway.Domain.Mapping
import BatchedGateway.Domain.Punycode
import BatchedGateway.Unicode.Compose

namespace BatchedGateway.Domain

open Unicode

/-- ASCII characters that the host of a URL cannot have. -/
def isForbidden (c : Char) : Bool :=
  c.toNat ≤ 32 || c.toNat == 127 ||
    ['%', '#', '/', ':', '<', '>', '?', '@', '[', '\\', ']', '^', '|'].contains c

def isAscii (c : Char) : Bool := c.toNat < 128

def isJoinable (j : Joining) (other : Joining) : Bool := j == other || j == .dual

/-- The joiners need a sign before them that silences a vowel. The one that keeps letters
apart may also stand between two letters that would join. -/
def joinersFit : (before cs : List Char) → Bool
  | _, [] => true
  | before, c :: rest =>
      let afterVirama := before.head?.any fun b => markOrder b == viramaOrder
      let fits :=
        if c = '\u200d' then afterVirama
        else if c = '\u200c' then
          afterVirama ||
            (((before.dropWhile fun b => joining b == .transparent).head?.any fun b =>
                isJoinable (joining b) .left) &&
              ((rest.dropWhile fun b => joining b == .transparent).head?.any fun b =>
                isJoinable (joining b) .right))
        else true
      fits && joinersFit (c :: before) rest

def isRightward (c : Char) : Bool :=
  [Direction.right, .arabic, .arabicNumber].contains (direction c)

/-- The characters of a label run in one direction. -/
def directionFits (label : List Char) : Bool :=
  let ds := label.map direction
  let last := (ds.reverse.dropWhile (· == .mark)).head?
  let inner : List Direction :=
    [.number, .numberSign, .separator, .numberEnd, .neutral, .boundary, .mark]
  match ds.head? with
  | none => true
  | some .left =>
      ds.all (fun d => d == .left || inner.contains d) &&
        last.any fun d => d == .left || d == .number
  | some d =>
      (d == .right || d == .arabic) &&
        ds.all (fun d => [.right, .arabic, .arabicNumber].contains d || inner.contains d) &&
        (last.any fun d => [.right, .arabic, .arabicNumber, .number].contains d) &&
        !(ds.contains .number && ds.contains .arabicNumber)

/-- A label without its encoding. Encoded ones must need the encoding, and must stay as they
are when mapped and normalized. -/
def plainLabel? (label : List Char) : Option (List Char) :=
  match Text.strip? ['x', 'n', '-', '-'] label with
  | none => some label
  | some rest => do
      if !rest.all isAscii then none
      let plain ← Punycode.decode rest
      let fits := !plain.all isAscii && plain.all isStable && normalize plain == plain &&
        !(['x', 'n', '-', '-'].isPrefixOf plain)
      if fits then some plain else none

def labelFits (label : List Char) : Bool :=
  !label.any isForbidden && !label.head?.any isMark && joinersFit [] label

/-- The labels of a host name as they are displayed; none if it cannot be a host name. -/
def labels? (name : List Char) : Option (List (List Char)) := do
  let mapped ← name.mapM mapChar?
  let labels ← (Text.pieces '.' (normalize mapped.flatten)).mapM plainLabel?
  if !labels.all labelFits then none
  if labels.any (·.any isRightward) && !labels.all directionFits then none
  some labels

end BatchedGateway.Domain
