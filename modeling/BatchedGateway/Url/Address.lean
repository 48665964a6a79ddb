/- Internet addresses as hosts of URLs. -/
import BatchedGateway.Text.Pieces
import BatchedGateway.Text.Encoding

namespace BatchedGateway.Url

inductive Part
  | number (n : Nat)
  | text

/-- A part of an address: decimal, octal after a zero, or hexadecimal after `0x`. -/
def partOf (cs : List Char) : Part :=
  let digits (base : Nat) (ds : List Char) : Part :=
    if ds.all fun c => (Text.hexValue? c).any (· < base) then
      .number (ds.foldl (fun n c => n * base + (Text.hexValue? c).getD 0) 0)
    else .text
  match cs with
  | [] => .text
  | '0' :: 'x' :: rest => digits 16 rest
  | '0' :: 'X' :: rest => digits 16 rest
  | '0' :: d :: rest => digits 8 (d :: rest)
  | cs => digits 10 cs

def isNumber (cs : List Char) : Bool :=
  (cs ≠ [] && cs.all Char.isDigit) ||
    match partOf cs with
    | .number _ => true
    | .text => false

/-- Without the empty label after a point at the end. -/
def withoutLast (labels : List (List Char)) : List (List Char) :=
  match labels.reverse with
  | [] :: rest => rest.reverse
  | _ => labels

/-- A name whose last label is a number has to be an address. -/
def endsInNumber (labels : List (List Char)) : Bool :=
  match (withoutLast labels).getLast? with
  | some last => isNumber last
  | none => false

def numbersOf (labels : List (List Char)) : Option (List Nat) :=
  labels.mapM fun label => match partOf label with
    | .number n => some n
    | .text => none

/-- Up to four numbers; the last one fills the bytes that are left. -/
def isIpv4 (labels : List (List Char)) : Bool :=
  let parts := withoutLast labels
  match numbersOf parts with
  | none => false
  | some ns =>
      match ns.reverse with
      | [] => false
      | last :: front =>
          ns.length ≤ 4 && last < Nat.pow 256 (5 - ns.length) && front.all (· < 256)

/-- The byte at the front: no leading zero. -/
def ipv4Byte? (cs : List Char) : Option (List Char) :=
  let ds := cs.takeWhile Char.isDigit
  let fits := ds ≠ [] && (ds.length = 1 || ds.head? ≠ some '0') && ds.length ≤ 3 &&
    Nat.ofDigitChars 10 ds 0 < 256
  if fits then some (cs.drop ds.length) else none

/-- Four bytes with points between them, and nothing else. -/
def isDotted (count : Nat) (cs : List Char) : Bool :=
  match count, ipv4Byte? cs with
  | _, none => false
  | 0, some rest => rest.isEmpty
  | count + 1, some ('.' :: rest) => isDotted count rest
  | _ + 1, some _ => false

def isHex (c : Char) : Bool := (Text.hexValue? c).isSome

/-- The pieces of an address. `seen` counts those before, `gap` says whether two colons have
stood for missing ones. -/
def ipv6From : (fuel seen : Nat) → (gap : Bool) → List Char → Bool
  | 0, _, _, _ => false
  | _, seen, gap, [] => gap || seen == 8
  | fuel + 1, seen, gap, c :: rest =>
      if seen = 8 then false
      else if c = ':' then !gap && ipv6From fuel (seen + 1) true rest
      else
        let cs := c :: rest
        let digits := (cs.take 4).takeWhile isHex
        match cs.drop digits.length with
        | [] => ipv6From fuel (seen + 1) gap []
        | '.' :: _ => digits ≠ [] && seen ≤ 6 && isDotted 3 cs && (gap || seen == 6)
        | [':'] => false
        | ':' :: more => ipv6From fuel (seen + 1) gap more
        | _ => false

/-- The text between the brackets of an address. -/
def isIpv6 (cs : List Char) : Bool :=
  match cs with
  | ':' :: ':' :: rest => ipv6From (rest.length + 1) 1 true rest
  | ':' :: _ => false
  | [] | [_] => false
  | cs => ipv6From (cs.length + 1) 0 false cs

end BatchedGateway.Url
