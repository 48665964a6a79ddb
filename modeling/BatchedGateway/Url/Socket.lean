/- Addresses that a server listens on. -/
import BatchedGateway.Text.Encoding
import BatchedGateway.Text.Pieces

namespace BatchedGateway

inductive IpAddress
  | four (bytes : List Nat)
  | six (groups : List Nat) (scope : Nat)
  deriving DecidableEq, Repr

structure SocketAddress where
  host : IpAddress
  port : Nat
  deriving DecidableEq, Repr

namespace SocketAddress

/-- A number in base ten that is at most `limit`. -/
def number? (limit : Nat) (cs : List Char) : Option Nat :=
  if cs ≠ [] && cs.all Char.isDigit && Nat.ofDigitChars 10 cs 0 ≤ limit then
    some (Nat.ofDigitChars 10 cs 0)
  else none

def byte? (cs : List Char) : Option Nat :=
  if cs.head? = some '0' ∧ 1 < cs.length then none else number? 255 cs

def bytes? (cs : List Char) : Option (List Nat) := do
  let bytes ← (Text.pieces '.' cs).mapM byte?
  if bytes.length = 4 then some bytes else none

def group? (cs : List Char) : Option Nat :=
  if cs = [] ∨ 4 < cs.length then none
  else cs.foldlM (fun n c => (Text.hexValue? c).map (n * 16 + ·)) 0

/-- Groups between colons. The last one may be four bytes, which count as two groups. -/
def groupsOf? : List (List Char) → Option (List Nat)
  | [] => some []
  | [last] =>
      match group? last, bytes? last with
      | some g, _ => some [g]
      | none, some [a, b, c, d] => some [a * 256 + b, c * 256 + d]
      | none, _ => none
  | piece :: rest => do
      let g ← group? piece
      some (g :: (← groupsOf? rest))

def groups? (cs : List Char) : Option (List Nat) :=
  if cs = [] then some [] else groupsOf? (Text.pieces ':' cs)

/-- Cuts at the first two colons in a row. -/
def cutGap : List Char → Option (List Char × List Char)
  | ':' :: ':' :: rest => some ([], rest)
  | c :: rest => (cutGap rest).map fun (a, b) => (c :: a, b)
  | [] => none

/-- Eight groups; two colons stand for the groups that are missing. -/
def six? (cs : List Char) : Option (List Nat) :=
  match cutGap cs with
  | none => do
      let groups ← groups? cs
      if groups.length = 8 then some groups else none
  | some (front, back) => do
      if front.contains '.' then none
      let front ← groups? front
      let back ← groups? back
      if front.length + back.length ≤ 7 then
        some (front ++ List.replicate (8 - front.length - back.length) 0 ++ back)
      else none

def port? : List Char → Option Nat
  | ':' :: ds => number? 65535 ds
  | _ => none

def parse? (text : String) : Option SocketAddress :=
  match text.toList with
  | '[' :: rest => do
      let inside := rest.takeWhile (· ≠ ']')
      let (address, scope) := Text.cutAt '%' inside
      let groups ← six? address
      let scope ← match scope with
        | none => some 0
        | some ds => number? 4294967295 ds
      let port ← port? ((rest.dropWhile (· ≠ ']')).drop 1)
      some ⟨.six groups scope, port⟩
  | cs => do
      let bytes ← bytes? (cs.takeWhile (· ≠ ':'))
      let port ← port? (cs.dropWhile (· ≠ ':'))
      some ⟨.four bytes, port⟩

def zeroRun : List Nat → Nat
  | 0 :: rest => zeroRun rest + 1
  | _ => 0

def hexText (n : Nat) : String := String.ofList (Nat.toDigits 16 n)

def dotted (bytes : List Nat) : String := String.intercalate "." (bytes.map Text.decimal)

/-- The longest run of at least two zero groups is left out, the first of equal ones. -/
def sixText (groups : List Nat) : String :=
  match groups with
  | [0, 0, 0, 0, 0, 0xFFFF, a, b] =>
      "::ffff:" ++ dotted [a / 256, a % 256, b / 256, b % 256]
  | _ =>
      let runs := (List.range groups.length).map fun i => zeroRun (groups.drop i)
      let longest := runs.foldl max 0
      let text (gs : List Nat) : String := String.intercalate ":" (gs.map hexText)
      if longest < 2 then text groups
      else
        let place := runs.findIdx (· == longest)
        text (groups.take place) ++ "::" ++ text (groups.drop (place + longest))

def text (a : SocketAddress) : String :=
  let host := match a.host with
    | .four bytes => dotted bytes
    | .six groups scope =>
        "[" ++ sixText groups ++ (if scope = 0 then "" else "%" ++ Text.decimal scope) ++ "]"
  host ++ ":" ++ Text.decimal a.port

end SocketAddress

end BatchedGateway
