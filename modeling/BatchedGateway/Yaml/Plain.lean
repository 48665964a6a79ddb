/- What plain text means: null, truth values and numbers. -/
import BatchedGateway.Json.Value
import BatchedGateway.Json.Reading
import BatchedGateway.Yaml.Spot
import BatchedGateway.Text.Pieces

namespace BatchedGateway.Yaml

/-- Numbers; the infinite ones and the missing one are no numbers of JSON. -/
inductive Quantity
  | finite (n : Number)
  | infinity (negative : Bool)
  | undefined
  deriving DecidableEq, Repr

namespace Plain

def isNull (s : String) : Bool := s = "null" || s = "Null" || s = "NULL" || s = "~"

def bool? (s : String) : Option Bool :=
  if s = "true" || s = "True" || s = "TRUE" then some true
  else if s = "false" || s = "False" || s = "FALSE" then some false
  else none

def digitOf? (base : Nat) (c : Char) : Option Nat :=
  let d := if c.isDigit then c.toNat - 48
    else if 'a' ≤ c ∧ c ≤ 'f' then c.toNat - 87
    else if 'A' ≤ c ∧ c ≤ 'F' then c.toNat - 55
    else base
  if d < base then some d else none

/-- A number without sign: at least one digit, all of them of the base. -/
def magnitude? (base : Nat) (cs : List Char) : Option Nat :=
  if cs = [] then none else cs.foldlM (fun n c => (digitOf? base c).map (n * base + ·)) 0

/-- Digits after a leading zero are text. -/
def zeroLed (cs : List Char) : Bool :=
  match cs with
  | '0' :: d :: rest => (d :: rest).all Char.isDigit
  | _ => false

/-- The whole number after its sign. -/
def whole? (cs : List Char) : Option Nat :=
  match cs with
  | '0' :: 'x' :: rest => magnitude? 16 rest
  | '0' :: 'o' :: rest => magnitude? 8 rest
  | '0' :: 'b' :: rest => magnitude? 2 rest
  | _ => if zeroLed cs then none else magnitude? 10 cs

inductive Whole
  | fits (n : Int)
  | tooLarge
  | no

/-- A whole number of 64 bits; one of 128 bits cannot be represented, a larger one is none. -/
def wholeOf (s : String) : Whole :=
  match s.toList with
  | '-' :: cs =>
      match whole? cs with
      | some n =>
          if n ≤ Nat.pow 2 63 then .fits (-(n : Int))
          else if n ≤ Nat.pow 2 127 then .tooLarge else .no
      | none => .no
  | cs =>
      let cs := match cs with
        | '+' :: rest => rest
        | _ => cs
      match whole? cs with
      | some n => if n < UInt64.size then .fits n else if n < Nat.pow 2 128 then .tooLarge else .no
      | none => .no

/-- A number of 64 bits without sign. -/
def nat64? (s : String) : Option Nat :=
  match s.toList with
  | '-' :: _ => none
  | _ => match wholeOf s with
    | .fits n => some n.toNat
    | _ => none

def splitDigits (cs : List Char) : List Char × List Char :=
  (cs.takeWhile Char.isDigit, cs.dropWhile Char.isDigit)

/-- The power of ten after the digits, if nothing else follows. -/
def power? : List Char → Option Int
  | [] => some 0
  | e :: cs =>
      if e = 'e' ∨ e = 'E' then
        let (negative, cs) := match cs with
          | '-' :: rest => (true, rest)
          | '+' :: rest => (false, rest)
          | cs => (false, cs)
        match splitDigits cs with
        | (d :: ds, []) =>
            let n : Int := Nat.ofDigitChars 10 (d :: ds) 0
            some (if negative then -n else n)
        | _ => none
      else none

/-- A decimal fraction with digits on at least one side of its point. -/
def fraction? (negative : Bool) (cs : List Char) : Option Binary64 :=
  let (whole, rest) := splitDigits cs
  let (part, rest) := match rest with
    | '.' :: rest => splitDigits rest
    | rest => ([], rest)
  if whole = [] ∧ part = [] then none
  else do
    let power ← power? rest
    Binary64.ofDecimal negative (Nat.ofDigitChars 10 (whole ++ part) 0) (power - part.length)

def isInfinity (s : String) : Bool := s = ".inf" || s = ".Inf" || s = ".INF"

/-- A number with a fraction, a power or a name. One too large to be finite is none. -/
def float? (s : String) : Option Quantity :=
  let unsigned := match s.toList with
    | '+' :: rest => rest
    | cs => cs
  if isInfinity (String.ofList unsigned) then some (.infinity false)
  else if s = "-.inf" || s = "-.Inf" || s = "-.INF" then some (.infinity true)
  else if s = ".nan" || s = ".NaN" || s = ".NAN" then some .undefined
  else
    let parsed := match s.toList, unsigned with
      | '+' :: _, '-' :: _ => none
      | _, '-' :: cs => fraction? true cs
      | _, cs => fraction? false cs
    parsed.map fun x => .finite (.float x)

end Plain

end BatchedGateway.Yaml
