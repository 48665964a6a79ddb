/- The decimal text of a double: the fewest digits that read back. -/
import BatchedGateway.Number.Binary64

namespace BatchedGateway.Binary64

/-- The fraction `10 ^ k / 2 ^ e`. -/
def decimalUnit (k e : Int) : Nat × Nat :=
  (Nat.pow 10 k.toNat * Nat.pow 2 (-e).toNat, Nat.pow 10 (-k).toNat * Nat.pow 2 e.toNat)

/-- The point of the grid `10 ^ k` that reads back as the number, if there is one: of two
the nearer, and of two equally near the even one. -/
def gridPoint (m : Nat) (e k : Int) : Option Nat :=
  let low := if m = Nat.pow 2 52 ∧ -1074 < e then 4 * m - 1 else 4 * m - 2
  let high := 4 * m + 2
  let (p, q) := decimalUnit k (e - 2)
  let fits (c : Nat) : Bool :=
    if m % 2 = 0 then low * q ≤ c * p && c * p ≤ high * q
    else low * q < c * p && c * p < high * q
  let c := 4 * m * q / p
  match fits c, fits (c + 1) with
  | false, false => none
  | true, false => some c
  | false, true => some (c + 1)
  | true, true =>
      let below := 4 * m * q - c * p
      let above := (c + 1) * p - 4 * m * q
      if below < above then some c
      else if above < below then some (c + 1)
      else if c % 2 = 0 then some c else some (c + 1)

def firstGrid (m : Nat) (e k : Int) : Nat → Nat × Int
  | 0 => (m, k)
  | fuel + 1 =>
      match gridPoint m e k with
      | some c => (c, k)
      | none => firstGrid m e (k - 1) fuel

/-- Digits and decimal exponent of a number that is not zero, on the coarsest decimal grid
that has a point reading back as it. -/
def shortest (x : Binary64) : Nat × Int :=
  let top : Int := ((Nat.log2 x.significand : Int) + x.exponent) * 30103 / 100000 + 1
  firstGrid x.significand x.exponent top 24

def zeros (n : Nat) : List Char := List.replicate n '0'

/-- Positional while the decimal exponent is from -5 to 15, else with a signed exponent. -/
def textOf (digits : List Char) (scale : Int) : List Char :=
  let point := (digits.length : Int) + scale
  if 0 ≤ scale ∧ point ≤ 16 then digits ++ zeros scale.toNat ++ ['.', '0']
  else if 0 < point ∧ point ≤ 16 then
    digits.take point.toNat ++ '.' :: digits.drop point.toNat
  else if -5 < point ∧ point ≤ 0 then '0' :: '.' :: zeros (-point).toNat ++ digits
  else
    let mantissa := match digits with
      | d :: [] => [d]
      | d :: rest => d :: '.' :: rest
      | [] => []
    let power := point - 1
    mantissa ++ 'e' :: (if power < 0 then '-' else '+') :: Nat.toDigits 10 power.natAbs

def text (x : Binary64) : String :=
  let magnitude :=
    if x.isZero then ['0', '.', '0']
    else
      let (digits, scale) := x.shortest
      textOf (Nat.toDigits 10 digits) scale
  String.ofList (if x.negative then '-' :: magnitude else magnitude)

end BatchedGateway.Binary64
