/- Double-precision numbers in exact arithmetic. -/

namespace BatchedGateway

/-- The finite number `± significand · 2 ^ exponent`, the significand below `2 ^ 53`.
Below `2 ^ 52` the exponent is `-1074`, so each number but zero is written once. -/
structure Binary64 where
  negative : Bool
  significand : Nat
  exponent : Int
  deriving DecidableEq, Repr

namespace Binary64

def zero (negative : Bool) : Binary64 := ⟨negative, 0, -1074⟩

def isZero (x : Binary64) : Bool := x.significand == 0

/-- As numbers: the two zeros are equal. -/
def same (x y : Binary64) : Bool := x == y || (x.isZero && y.isZero)

/-- To the nearest whole number, a half to the even neighbour. -/
def roundHalfEven (num den : Nat) : Nat :=
  let q := num / den
  let r := num % den
  if 2 * r < den then q
  else if den < 2 * r then q + 1
  else if q % 2 = 0 then q else q + 1

/-- The quotient `num / den` in units of `2 ^ e`, as a fraction. -/
def inUnits (num den : Nat) (e : Int) : Nat × Nat :=
  if 0 ≤ e then (num, den * Nat.pow 2 e.toNat) else (num * Nat.pow 2 (-e).toNat, den)

/-- The nearest double, a tie to the even significand; none past the largest one. -/
def ofRatio (negative : Bool) (num den : Nat) : Option Binary64 :=
  if num = 0 then some (zero negative)
  else
    let guess : Int := (Nat.log2 num : Int) - (Nat.log2 den : Int) - 53
    let (a, b) := inUnits num den guess
    let normal := if a / b < Nat.pow 2 53 then guess else guess + 1
    let e := max normal (-1074)
    let (a, b) := inUnits num den e
    let m := roundHalfEven a b
    let (m, e) := if m = Nat.pow 2 53 then (Nat.pow 2 52, e + 1) else (m, e)
    if e > 971 then none else some ⟨negative, m, e⟩

/-- The magnitude as a fraction. -/
def ratio (x : Binary64) : Nat × Nat :=
  if 0 ≤ x.exponent then (x.significand * Nat.pow 2 x.exponent.toNat, 1)
  else (x.significand, Nat.pow 2 (-x.exponent).toNat)

def mul (x y : Binary64) : Option Binary64 :=
  ofRatio (x.negative != y.negative) (x.ratio.1 * y.ratio.1) (x.ratio.2 * y.ratio.2)

/-- The divisor must not be zero. -/
def div (x y : Binary64) : Option Binary64 :=
  ofRatio (x.negative != y.negative) (x.ratio.1 * y.ratio.2) (x.ratio.2 * y.ratio.1)

/-- The number `digits · 10 ^ scale`, rounded once. -/
def ofDecimal (negative : Bool) (digits : Nat) (scale : Int) : Option Binary64 :=
  let size : Int := Nat.log2 digits / 3 + 1
  if digits = 0 then some (zero negative)
  else if scale > 400 then none
  else if scale + size < -400 then some (zero negative)
  else if 0 ≤ scale then ofRatio negative (digits * Nat.pow 10 scale.toNat) 1
  else ofRatio negative digits (Nat.pow 10 (-scale).toNat)

def powerOfTen (n : Nat) : Binary64 := (ofRatio false (Nat.pow 10 n) 1).getD (zero false)

/-- Moves the decimal point of a double, with one rounding for each step of at most
308 places. -/
def shift (x : Binary64) (scale : Int) : Nat → Option Binary64
  | 0 => some x
  | fuel + 1 =>
      if scale.natAbs ≤ 308 then
        if 0 ≤ scale then x.mul (powerOfTen scale.natAbs) else x.div (powerOfTen scale.natAbs)
      else if x.isZero then some x
      else if 0 ≤ scale then none
      else match x.div (powerOfTen 308) with
        | none => none
        | some y => shift y (scale + 308) fuel

/-- The number `digits · 10 ^ scale`, with one rounding for the digits and one for each
step of the scale. -/
def ofScaledDigits (negative : Bool) (digits : Nat) (scale : Int) : Option Binary64 :=
  match ofRatio negative digits 1 with
  | none => none
  | some x => x.shift scale 8

end Binary64

end BatchedGateway
