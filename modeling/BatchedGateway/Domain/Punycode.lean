/- Labels of ASCII characters that stand for others. -/

namespace BatchedGateway.Domain

namespace Punycode

def digit? (c : Char) : Option Nat :=
  if 'a' ≤ c ∧ c ≤ 'z' then some (c.toNat - 97)
  else if 'A' ≤ c ∧ c ≤ 'Z' then some (c.toNat - 65)
  else if '0' ≤ c ∧ c ≤ '9' then some (c.toNat - 22)
  else none

def threshold (k bias : Nat) : Nat :=
  if k ≤ bias then 1 else if bias + 26 ≤ k then 26 else k - bias

def adaptFrom (delta k : Nat) : (fuel : Nat) → Nat
  | 0 => k
  | fuel + 1 =>
      if 455 < delta then adaptFrom (delta / 35) (k + 36) fuel
      else k + 36 * delta / (delta + 38)

def adapt (delta count : Nat) (first : Bool) : Nat :=
  let delta := if first then delta / 700 else delta / 2
  adaptFrom (delta + delta / count) 0 32

/-- Numbers of 32 bits. -/
def limit : Nat := UInt32.size

/-- A number of digits of decreasing room. -/
def readDelta (bias : Nat) : (k weight i : Nat) → List Char → Option (Nat × List Char)
  | _, _, _, [] => none
  | k, weight, i, c :: rest => do
      let d ← digit? c
      let i := i + d * weight
      if limit ≤ i then none
      else
        let t := threshold k bias
        if d < t then some (i, rest)
        else
          let weight := weight * (36 - t)
          if limit ≤ weight then none else readDelta bias (k + 36) weight i rest

/-- Puts in one character after the other. -/
def insertAll : (fuel n i bias : Nat) → (out cs : List Char) → Option (List Char)
  | 0, _, _, _, _, _ => none
  | _, _, _, _, out, [] => some out
  | fuel + 1, n, i, bias, out, cs => do
      let (j, rest) ← readDelta bias 36 1 i cs
      let count := out.length + 1
      let n := n + j / count
      let place := j % count
      if n.isValidChar then
        insertAll fuel n (place + 1) (adapt (j - i) count (i == 0))
          (out.take place ++ Char.ofNat n :: out.drop place) rest
      else none

/-- Everything before the last dash stands for itself. -/
def split (cs : List Char) : List Char × List Char :=
  match cs.reverse.dropWhile (· ≠ '-') with
  | [] => ([], cs)
  | _ :: basic => (basic.reverse, (cs.reverse.takeWhile (· ≠ '-')).reverse)

/-- The longest label that is read. -/
def lengthLimit : Nat := 2000

def decode (cs : List Char) : Option (List Char) :=
  let (basic, rest) := split cs
  if lengthLimit < cs.length ∨ !basic.all (·.toNat < 128) then none
  else insertAll (rest.length + 1) 128 0 72 basic rest

end Punycode

end BatchedGateway.Domain
