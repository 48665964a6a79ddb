/- From JSON as written to JSON values. -/
import BatchedGateway.Json.Written

namespace BatchedGateway.Json

/-- The character of a surrogate pair. -/
def pairChar (high low : Nat) : Char :=
  Char.ofNat (0x10000 + (high - 0xD800) * 0x400 + (low - 0xDC00))

/-- The text that the marks stand for; escaped surrogates have to come in pairs. -/
def Mark.text? : List Mark → Except Fault (List Char)
  | [] => .ok []
  | .raw c :: rest => do .ok (c :: (← Mark.text? rest))
  | .short c :: rest => do .ok (c :: (← Mark.text? rest))
  | .unit n :: rest =>
      if n < 0xD800 ∨ 0xDFFF < n then do .ok (Char.ofNat n :: (← Mark.text? rest))
      else if 0xDC00 ≤ n then .error .loneSurrogate
      else match rest with
        | .unit m :: rest =>
            if 0xDC00 ≤ m ∧ m ≤ 0xDFFF then do .ok (pairChar n m :: (← Mark.text? rest))
            else .error .loneSurrogate
        | _ => .error .loneSurrogate

def Mark.string? (marks : List Mark) : Except Fault String := do
  .ok (String.ofList (← Mark.text? marks))

/-- Numbers of 64 bits stay whole. -/
def maxNat64 : Nat := 18446744073709551615

def digitValue (c : Char) : Nat := c.toNat - 48

/-- Digits are taken in while they fit 64 bits; `dropped` counts the others. -/
def takeDigits (start : Nat) (ds : List Char) : Nat × Nat :=
  match ds with
  | [] => (start, 0)
  | d :: rest =>
      if start * 10 + digitValue d ≤ maxNat64 then takeDigits (start * 10 + digitValue d) rest
      else (start, rest.length + 1)

def Numeral.float? (n : Numeral) : Except Fault Number :=
  let (whole, dropped) := takeDigits 0 n.whole
  let (digits, scale) : Nat × Int := match n.fraction with
    | none => (whole, dropped)
    | some ds =>
        let (all, skipped) := takeDigits whole ds
        (all, (dropped : Int) - ((ds.length : Int) - skipped))
  let result := match n.power with
    | none => Binary64.ofScaledDigits n.negative digits scale
    | some (down, ds) =>
        let power := Nat.ofDigitChars 10 ds 0
        if power ≤ 2147483647 then
          Binary64.ofScaledDigits n.negative digits (if down then scale - power else scale + power)
        else if digits = 0 ∨ down then some (Binary64.zero n.negative)
        else none
  match result with
  | none => .error .outOfRange
  | some x => .ok (.float x)

/-- A numeral without fraction and power is a whole number if it fits 64 bits, signed when
it is negative; the negative zero and everything else is a double. -/
def Numeral.number? (n : Numeral) : Except Fault Number :=
  match n.fraction, n.power with
  | none, none =>
      let value := Nat.ofDigitChars 10 n.whole 0
      if n.negative then
        if 0 < value ∧ value ≤ Nat.pow 2 63 then .ok (.int (-(value : Int))) else n.float?
      else if value ≤ maxNat64 then .ok (.int value)
      else n.float?
  | _, _ => n.float?

mutual
/-- `room` is how many more levels of nesting are allowed. -/
def Written.toJson? : Nat → Written → Except Fault Json
  | _, .null => .ok .null
  | _, .bool b => .ok (.bool b)
  | _, .numeral n => do .ok (.num (← n.number?))
  | _, .string marks => do .ok (.str (← Mark.string? marks))
  | 0, .array _ => .error .tooDeep
  | 0, .object _ => .error .tooDeep
  | room + 1, .array items => do .ok (.arr (← Written.toItems? room items))
  | room + 1, .object members => do
      .ok (.obj (Members.ofList (← Written.toMembers? room members)))

def Written.toItems? (room : Nat) : List Written → Except Fault (List Json)
  | [] => .ok []
  | w :: rest => do .ok ((← Written.toJson? room w) :: (← Written.toItems? room rest))

def Written.toMembers? (room : Nat) :
    List (List Mark × Written) → Except Fault (List (String × Json))
  | [] => .ok []
  | (key, w) :: rest => do
      let key ← Mark.string? key
      let value ← Written.toJson? room w
      .ok ((key, value) :: (← Written.toMembers? room rest))
end

/-- Arrays and objects may be nested this deep. -/
def depthLimit : Nat := 127

/-- Reads JSON text. -/
def parse (text : String) : Except Fault Json := do
  (← Written.read text).toJson? depthLimit

end BatchedGateway.Json
