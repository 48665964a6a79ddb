/- Numbers and bytes as text: digits in base ten, UTF-8, and percent signs with two hexadecimal
digits. -/

namespace BatchedGateway.Text

/-- A number in base ten. -/
def decimal (n : Nat) : String := String.ofList (Nat.toDigits 10 n)

def toBytes (s : String) : List UInt8 :=
  s.toUTF8.data.toList

/-- Refuses bytes that are not well-formed UTF-8. -/
def ofBytes? (bytes : List UInt8) : Option String :=
  String.fromUTF8? ⟨bytes.toArray⟩

theorem ofBytes?_toBytes (s : String) : ofBytes? (toBytes s) = some s := by
  simp only [ofBytes?, toBytes, String.fromUTF8?, Array.toArray_toList]
  exact dif_pos s.isValidUTF8

theorem toBytes_ofBytes? {bytes : List UInt8} {s : String} (h : ofBytes? bytes = some s) :
    toBytes s = bytes := by
  simp only [ofBytes?, String.fromUTF8?] at h
  split at h
  · cases h; rfl
  · cases h

def hexValue? (c : Char) : Option Nat :=
  if '0' ≤ c ∧ c ≤ '9' then some (c.toNat - 48)
  else if 'a' ≤ c ∧ c ≤ 'f' then some (c.toNat - 87)
  else if 'A' ≤ c ∧ c ≤ 'F' then some (c.toNat - 55)
  else none

def hexByte? (a b : Char) : Option UInt8 := do
  some (UInt8.ofNat ((← hexValue? a) * 16 + (← hexValue? b)))

/-- A percent sign without two digits after it stands for itself. -/
def percentDecode : List Char → List UInt8
  | '%' :: a :: b :: rest =>
      match hexByte? a b with
      | some byte => byte :: percentDecode rest
      | none => toBytes "%" ++ percentDecode (a :: b :: rest)
  | c :: rest => toBytes (String.singleton c) ++ percentDecode rest
  | [] => []

end BatchedGateway.Text
