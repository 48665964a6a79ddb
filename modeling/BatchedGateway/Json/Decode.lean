/- Typed reading of JSON as written: records, tables and plain values. -/
import BatchedGateway.Json.Reading
import BatchedGateway.Sorted

namespace BatchedGateway.Json

abbrev Decoder (α : Type) := Written → Except Fault α

namespace Decoder

def string : Decoder String
  | .string marks => Mark.string? marks
  | _ => .error .wrongShape

def bool : Decoder Bool
  | .bool b => .ok b
  | _ => .error .wrongShape

/-- A whole number of 64 bits; `1.0` and `-0` are none. -/
def nat64 : Decoder Nat
  | .numeral n => do
      match ← n.number? with
      | .int (.ofNat k) => if k ≤ maxNat64 then .ok k else .error .outOfRange
      | _ => .error .wrongShape
  | _ => .error .wrongShape

def list {α : Type} (item : Decoder α) : Decoder (List α)
  | .array items => items.mapM item
  | _ => .error .wrongShape

def optional {α : Type} (value : Decoder α) : Decoder (Option α)
  | .null => .ok none
  | w => do .ok (some (← value w))

/-- Of a repeated key the last value counts. -/
def tableByName {α : Type} (value : Decoder α) : Decoder (SortedMap String α)
  | .object members => do
      let entries ← members.mapM fun (key, w) => do .ok ((← Mark.string? key), (← value w))
      .ok (SortedMap.ofList entries)
  | _ => .error .wrongShape

def rawChars? : List Mark → Option (List Char)
  | [] => some []
  | .raw c :: rest => (rawChars? rest).map (c :: ·)
  | _ => none

/-- A key that is a plain decimal number: no sign, no leading zero, no escape. -/
def numberKey? (marks : List Mark) : Except Fault Nat :=
  match rawChars? marks with
  | none | some [] => .error .wrongShape
  | some (c :: cs) =>
      if (c :: cs).all Char.isDigit ∧ (c ≠ '0' ∨ cs = []) then
        let n := Nat.ofDigitChars 10 (c :: cs) 0
        if n ≤ maxNat64 then .ok n else .error .outOfRange
      else .error .wrongShape

def tableByNumber {α : Type} (value : Decoder α) : Decoder (SortedMap Nat α)
  | .object members => do
      let entries ← members.mapM fun (key, w) => do .ok ((← numberKey? key), (← value w))
      .ok (SortedMap.ofList entries)
  | _ => .error .wrongShape

/-- One of some names, alone or as the only key of an object whose value is null. -/
def oneOf {α : Type} (names : List (String × α)) : Decoder α := fun w => do
  let name ← match w with
    | .string marks => Mark.string? marks
    | .object [(key, .null)] => Mark.string? key
    | _ => .error .wrongShape
  match names.lookup name with
  | some a => .ok a
  | none => .error .wrongShape

end Decoder

/-- What a record holds for one of its fields. An array gives the fields in their order,
without names. -/
inductive Slot
  | present (w : Written)
  | unnamed
  | missing

namespace Slot

def required {α : Type} (value : Decoder α) : Slot → Except Fault α
  | present w => value w
  | _ => .error .wrongShape

def orElse {α : Type} (fallback : α) (value : Decoder α) : Slot → Except Fault α
  | present w => value w
  | _ => .ok fallback

/-- A field that an object may leave out, but not an array. -/
def optional {α : Type} (value : Decoder α) : Slot → Except Fault (Option α)
  | present w => Decoder.optional value w
  | unnamed => .error .wrongShape
  | missing => .ok none

end Slot

/-- The members of one name; a repeated one is a fault. -/
def slotOf (name : String) : List (String × Written) → Except Fault Slot
  | [] => .ok .missing
  | (key, w) :: rest =>
      if key = name then
        if rest.any (·.1 == name) then .error .wrongShape else .ok (.present w)
      else slotOf name rest

def positions : List String → List Written → Except Fault (List Slot)
  | [], [] => .ok []
  | [], _ :: _ => .error .wrongShape
  | _ :: names, [] => do .ok (.unnamed :: (← positions names []))
  | _ :: names, w :: rest => do .ok (.present w :: (← positions names rest))

/-- The fields of a record, in the order of `names`. Other members are passed over. -/
def fields (names : List String) : Written → Except Fault (List Slot)
  | .object members => do
      let named ← members.mapM fun (key, w) => do .ok ((← Mark.string? key), w)
      names.mapM fun name => slotOf name named
  | .array items => positions names items
  | _ => .error .wrongShape

/-- Reads JSON text as a value of some type. -/
def decode {α : Type} (value : Decoder α) (text : String) : Except Fault α := do
  value (← Written.read text)

end BatchedGateway.Json
