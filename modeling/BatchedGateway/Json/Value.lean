/- JSON values, members in the order they were first written. -/
import BatchedGateway.Number.Shortest

namespace BatchedGateway

inductive Number
  | int (n : Int)
  | float (x : Binary64)
  deriving DecidableEq, Repr

inductive Json
  | null
  | bool (b : Bool)
  | num (n : Number)
  | str (s : String)
  | arr (items : List Json)
  | obj (members : List (String × Json))
  deriving BEq, Repr, Inhabited

namespace Json

abbrev Members := List (String × Json)

/-- A member already there keeps its place and takes the new value. -/
def Members.put (key : String) (value : Json) : Members → Members
  | [] => [(key, value)]
  | (k, v) :: rest => if k = key then (k, value) :: rest else (k, v) :: Members.put key value rest

def Members.find? (key : String) : Members → Option Json
  | [] => none
  | (k, v) :: rest => if k = key then some v else Members.find? key rest

theorem Members.find?_cons_self (key : String) (value : Json) (ms : Members) :
    find? key ((key, value) :: ms) = some value := if_pos rfl

/-- Members put in one after the other. -/
def Members.ofList (entries : List (String × Json)) : Members :=
  entries.foldl (fun ms e => Members.put e.1 e.2 ms) []

/-- A key that is not there yet goes to the end. -/
theorem Members.put_of_find?_eq_none {key : String} {ms : Members} (value : Json)
    (h : find? key ms = none) : put key value ms = ms ++ [(key, value)] := by
  induction ms with
  | nil => rfl
  | cons m ms ih =>
      by_cases hk : m.1 = key
      · simp [find?, hk] at h
      · simp only [find?, hk, if_false] at h
        simp [put, hk, ih h]

def ofNat (n : Nat) : Json := .num (.int n)

/-- The member of an object; nothing for any other value. -/
def get? : Json → String → Option Json
  | .obj members, key => Members.find? key members
  | _, _ => none

/-- A text, or null. -/
def ofOption : Option String → Json
  | some s => .str s
  | none => .null

/-- A member that is only written when there is a value. -/
def member? (key : String) : Option String → List (String × Json)
  | some s => [(key, .str s)]
  | none => []

def asString? : Json → Option String
  | .str s => some s
  | _ => none

def asArray? : Json → Option (List Json)
  | .arr items => some items
  | _ => none

def asObject? : Json → Option Members
  | .obj members => some members
  | _ => none

end Json

end BatchedGateway
