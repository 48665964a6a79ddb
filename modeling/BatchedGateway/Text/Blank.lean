/- Blank characters and the trimming built on them. -/

namespace BatchedGateway.Text

/-- The Unicode property `White_Space`. -/
def isBlank (c : Char) : Bool :=
  let n := c.toNat
  (9 ≤ n && n ≤ 13) || n == 0x20 || n == 0x85 || n == 0xA0 || n == 0x1680 ||
    (0x2000 ≤ n && n ≤ 0x200A) || n == 0x2028 || n == 0x2029 || n == 0x202F ||
    n == 0x205F || n == 0x3000

def dropBlanks (cs : List Char) : List Char :=
  cs.dropWhile isBlank

def trim (s : String) : String :=
  String.ofList (dropBlanks (dropBlanks s.toList).reverse).reverse

/-- Nothing but blanks. -/
def blank (s : String) : Bool :=
  s.toList.all isBlank

/-- The first character that is not blank. -/
def firstInk (s : String) : Option Char :=
  (dropBlanks s.toList).head?

theorem dropBlanks_eq_nil {cs : List Char} : dropBlanks cs = [] ↔ cs.all isBlank := by
  induction cs with
  | nil => simp [dropBlanks]
  | cons c cs ih =>
      by_cases h : isBlank c = true
      · rw [dropBlanks, List.dropWhile_cons_of_pos h, List.all_cons, h, Bool.true_and]
        exact ih
      · simp [dropBlanks, h]

end BatchedGateway.Text
