/- Printed JSON text is in the grammar of texts, and stands for the value it was printed from. -/
import BatchedGateway.Json.Printer
import BatchedGateway.Json.Reading
import BatchedGateway.Proofs.Json.Spelling

namespace BatchedGateway.Json
open Outcome Written

/-- How a character of a text is printed. -/
def Mark.of (c : Char) : Mark :=
  match c with
  | '"' => .short '"'
  | '\\' => .short '\\'
  | '\x08' => .short '\x08'
  | '\x0c' => .short '\x0c'
  | '\n' => .short '\n'
  | '\r' => .short '\r'
  | '\t' => .short '\t'
  | c => if c.toNat < 32 then .unit c.toNat else .raw c

def marksOf (s : String) : List Mark := s.toList.map Mark.of

theorem hexValue?_hexDigit : ∀ n < 16, hexValue? (hexDigit n) = some n := by decide

theorem hex4?_escape {n : Nat} (h : n < 32) (cs : List Char) :
    hex4? ('0' :: '0' :: hexDigit (n / 16) :: hexDigit (n % 16) :: cs) = some (n, cs) := by
  have hzero : hexValue? '0' = some 0 := rfl
  have hhigh := hexValue?_hexDigit (n / 16) (by omega)
  have hlow := hexValue?_hexDigit (n % 16) (by omega)
  have hsum : n / 16 * 16 + n % 16 = n := by omega
  simp [hex4?, hzero, hhigh, hlow, hsum]

section Marks

variable {cs rest : List Char} {marks : List Mark} (h : readMarks cs = .ok (marks, rest))
include h

theorem readMarks_unit {n : Nat} (hn : n < 32) :
    readMarks ('\\' :: 'u' :: '0' :: '0' :: hexDigit (n / 16) :: hexDigit (n % 16) :: cs) =
      .ok (.unit n :: marks, rest) := by
  rw [readMarks]
  split
  · rename_i hnone
    rw [hex4?_escape hn] at hnone
    cases hnone
  · rename_i hsome
    rw [hex4?_escape hn] at hsome
    cases hsome
    rw [h, ok_bind]

theorem readMarks_raw {c : Char} (hquote : c ≠ '"') (hbackslash : c ≠ '\\')
    (hc : ¬ c.toNat < 32) : readMarks (c :: cs) = .ok (.raw c :: marks, rest) := by
  rw [readMarks, if_neg hc, h, ok_bind]
  · exact hquote
  · exact fun _ heq => absurd heq hbackslash
  · exact fun _ _ heq => absurd heq hbackslash
  · exact fun heq => absurd heq hbackslash

theorem readMarks_escape (c : Char) :
    readMarks (escape c ++ cs) = .ok (Mark.of c :: marks, rest) := by
  unfold escape
  split
  case h_8 hquote hbackslash _ _ _ _ _ =>
    rw [Mark.of]
    · split
      · rename_i hlow
        exact readMarks_unit h hlow
      · rename_i hhigh
        exact readMarks_raw h hquote hbackslash hhigh
    all_goals assumption
  all_goals
    simp only [List.cons_append, List.nil_append]
    rw [readMarks]
    · simp [shortEscape?, h, Mark.of]
    · simp

end Marks

theorem readMarks_flatMap_escape (cs rest : List Char) :
    readMarks (cs.flatMap escape ++ '"' :: rest) = .ok (cs.map Mark.of, rest) := by
  induction cs with
  | nil => rw [List.flatMap_nil, List.nil_append, readMarks, List.map_nil]
  | cons c cs ih =>
      rw [List.flatMap_cons, List.append_assoc, List.map_cons]
      exact readMarks_escape ih c

theorem Mark.text?_of_cons {marks : List Mark} {text : List Char}
    (h : Mark.text? marks = .ok text) (c : Char) :
    Mark.text? (Mark.of c :: marks) = .ok (c :: text) := by
  unfold Mark.of
  split
  case h_8 =>
    split
    · rename_i hlow
      have hsmall : c.toNat < 0xD800 ∨ 0xDFFF < c.toNat := by omega
      rw [Mark.text?.eq_def]
      simp only [if_pos hsmall, h, ok_bind, Char.ofNat_toNat]
    · simp [Mark.text?, h]
  all_goals simp [Mark.text?, h]

/-- The marks of a printed text stand for the text. -/
@[simp] theorem Mark.string?_marksOf (s : String) : Mark.string? (marksOf s) = .ok s := by
  have htext : ∀ cs : List Char, Mark.text? (cs.map Mark.of) = .ok cs := by
    intro cs
    induction cs with
    | nil => rfl
    | cons c cs ih => exact Mark.text?_of_cons ih c
  simp [Mark.string?, marksOf, htext]

theorem head?_toDigits {n : Nat} (h : (Nat.toDigits 10 n).head? = some '0') : n = 0 := by
  induction n using Nat.strongRecOn with
  | ind n ih =>
      by_cases hn : n < 10
      · rw [Nat.toDigits_of_lt_base hn] at h
        have hsmall : ∀ k < 10, [k.digitChar].head? = some '0' → k = 0 := by decide
        exact hsmall n hn h
      · have hlarge : 10 ≤ n := by omega
        obtain ⟨d, more, hd⟩ := List.exists_cons_of_ne_nil (@Nat.toDigits_ne_nil (n / 10) 10)
        rw [Nat.toDigits_of_base_le (by decide) hlarge, hd, List.cons_append] at h
        have hzero := ih (n / 10) (by omega) (by rw [hd]; exact h)
        omega

theorem isWhole_toDigits (n : Nat) : IsWhole (Nat.toDigits 10 n) where
  ne_nil := Nat.toDigits_ne_nil
  isDigit := fun _ hc => Nat.isDigit_of_mem_toDigits (by decide) (by decide) hc
  zero_alone := by
    intro h
    rw [head?_toDigits h, Nat.toDigits_zero]

mutual
/-- No number of the value is a double. -/
def Integral : Json → Prop
  | .num (.float _) => False
  | .arr items => IntegralItems items
  | .obj members => IntegralMembers members
  | _ => True

def IntegralItems : List Json → Prop
  | [] => True
  | v :: rest => Integral v ∧ IntegralItems rest

def IntegralMembers : List (String × Json) → Prop
  | [] => True
  | (_, v) :: rest => Integral v ∧ IntegralMembers rest
end

mutual
/-- What is read from the text of a value; doubles have no reading here. -/
def written : Json → Written
  | .null => .null
  | .bool b => .bool b
  | .num (.int n) => .numeral ⟨n < 0, Nat.toDigits 10 n.natAbs, none, none⟩
  | .num (.float _) => .null
  | .str s => .string (marksOf s)
  | .arr items => .array (writtenItems items)
  | .obj members => .object (writtenMembers members)

def writtenItems : List Json → List Written
  | [] => []
  | v :: rest => written v :: writtenItems rest

def writtenMembers : List (String × Json) → List (List Mark × Written)
  | [] => []
  | (k, v) :: rest => (marksOf k, written v) :: writtenMembers rest
end

/-- Nothing that goes on a number stands behind a value in a printed text. -/
theorem endsNumeral_cons {c : Char} (rest : List Char)
    (h : c.isDigit = false ∧ c ≠ '.' ∧ c ≠ 'e' ∧ c ≠ 'E') : EndsNumeral (c :: rest) := by
  intro d hd
  cases hd
  exact h

theorem endsNumeral_nil : EndsNumeral [] := by
  intro c hc
  cases hc

theorem skipSpace_signed {negative : Bool} {ds : List Char} (h : IsWhole ds) (rest : List Char) :
    skipSpace (signed negative ds ++ rest) = signed negative ds ++ rest := by
  obtain ⟨d, more, rfl, hd⟩ := h.head
  have hspace : isSpace d = false := by
    cases hs : isSpace d with
    | false => rfl
    | true =>
        simp only [isSpace, Bool.or_eq_true, decide_eq_true_eq] at hs
        rcases hs with ((rfl | rfl) | rfl) | rfl <;> exact absurd hd (by decide)
  cases negative with
  | true => rfl
  | false => simp [signed, skipSpace, hspace]

theorem spells_int (n : Int) {rest : List Char} (h : EndsNumeral rest) :
    Spells (numberChars (.int n) ++ rest) (written (.num (.int n))) rest := by
  have hds := isWhole_toDigits n.natAbs
  have hchars : numberChars (.int n) = signed (decide (n < 0)) (Nat.toDigits 10 n.natAbs) := by
    by_cases hn : n < 0 <;> simp [numberChars, signed, hn]
  rw [hchars]
  exact .whole _ (skipSpace_signed hds rest) hds h

theorem quoted_append (s : String) (rest : List Char) :
    quoted s ++ rest = '"' :: (s.toList.flatMap escape ++ '"' :: rest) := by
  simp [quoted]

theorem spells_quoted (s : String) (rest : List Char) :
    Spells (quoted s ++ rest) (.string (marksOf s)) rest := by
  rw [quoted_append]
  exact .string rfl (readMarks_flatMap_escape s.toList rest)

mutual
theorem spells_compact : ∀ (v : Json) (rest : List Char), Integral v → EndsNumeral rest →
    Spells (compactChars v ++ rest) (written v) rest
  | .null, rest, _, _ => .null rfl
  | .bool true, rest, _, _ => .true rfl
  | .bool false, rest, _, _ => .false rfl
  | .num (.int n), rest, _, h => spells_int n h
  | .str s, rest, _, _ => spells_quoted s rest
  | .arr [], rest, _, _ => .noItems rfl rfl
  | .arr (v :: items), rest, hv, _ => by
      rw [compactChars, List.cons_append, List.cons_append, List.append_assoc]
      exact .array rfl (spells_compactItems (v :: items) rest hv (List.cons_ne_nil _ _))
  | .obj [], rest, _, _ => .noMembers rfl rfl
  | .obj (m :: members), rest, hv, _ => by
      rw [compactChars, List.cons_append, List.cons_append, List.append_assoc]
      exact .object rfl (spells_compactMembers (m :: members) rest hv (List.cons_ne_nil _ _))

theorem spells_compactItems : ∀ (items : List Json) (rest : List Char), IntegralItems items →
    items ≠ [] → SpellsItems (compactItems items ++ ([']'] ++ rest)) (writtenItems items) rest
  | [], _, _, h => absurd rfl h
  | [v], rest, hv, _ =>
      .lastItem (spells_compact v _ hv.1 (endsNumeral_cons _ (by decide))) rfl
  | v :: w :: items, rest, hv, _ => by
      rw [compactItems, List.append_assoc]
      exact .moreItems (spells_compact v _ hv.1 (endsNumeral_cons _ (by decide))) rfl
        (spells_compactItems (w :: items) rest hv.2 (List.cons_ne_nil _ _))

theorem spells_compactMembers : ∀ (members : List (String × Json)) (rest : List Char),
    IntegralMembers members → members ≠ [] →
    SpellsMembers (compactMembers members ++ (['\x7d'] ++ rest)) (writtenMembers members) rest
  | [], _, _, h => absurd rfl h
  | [(k, v)], rest, hv, _ => by
      rw [compactMembers, List.append_assoc, List.cons_append, quoted_append]
      exact .lastMember rfl (readMarks_flatMap_escape k.toList _) rfl
        (spells_compact v _ hv.1 (endsNumeral_cons _ (by decide))) rfl
  | (k, v) :: m :: members, rest, hv, _ => by
      rw [compactMembers, List.append_assoc, List.append_assoc, List.cons_append,
        List.cons_append, quoted_append]
      exact .moreMembers rfl (readMarks_flatMap_escape k.toList _) rfl
        (spells_compact v _ hv.1 (endsNumeral_cons _ (by decide))) rfl
        (spells_compactMembers (m :: members) rest hv.2 (List.cons_ne_nil _ _))
end

/-- Printing and reading gives the marks of the value back. -/
theorem read_compact {v : Json} (hv : Integral v) : Written.read v.compact = .ok (written v) := by
  have h := spells_compact v [] hv endsNumeral_nil
  rw [List.append_nil] at h
  have hchars : v.compact.toList = compactChars v := String.toList_ofList
  rw [← hchars] at h
  exact h.read rfl

end BatchedGateway.Json
