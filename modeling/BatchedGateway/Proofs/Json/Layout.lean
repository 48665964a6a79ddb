/- Printed JSON text in both of its layouts: each is in the grammar of texts, stands for the value
it was printed from, and may have blanks in front. -/
import BatchedGateway.Json.Decode
import BatchedGateway.Proofs.Json.Printing

namespace BatchedGateway.Json
open Written

namespace Written

variable {blanks cs rest : List Char}

theorem skipSpace_append (h : blanks.all isSpace) (cs : List Char) :
    skipSpace (blanks ++ cs) = skipSpace cs := by
  rw [skipSpace, List.dropWhile_append_of_pos (List.all_eq_true.mp h), skipSpace]

/-- Only what comes after blanks counts. -/
theorem Spells.of_skipSpace {cs' : List Char} {w : Written} (h : Spells cs w rest)
    (hcs : skipSpace cs' = skipSpace cs) : Spells cs' w rest := by
  cases h with
  | null h => exact .null (hcs.trans h)
  | true h => exact .true (hcs.trans h)
  | false h => exact .false (hcs.trans h)
  | whole negative h hds hrest => exact .whole negative (hcs.trans h) hds hrest
  | string h hmarks => exact .string (hcs.trans h) hmarks
  | noItems h hclose => exact .noItems (hcs.trans h) hclose
  | array h hitems => exact .array (hcs.trans h) hitems
  | noMembers h hclose => exact .noMembers (hcs.trans h) hclose
  | object h hmembers => exact .object (hcs.trans h) hmembers

theorem Spells.after_blanks {w : Written} (h : Spells cs w rest) (hblanks : blanks.all isSpace) :
    Spells (blanks ++ cs) w rest := h.of_skipSpace (skipSpace_append hblanks cs)

end Written

theorem isSpace_indent (depth : Nat) : (indent depth).all isSpace := by
  simp [indent, isSpace]

theorem endsNumeral_indent (depth : Nat) (rest : List Char) :
    EndsNumeral (indent depth ++ rest) := endsNumeral_cons _ (by decide)

mutual
theorem spells_pretty : ∀ (depth : Nat) (v : Json) (rest : List Char), Integral v →
    EndsNumeral rest → Spells (prettyChars depth v ++ rest) (written v) rest
  | _, .null, rest, _, _ => .null rfl
  | _, .bool true, rest, _, _ => .true rfl
  | _, .bool false, rest, _, _ => .false rfl
  | _, .num (.int n), rest, _, h => spells_int n h
  | _, .str s, rest, _, _ => spells_quoted s rest
  | _, .arr [], rest, _, _ => .noItems rfl rfl
  | depth, .arr (v :: items), rest, hv, _ => by
      rw [prettyChars, List.cons_append, List.cons_append, List.cons_append, List.append_assoc,
        List.append_assoc]
      exact .array rfl (spells_prettyItems depth (v :: items) rest hv (List.cons_ne_nil _ _))
  | _, .obj [], rest, _, _ => .noMembers rfl rfl
  | depth, .obj (m :: members), rest, hv, _ => by
      rw [prettyChars, List.cons_append, List.cons_append, List.cons_append, List.append_assoc,
        List.append_assoc]
      exact .object rfl
        (spells_prettyMembers depth (m :: members) rest hv (List.cons_ne_nil _ _))

/-- The closing bracket stands on a line of its own. -/
theorem spells_prettyItems : ∀ (depth : Nat) (items : List Json) (rest : List Char),
    IntegralItems items → items ≠ [] →
    SpellsItems (prettyItems (depth + 1) items ++ (indent depth ++ ([']'] ++ rest)))
      (writtenItems items) rest
  | _, [], _, _, h => absurd rfl h
  | depth, [v], rest, hv, _ => by
      rw [prettyItems, List.append_assoc]
      exact .lastItem
        ((spells_pretty _ v _ hv.1 (endsNumeral_indent depth _)).after_blanks (isSpace_indent _))
        (skipSpace_append (isSpace_indent depth) _)
  | depth, v :: w :: items, rest, hv, _ => by
      rw [prettyItems, List.append_assoc, List.append_assoc]
      exact .moreItems
        ((spells_pretty _ v _ hv.1 (endsNumeral_cons _ (by decide))).after_blanks
          (isSpace_indent _)) rfl
        (spells_prettyItems depth (w :: items) rest hv.2 (List.cons_ne_nil _ _))

theorem spells_prettyMembers : ∀ (depth : Nat) (members : List (String × Json))
    (rest : List Char), IntegralMembers members → members ≠ [] →
    SpellsMembers (prettyMembers (depth + 1) members ++ (indent depth ++ (['\x7d'] ++ rest)))
      (writtenMembers members) rest
  | _, [], _, _, h => absurd rfl h
  | depth, [(k, v)], rest, hv, _ => by
      rw [prettyMembers, List.append_assoc, List.append_assoc, List.cons_append, List.cons_append,
        quoted_append]
      exact .lastMember (skipSpace_append (isSpace_indent _) _)
        (readMarks_flatMap_escape k.toList _) rfl
        ((spells_pretty _ v _ hv.1 (endsNumeral_indent depth _)).of_skipSpace rfl)
        (skipSpace_append (isSpace_indent depth) _)
  | depth, (k, v) :: m :: members, rest, hv, _ => by
      rw [prettyMembers, List.append_assoc, List.append_assoc, List.append_assoc, List.cons_append,
        List.cons_append, List.cons_append, quoted_append]
      exact .moreMembers (skipSpace_append (isSpace_indent _) _)
        (readMarks_flatMap_escape k.toList _) rfl
        ((spells_pretty _ v _ hv.1 (endsNumeral_cons _ (by decide))).of_skipSpace rfl) rfl
        (spells_prettyMembers depth (m :: members) rest hv.2 (List.cons_ne_nil _ _))
end

/-- The ways to lay out a printed value. -/
inductive Layout
  | compact
  | pretty
  deriving DecidableEq

namespace Layout

def chars : Layout → Json → List Char
  | compact, v => compactChars v
  | pretty, v => prettyChars 0 v

def print (layout : Layout) (v : Json) : String := String.ofList (layout.chars v)

@[simp] theorem print_compact (v : Json) : print .compact v = v.compact := rfl

@[simp] theorem print_pretty (v : Json) : print .pretty v = v.pretty := rfl

theorem toList_print (layout : Layout) (v : Json) : (layout.print v).toList = layout.chars v :=
  String.toList_ofList

/-- A printed object starts with its brace. -/
theorem head?_chars_obj (layout : Layout) (members : Members) :
    (layout.chars (.obj members)).head? = some '\x7b' := by
  cases layout with
  | compact => rfl
  | pretty => cases members <;> rfl

variable {v : Json}

theorem spells_print (layout : Layout) (hv : Integral v) :
    Spells (layout.print v).toList (written v) [] := by
  rw [toList_print, ← List.append_nil (layout.chars v)]
  cases layout with
  | compact => exact spells_compact v [] hv endsNumeral_nil
  | pretty => exact spells_pretty 0 v [] hv endsNumeral_nil

/-- Printing in some layout and reading gives the marks of the value back, with blanks in front as
well. -/
theorem read_print (layout : Layout) {blanks : String} (hblanks : blanks.toList.all isSpace)
    (hv : Integral v) : Written.read (blanks ++ layout.print v) = .ok (written v) := by
  have h := (layout.spells_print hv).after_blanks hblanks
  rw [← String.toList_append] at h
  exact h.read rfl

end Layout

theorem decode_print {α : Type} (value : Decoder α) (layout : Layout) {v : Json}
    (hv : Integral v) : decode value (layout.print v) = value (written v) := by
  have h : Written.read ("" ++ layout.print v) = .ok (written v) := layout.read_print rfl hv
  rw [String.empty_append] at h
  rw [decode, h, Outcome.ok_bind]

end BatchedGateway.Json
