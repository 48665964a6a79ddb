/- Text in which a word is replaced: around what is put in its place the text stays the same, so
that equal texts come of equal replacements. -/
import BatchedGateway.Text.Pieces

namespace BatchedGateway.Text

section Replacing

variable {word front back rest cs : List Char} {c : Char}

theorem strip?_eq_some : strip? word cs = some rest ↔ cs = word ++ rest := by
  induction word generalizing cs with
  | nil => simp [strip?]
  | cons w ws ih =>
      cases cs with
      | nil => simp [strip?]
      | cons c cs =>
          rw [strip?]
          by_cases hw : w = c
          · rw [if_pos hw, ih, hw, List.cons_append, List.cons.injEq, and_iff_right rfl]
          · rw [if_neg hw]
            simp [Ne.symm hw]

theorem strip?_eq_none (h : ¬ word <+: cs) : strip? word cs = none := by
  refine Option.eq_none_iff_forall_ne_some.mpr fun rest hrest => h ?_
  exact ⟨rest, (strip?_eq_some.mp hrest).symm⟩

theorem replaceAll_word (hword : word ≠ []) (instead rest : List Char) :
    replaceAll word instead (word ++ rest) = instead ++ replaceAll word instead rest := by
  obtain ⟨w, ws, rfl⟩ := List.exists_cons_of_ne_nil hword
  have hstrip : strip? (w :: ws) (w :: (ws ++ rest)) = some rest := strip?_eq_some.mpr rfl
  rw [List.cons_append, replaceAll, if_neg hword]
  split
  · rename_i after hafter
    rw [Option.some.inj (hstrip.symm.trans hafter)]
  · rename_i hnone
    cases hstrip.symm.trans hnone

theorem replaceAll_cons (h : ¬ word <+: c :: rest) (instead : List Char) :
    replaceAll word instead (c :: rest) = c :: replaceAll word instead rest := by
  rw [replaceAll]
  split
  · rfl
  · split
    · rename_i after hafter
      cases (strip?_eq_none h).symm.trans hafter
    · rfl

theorem replaceAll_nil (word instead : List Char) : replaceAll word instead [] = [] := by
  rw [replaceAll]

/-- A text is read from the left: it ends, the word stands here, or the next character stays. -/
@[elab_as_elim]
theorem induction_on_word {motive : List Char → Prop} (hword : word ≠ []) (cs : List Char)
    (nil : motive []) (occurs : ∀ rest, motive rest → motive (word ++ rest))
    (stays : ∀ c rest, ¬ word <+: c :: rest → motive rest → motive (c :: rest)) : motive cs := by
  induction hlength : cs.length using Nat.strongRecOn generalizing cs with
  | _ n ih =>
      cases cs with
      | nil => exact nil
      | cons c rest =>
          by_cases hstarts : word <+: c :: rest
          · obtain ⟨after, hafter⟩ := hstarts
            have hpositive := List.length_pos_iff.mpr hword
            have hshorter : after.length < n := by
              rw [← hlength, ← hafter, List.length_append]
              omega
            rw [← hafter]
            exact occurs after (ih _ hshorter after rfl)
          · have hshorter : rest.length < n := by
              rw [← hlength, List.length_cons]
              exact Nat.lt_succ_self _
            exact stays c rest hstarts (ih _ hshorter rest rfl)

/-- A word that is not in a text is not replaced. -/
theorem replaceAll_of_not_infix (instead : List Char) (h : ¬ word <:+: cs) :
    replaceAll word instead cs = cs := by
  induction cs with
  | nil => exact replaceAll_nil word instead
  | cons c rest ih =>
      obtain ⟨hstarts, hrest⟩ := not_or.mp (mt List.infix_cons_iff.mpr h)
      rw [replaceAll_cons hstarts, ih hrest]

/-- Where a text goes on with a character that is not in the word, it can be cut. -/
theorem replaceAll_append (hword : word ≠ []) (instead front : List Char)
    (h : ∀ c ∈ back.head?, c ∉ word) :
    replaceAll word instead (front ++ back) =
      replaceAll word instead front ++ replaceAll word instead back := by
  induction front using induction_on_word hword with
  | nil => rw [replaceAll_nil, List.nil_append, List.nil_append]
  | occurs rest ih =>
      rw [List.append_assoc, replaceAll_word hword, replaceAll_word hword, ih, List.append_assoc]
  | stays c rest hstarts ih =>
      have hlonger : ¬ word <+: c :: (rest ++ back) := by
        rintro ⟨after, hafter⟩
        rw [← List.cons_append] at hafter
        rcases List.append_eq_append_iff.mp hafter with ⟨more, hmore, -⟩ | ⟨more, rfl, hmore⟩
        · exact hstarts ⟨more, hmore.symm⟩
        · cases more with
          | nil => exact hstarts ⟨[], by simp⟩
          | cons d more => exact h d (by simp [hmore]) (by simp)
      rw [List.cons_append, replaceAll_cons hlonger, ih, replaceAll_cons hstarts, List.cons_append]

/-- Characters with which the word does not start stay. -/
theorem replaceAll_stays (instead : List Char) (hword : word ≠ [])
    (h : ∀ c ∈ front, word.head? ≠ some c) :
    replaceAll word instead (front ++ back) = front ++ replaceAll word instead back := by
  induction front with
  | nil => rfl
  | cons c rest ih =>
      obtain ⟨hc, hrest⟩ := List.forall_mem_cons.mp h
      have hstarts : ¬ word <+: c :: (rest ++ back) := by
        obtain ⟨w, ws, rfl⟩ := List.exists_cons_of_ne_nil hword
        intro hstarts
        exact hc (congrArg some (List.cons_prefix_cons.mp hstarts).1)
      rw [List.cons_append, replaceAll_cons hstarts, ih hrest, List.cons_append]

end Replacing

/-- A text with gaps in it. -/
abbrev Gapped := List (Option Char)

namespace Gapped

/-- The text that comes of putting a word into every gap. -/
def fill (instead : List Char) (p : Gapped) : List Char :=
  p.flatMap fun place => place.elim instead fun c => [c]

variable {p q : Gapped} {c : Char} {instead other cs : List Char}

@[simp] theorem fill_nil : fill instead [] = [] := rfl

@[simp] theorem fill_none : fill instead (none :: p) = instead ++ fill instead p := rfl

@[simp] theorem fill_some : fill instead (some c :: p) = c :: fill instead p := rfl

@[simp] theorem fill_append : fill instead (p ++ q) = fill instead p ++ fill instead q :=
  List.flatMap_append

@[simp] theorem fill_map_some : fill instead (cs.map some) = cs := by
  induction cs with
  | nil => rfl
  | cons c rest ih => rw [List.map_cons, fill_some, ih]

theorem length_fill (instead : List Char) (p : Gapped) :
    (fill instead p).length = p.countP (·.isSome) + p.count none * instead.length := by
  induction p with
  | nil => simp
  | cons place p ih =>
      cases place with
      | none => simp [ih, Nat.add_mul]; omega
      | some c => simp [ih]; omega

/-- With a gap in it a text tells what it was filled with. -/
theorem fill_inj (hgap : none ∈ p) (h : fill instead p = fill other p) : instead = other := by
  -- there is as much room in each gap, so that what is in the first one ends at the same place
  have hlength : instead.length = other.length := by
    have hlengths := congrArg List.length h
    rw [length_fill, length_fill] at hlengths
    exact Nat.eq_of_mul_eq_mul_left (List.count_pos_iff.mpr hgap) (Nat.add_left_cancel hlengths)
  induction p with
  | nil => cases hgap
  | cons place p ih =>
      cases place with
      | none =>
          rw [fill_none, fill_none] at h
          exact (List.append_inj h hlength).1
      | some c =>
          rw [fill_some, fill_some] at h
          exact ih (by simpa using hgap) (List.cons.inj h).2

end Gapped

/-- To replace a word is to fill the gaps that are left where it stood. -/
theorem exists_gapped {word : List Char} (hword : word ≠ []) (cs : List Char) :
    ∃ p : Gapped, (word <:+: cs → none ∈ p) ∧
      ∀ instead, replaceAll word instead cs = p.fill instead := by
  induction cs using induction_on_word hword with
  | nil => exact ⟨[], fun h => absurd (List.infix_nil.mp h) hword, fun instead => replaceAll_nil ..⟩
  | occurs rest ih =>
      obtain ⟨p, -, hp⟩ := ih
      refine ⟨none :: p, fun _ => List.mem_cons_self, fun instead => ?_⟩
      rw [replaceAll_word hword, hp, Gapped.fill_none]
  | stays c rest hstarts ih =>
      obtain ⟨p, hgap, hp⟩ := ih
      refine ⟨some c :: p, fun hinfix => ?_, fun instead => ?_⟩
      · exact List.mem_cons_of_mem _ (hgap ((List.infix_cons_iff.mp hinfix).resolve_left hstarts))
      · rw [replaceAll_cons hstarts, hp, Gapped.fill_some]

end BatchedGateway.Text
