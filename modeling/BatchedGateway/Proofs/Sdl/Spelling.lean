/- Texts of names and punctuation: what a text spells is what is read from it, wherever ignored
characters stand. -/
import BatchedGateway.Proofs.Outcome
import BatchedGateway.Sdl.Token
import BatchedGateway.Text.Blank

namespace BatchedGateway.Sdl
open Outcome

/-- A name of the grammar. -/
structure IsName (s : String) : Prop where
  start : s.toList.head?.any isNameStart = true
  chars : s.toList.all isNameChar = true

/-- A text spells tokens. A name goes on to the last character that can belong to it. -/
inductive Spells : List Char → List Token → Prop
  | done : Spells [] []
  | ignored {c : Char} {cs : List Char} {ts : List Token} (hc : isIgnored c = true)
      (rest : Spells cs ts) : Spells (c :: cs) ts
  | punct {c : Char} {cs : List Char} {ts : List Token} (hc : isPunct c = true)
      (rest : Spells cs ts) : Spells (c :: cs) (.punct c :: ts)
  | name {s : String} {cs : List Char} {ts : List Token} (hs : IsName s)
      (hends : cs.head?.any isNameChar = false) (rest : Spells cs ts) :
      Spells (s.toList ++ cs) (.name s :: ts)

variable {c : Char} {cs : List Char} {ts : List Token}

theorem IsName.cons {s : String} (h : IsName s) :
    ∃ c more, s.toList = c :: more ∧ isNameStart c = true ∧ more.all isNameChar = true := by
  obtain ⟨hstart, hchars⟩ := h
  cases hs : s.toList with
  | nil =>
      rw [hs] at hstart
      cases hstart
  | cons c more =>
      rw [hs] at hstart hchars
      rw [List.all_cons, Bool.and_eq_true] at hchars
      exact ⟨c, more, rfl, hstart, hchars.2⟩

theorem isIgnored_cases (h : isIgnored c = true) :
    c = '\t' ∨ c = '\n' ∨ c = '\r' ∨ c = ' ' ∨ c = ',' ∨ c = '\ufeff' := by
  simpa [isIgnored, or_assoc] using h

/-- What holds of all punctuation holds of each mark of it. -/
theorem isPunct_all {P : Char → Bool} (h : isPunct c = true)
    (hall : ['!', '$', '&', '(', ')', ':', '=', '@', '[', ']', '\x7b', '|', '\x7d'].all P = true) :
    P c = true := List.all_eq_true.mp hall c (List.contains_iff_mem.mp h)

theorem of_isPunct (h : isPunct c = true) :
    c ≠ '#' ∧ isIgnored c = false ∧ Text.isBlank c = false := by
  have hall := isPunct_all (P := fun p => p ≠ '#' && !isIgnored p && !Text.isBlank p) h (by decide)
  simpa [and_assoc] using hall

theorem toNat_of_isNameStart (h : isNameStart c = true) : 65 ≤ c.toNat ∧ c.toNat ≤ 122 := by
  have hclasses : ((c.isUpper || c.isLower) || c = '_') := h
  simp only [Bool.or_eq_true, decide_eq_true_eq] at hclasses
  rcases hclasses with (hupper | hlower) | rfl
  · have hrange : 65 ≤ c.toNat ∧ c.toNat ≤ 90 := of_decide_eq_true hupper
    omega
  · obtain ⟨hlow, hhigh⟩ := Bool.and_eq_true_iff.mp hlower
    have hrange : 97 ≤ c.toNat ∧ c.toNat ≤ 122 :=
      ⟨of_decide_eq_true hlow, of_decide_eq_true hhigh⟩
    omega
  · decide

/-- A character that starts a name does nothing else. -/
theorem of_isNameStart (h : isNameStart c = true) :
    c ≠ '#' ∧ c ≠ '\x7b' ∧ isIgnored c = false ∧ isPunct c = false ∧ Text.isBlank c = false := by
  obtain ⟨hlow, hhigh⟩ := toNat_of_isNameStart h
  refine ⟨?_, ?_, ?_, ?_, ?_⟩
  · rintro rfl
    cases h
  · rintro rfl
    cases h
  · rw [Bool.eq_false_iff]
    intro hignored
    rcases isIgnored_cases hignored with rfl | rfl | rfl | rfl | rfl | rfl <;> cases h
  · rw [Bool.eq_false_iff]
    intro hpunct
    have hnone := isPunct_all (P := (!isNameStart ·)) hpunct (by decide)
    rw [h] at hnone
    cases hnone
  · simp only [Text.isBlank, Bool.or_eq_false_iff, Bool.and_eq_false_iff, decide_eq_false_iff_not,
      beq_eq_false_iff_ne]
    omega

theorem readToken_name {s : String} (hs : IsName s) (hends : cs.head?.any isNameChar = false) :
    ∃ c more, s.toList = c :: more ∧ isNameStart c = true ∧
      readToken c (more ++ cs) = .ok (.name s, cs) := by
  obtain ⟨c, more, hcons, hstart, hmore⟩ := hs.cons
  have hall : ∀ d ∈ more, isNameChar d = true := List.all_eq_true.mp hmore
  have hstop : cs.takeWhile isNameChar = [] ∧ cs.dropWhile isNameChar = cs := by
    cases cs with
    | nil => exact ⟨rfl, rfl⟩
    | cons d rest =>
        have hd : ¬ isNameChar d = true := by simpa using hends
        exact ⟨List.takeWhile_cons_of_neg hd, List.dropWhile_cons_of_neg hd⟩
  obtain ⟨-, -, -, hpunct, -⟩ := of_isNameStart hstart
  have hname : String.ofList (c :: (more ++ cs).takeWhile isNameChar) = s := by
    rw [List.takeWhile_append_of_pos hall, hstop.1, List.append_nil, ← hcons, String.ofList_toList]
  refine ⟨c, more, hcons, hstart, ?_⟩
  simp only [readToken, hpunct, Bool.false_eq_true, if_false, hstart, if_true, hname,
    List.dropWhile_append_of_pos hall, hstop.2]

theorem tokensFrom_token {rest : List Char} {t : Token} {fuel : Nat} (hcomment : c ≠ '#')
    (hink : isIgnored c = false) (hread : readToken c rest = .ok (t, cs))
    (hrest : tokensFrom fuel cs = .ok ts) : tokensFrom (fuel + 1) (c :: rest) = .ok (t :: ts) := by
  rw [tokensFrom, hink, if_neg Bool.false_ne_true, hread, ok_bind]
  · simp only [hrest, ok_bind]
  · exact hcomment

/-- Enough fuel reads the tokens that a text spells. -/
theorem Spells.tokensFrom (h : Spells cs ts) {fuel : Nat} (hfuel : cs.length ≤ fuel) :
    tokensFrom fuel cs = .ok ts := by
  -- a round of the fuel for each ignored character and for each token, however long
  induction h generalizing fuel with
  | done => cases fuel <;> rfl
  | @ignored c cs ts hc rest ih =>
      cases fuel with
      | zero => cases hfuel
      | succ fuel =>
          have hcomment : c ≠ '#' := by
            rintro rfl
            cases hc
          rw [Sdl.tokensFrom, if_pos hc]
          · exact ih (Nat.le_of_succ_le_succ hfuel)
          · exact hcomment
  | @punct c cs ts hc rest ih =>
      cases fuel with
      | zero => cases hfuel
      | succ fuel =>
          obtain ⟨hcomment, hink, -⟩ := of_isPunct hc
          exact tokensFrom_token hcomment hink (by simp only [readToken, hc, if_true])
            (ih (Nat.le_of_succ_le_succ hfuel))
  | @name s cs ts hs hends rest ih =>
      obtain ⟨c, more, hcons, hstart, hread⟩ := readToken_name hs hends
      rw [hcons, List.cons_append] at hfuel ⊢
      cases fuel with
      | zero => cases hfuel
      | succ fuel =>
          obtain ⟨hcomment, -, hink, -⟩ := of_isNameStart hstart
          have hrest : cs.length ≤ fuel := by
            rw [List.length_cons, List.length_append] at hfuel
            omega
          exact tokensFrom_token hcomment hink hread (ih hrest)

theorem tokens_of_spells {text : String} (h : Spells text.toList ts) : tokens text = .ok ts :=
  h.tokensFrom (Nat.le_refl _)

/-- The ink of a text starts with a brace only if its tokens do. -/
theorem Spells.firstInk_ne {text : String} (h : Spells text.toList ts)
    (hts : ts.head? ≠ some (.punct '\x7b')) : Text.firstInk text ≠ some '\x7b' := by
  have hink : ∀ {d : Char} {more : List Char}, Text.isBlank d = false → d ≠ '\x7b' →
      (Text.dropBlanks (d :: more)).head? ≠ some '\x7b' := by
    intro d more hblank hd
    rw [Text.dropBlanks, List.dropWhile_cons_of_neg (by simp [hblank])]
    simpa using hd
  rw [Text.firstInk]
  generalize text.toList = cs at h
  induction h with
  | done => simp [Text.dropBlanks]
  | @ignored c cs ts hc rest ih =>
      by_cases hblank : Text.isBlank c = true
      · rw [Text.dropBlanks, List.dropWhile_cons_of_pos hblank]
        exact ih hts
      · refine hink (by simpa using hblank) ?_
        rintro rfl
        cases hc
  | @punct c cs ts hc rest ih =>
      obtain ⟨-, -, hblank⟩ := of_isPunct hc
      refine hink hblank ?_
      rintro rfl
      exact hts rfl
  | @name s cs ts hs hends rest ih =>
      obtain ⟨c, more, hcons, hstart, -⟩ := hs.cons
      obtain ⟨-, hbrace, -, -, hblank⟩ := of_isNameStart hstart
      rw [hcons, List.cons_append]
      exact hink hblank hbrace

end BatchedGateway.Sdl
