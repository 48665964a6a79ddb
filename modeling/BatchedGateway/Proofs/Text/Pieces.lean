/- Text cut at its separators and in front of its first mark: the parts are told by what stands
around them. -/
import BatchedGateway.Text.Pieces

namespace BatchedGateway.Text

section Marks

variable {mark : Char → Bool} {front behind other rest : List Char}

theorem takeWhile_of_mark (hfront : ∀ c ∈ front, mark c = false)
    (hbehind : ∀ c ∈ behind.head?, mark c = true) :
    (front ++ behind).takeWhile (!mark ·) = front ∧
      (front ++ behind).dropWhile (!mark ·) = behind := by
  have hall : ∀ c ∈ front, (!mark c) = true := by simpa using hfront
  rw [List.takeWhile_append_of_pos hall, List.dropWhile_append_of_pos hall]
  cases behind with
  | nil => exact ⟨List.append_nil front, rfl⟩
  | cons c rest =>
      have hmark := hbehind c rfl
      simp [hmark]

/-- A text is cut in front of its first mark in one way only. -/
theorem append_inj_of_mark (h : front ++ behind = other ++ rest)
    (hfront : ∀ c ∈ front, mark c = false) (hbehind : ∀ c ∈ behind.head?, mark c = true)
    (hother : ∀ c ∈ other, mark c = false) (hrest : ∀ c ∈ rest.head?, mark c = true) :
    front = other ∧ behind = rest := by
  obtain ⟨htake, hdrop⟩ := takeWhile_of_mark hfront hbehind
  obtain ⟨htake', hdrop'⟩ := takeWhile_of_mark hother hrest
  rw [h] at htake hdrop
  exact ⟨htake.symm.trans htake', hdrop.symm.trans hdrop'⟩

end Marks

section Pieces

variable {sep : Char} {first rest cs piece : List Char}

theorem pieces_of_notMem (h : sep ∉ first) : pieces sep first = [first] := by
  induction first with
  | nil => rfl
  | cons c cs ih =>
      obtain ⟨hc, hcs⟩ := not_or.mp (mt List.mem_cons.mpr h)
      rw [pieces, if_neg (Ne.symm hc), ih hcs]

theorem pieces_ne_nil (sep : Char) (cs : List Char) : pieces sep cs ≠ [] := by
  cases cs with
  | nil => exact List.cons_ne_nil [] []
  | cons c rest =>
      rw [pieces]
      split
      · exact List.cons_ne_nil _ _
      · split <;> exact List.cons_ne_nil _ _

/-- Pieces end at every separator. -/
theorem pieces_append_sep (cs rest : List Char) :
    pieces sep (cs ++ sep :: rest) = pieces sep cs ++ pieces sep rest := by
  induction cs with
  | nil => simp [pieces]
  | cons c more ih =>
      rw [List.cons_append, pieces, pieces]
      by_cases hc : c = sep
      · rw [if_pos hc, if_pos hc, ih, List.cons_append]
      · rw [if_neg hc, if_neg hc, ih]
        cases hmore : pieces sep more with
        | nil => exact absurd hmore (pieces_ne_nil sep more)
        | cons piece pieces => rfl

theorem pieces_append_cons (h : sep ∉ first) (rest : List Char) :
    pieces sep (first ++ sep :: rest) = first :: pieces sep rest := by
  rw [pieces_append_sep, pieces_of_notMem h, List.singleton_append]

/-- Separators in front and what comes after the next one do not count. -/
theorem find?_pieces (hfirst : first ≠ []) (h : sep ∉ first) (count : Nat) {rest : List Char}
    (hrest : rest = [] ∨ rest.head? = some sep) :
    (pieces sep (List.replicate count sep ++ (first ++ rest))).find? (!·.isEmpty) =
      some first := by
  have hfound : ∀ more, (first :: more).find? (!·.isEmpty) = some first := by
    intro more
    simp [hfirst]
  induction count with
  | zero =>
      rw [List.replicate_zero, List.nil_append]
      rcases hrest with rfl | hrest
      · rw [List.append_nil, pieces_of_notMem h, hfound]
      · obtain ⟨more, rfl⟩ := List.head?_eq_some_iff.mp hrest
        rw [pieces_append_cons h, hfound]
  | succ count ih =>
      rw [List.replicate_succ, List.cons_append, pieces, if_pos rfl,
        List.find?_cons_of_neg (by simp), ih]

/-- Text that is not all separators has a part between them. -/
theorem exists_piece {cs : List Char} (h : ∃ c ∈ cs, c ≠ sep) :
    ∃ count segment rest, segment ≠ [] ∧ sep ∉ segment ∧ (rest = [] ∨ rest.head? = some sep) ∧
      cs = List.replicate count sep ++ (segment ++ rest) := by
  induction cs with
  | nil =>
      obtain ⟨c, hc, -⟩ := h
      cases hc
  | cons c tail ih =>
      by_cases hc : c = sep
      · subst hc
        have htail : ∃ d ∈ tail, d ≠ c := by simpa using h
        obtain ⟨count, segment, rest, hne, hmem, hrest, htail⟩ := ih htail
        exact ⟨count + 1, segment, rest, hne, hmem, hrest, congrArg (c :: ·) htail⟩
      · -- the part starts here, and goes on to the next separator
        refine ⟨0, (c :: tail).takeWhile (· ≠ sep), (c :: tail).dropWhile (· ≠ sep), ?_, ?_, ?_,
          List.takeWhile_append_dropWhile.symm⟩
        · simp [hc]
        · intro hmem
          have hall := List.all_eq_true.mp List.all_takeWhile sep hmem
          simp at hall
        · cases hdrop : (c :: tail).dropWhile (· ≠ sep) with
          | nil => exact .inl rfl
          | cons d rest =>
              have hhead := List.head?_dropWhile_not (· ≠ sep) (c :: tail)
              rw [hdrop] at hhead
              exact .inr (by simpa using hhead)

theorem find?_pieces_eq_none {cs : List Char} :
    (pieces sep cs).find? (!·.isEmpty) = none ↔ ∀ c ∈ cs, c = sep := by
  induction cs with
  | nil => simp [pieces]
  | cons c rest ih =>
      rw [pieces, List.forall_mem_cons]
      by_cases hc : c = sep
      · rw [if_pos hc, List.find?_cons_of_neg (by simp), ih]
        exact (and_iff_right hc).symm
      · rw [if_neg hc]
        split
        · simp [hc]
        · simp [hc]

/-- A stretch without separators, from one of them or the start of a text to the next or the end. -/
structure IsPiece (sep : Char) (cs piece : List Char) : Prop where
  notMem : sep ∉ piece
  text : ∃ front back, cs = front ++ piece ++ back ∧
    (front = [] ∨ front.getLast? = some sep) ∧ (back = [] ∨ back.head? = some sep)

theorem isPiece_of_notMem (h : sep ∉ cs) : IsPiece sep cs piece ↔ piece = cs := by
  constructor
  · rintro ⟨-, front, back, rfl, hfront, hback⟩
    have hnone : front = [] := by
      refine hfront.resolve_right fun hlast => h ?_
      simp [List.mem_of_getLast? hlast]
    have hend : back = [] := by
      refine hback.resolve_right fun hhead => h ?_
      simp [List.mem_of_mem_head? hhead]
    rw [hnone, hend, List.append_nil, List.nil_append]
  · rintro rfl
    exact ⟨h, [], [], by simp, .inl rfl, .inl rfl⟩

/-- A separator behind which a text is cut is the first one or a later one. -/
theorem append_cons_eq_append_cons {front behind : List Char} (h : sep ∉ first) :
    first ++ sep :: rest = front ++ sep :: behind ↔ (front = first ∧ behind = rest) ∨
      ∃ more, front = first ++ sep :: more ∧ rest = more ++ sep :: behind := by
  constructor
  · intro hcut
    rcases List.append_eq_append_iff.mp hcut with ⟨more, rfl, hmore⟩ | ⟨more, rfl, hmore⟩
    · cases more with
      | nil => exact .inl ⟨List.append_nil first, (List.cons.inj hmore).2.symm⟩
      | cons c more =>
          obtain ⟨rfl, hrest⟩ := List.cons.inj hmore
          exact .inr ⟨more, rfl, hrest⟩
    · cases more with
      | nil => exact .inl ⟨(List.append_nil front).symm, (List.cons.inj hmore).2⟩
      | cons c more =>
          obtain ⟨rfl, -⟩ := List.cons.inj hmore
          exact absurd (List.mem_append_right front List.mem_cons_self) h
  · rintro (⟨rfl, rfl⟩ | ⟨more, rfl, rfl⟩)
    · rfl
    · simp

theorem isPiece_append_cons (h : sep ∉ first) :
    IsPiece sep (first ++ sep :: rest) piece ↔ piece = first ∨ IsPiece sep rest piece := by
  constructor
  · rintro ⟨hpiece, front, back, htext, rfl | hfront, hback⟩
    · -- the piece starts with the text, and both it and the first part end in front of a separator
      rcases hback with rfl | hback
      · refine absurd ?_ hpiece
        rw [List.nil_append, List.append_nil] at htext
        simp [← htext]
      · obtain ⟨behind, rfl⟩ := List.head?_eq_some_iff.mp hback
        rcases (append_cons_eq_append_cons h).mp htext with ⟨hfirst, -⟩ | ⟨more, hmore, -⟩
        · exact .inl hfirst
        · refine absurd ?_ hpiece
          rw [List.nil_append] at hmore
          simp [hmore]
    · obtain ⟨before, rfl⟩ := List.getLast?_eq_some_iff.mp hfront
      have hcut : first ++ sep :: rest = before ++ sep :: (piece ++ back) := by simpa using htext
      refine .inr ⟨hpiece, ?_⟩
      rcases (append_cons_eq_append_cons h).mp hcut with ⟨-, hrest⟩ | ⟨more, -, hrest⟩
      · exact ⟨[], back, by simp [hrest], .inl rfl, hback⟩
      · exact ⟨more ++ [sep], back, by simp [hrest], .inr (by simp), hback⟩
  · rintro (rfl | ⟨hpiece, front, back, rfl, hfront, hback⟩)
    · exact ⟨h, [], sep :: rest, by simp, .inl rfl, .inr rfl⟩
    · refine ⟨hpiece, first ++ sep :: front, back, by simp, .inr ?_, hback⟩
      rcases hfront with rfl | hfront
      · simp
      · obtain ⟨before, rfl⟩ := List.getLast?_eq_some_iff.mp hfront
        exact List.getLast?_eq_some_iff.mpr ⟨first ++ sep :: before, by simp⟩

/-- The pieces of a text are all its stretches between separators. -/
theorem mem_pieces : piece ∈ pieces sep cs ↔ IsPiece sep cs piece := by
  induction hlength : cs.length using Nat.strongRecOn generalizing cs with
  | _ n ih =>
      by_cases hsep : sep ∈ cs
      · obtain ⟨first, rest, rfl, hfirst⟩ := List.eq_append_cons_of_mem hsep
        have hshorter : rest.length < n := by
          rw [← hlength, List.length_append, List.length_cons]
          omega
        rw [pieces_append_cons hfirst, isPiece_append_cons hfirst, List.mem_cons,
          ih _ hshorter rfl]
      · rw [pieces_of_notMem hsep, isPiece_of_notMem hsep, List.mem_singleton]

end Pieces

end BatchedGateway.Text
