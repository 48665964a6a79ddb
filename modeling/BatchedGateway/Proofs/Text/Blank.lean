/- What trimming leaves of a text: the part between the blanks at its ends. -/
import BatchedGateway.Text.Blank

namespace BatchedGateway.Text

theorem dropBlanks_append {blanks rest : List Char} (h : ∀ c ∈ blanks, isBlank c = true) :
    dropBlanks (blanks ++ rest) = dropBlanks rest :=
  List.dropWhile_append_of_pos h

theorem dropBlanks_of_head {cs : List Char} (h : ∀ c ∈ cs.head?, isBlank c = false) :
    dropBlanks cs = cs := by
  cases cs with
  | nil => rfl
  | cons c rest =>
      have hc : ¬ isBlank c = true := by simp [h c rfl]
      exact List.dropWhile_cons_of_neg hc

theorem head?_dropBlanks (cs : List Char) : ∀ c ∈ (dropBlanks cs).head?, isBlank c = false := by
  intro c hc
  have hhead := List.head?_dropWhile_not isBlank cs
  rw [← dropBlanks, hc] at hhead
  simpa using hhead

theorem exists_blanks (cs : List Char) :
    ∃ before, (∀ c ∈ before, isBlank c = true) ∧ cs = before ++ dropBlanks cs :=
  ⟨cs.takeWhile isBlank, List.all_eq_true.mp List.all_takeWhile,
    List.takeWhile_append_dropWhile.symm⟩

theorem blank_empty : blank "" = true := rfl

/-- What is left of a text without the blanks at its ends. -/
structure IsTrimmed (blank : Char → Bool) (cs core : List Char) : Prop where
  text : ∃ before after, cs = before ++ core ++ after ∧ (∀ c ∈ before, blank c = true) ∧
    ∀ c ∈ after, blank c = true
  first : ∀ c ∈ core.head?, blank c = false
  last : ∀ c ∈ core.getLast?, blank c = false

/-- Only the characters of the text itself count as blank or not. -/
theorem IsTrimmed.congr {blank blank' : Char → Bool} {cs core : List Char}
    (h : ∀ c ∈ cs, blank c = blank' c) (htrimmed : IsTrimmed blank cs core) :
    IsTrimmed blank' cs core := by
  obtain ⟨⟨before, after, rfl, hbefore, hafter⟩, hfirst, hlast⟩ := htrimmed
  refine ⟨⟨before, after, rfl, fun c hc => ?_, fun c hc => ?_⟩, fun c hc => ?_, fun c hc => ?_⟩
  · rw [← h c (by simp [hc])]
    exact hbefore c hc
  · rw [← h c (by simp [hc])]
    exact hafter c hc
  · rw [← h c (by simp [List.mem_of_mem_head? hc])]
    exact hfirst c hc
  · rw [← h c (by simp [List.mem_of_mem_getLast? hc])]
    exact hlast c hc

theorem isTrimmed_trim (s : String) : IsTrimmed isBlank s.toList (trim s).toList := by
  obtain ⟨before, hbefore, hfront⟩ := exists_blanks s.toList
  obtain ⟨after, hafter, hback⟩ := exists_blanks (dropBlanks s.toList).reverse
  have hcore : (trim s).toList = (dropBlanks (dropBlanks s.toList).reverse).reverse := by
    rw [trim, String.toList_ofList]
  have hinner : dropBlanks s.toList = (trim s).toList ++ after.reverse := by
    rw [hcore, ← List.reverse_append, ← hback, List.reverse_reverse]
  refine ⟨⟨before, after.reverse, ?_, hbefore, fun c hc => ?_⟩, fun c hc => ?_, fun c hc => ?_⟩
  · rw [List.append_assoc, ← hinner]
    exact hfront
  · exact hafter c (List.mem_reverse.mp hc)
  · -- the first character that is left is the first one behind the blanks in front
    refine head?_dropBlanks s.toList c ?_
    rw [hinner, List.head?_append, hc]
    rfl
  · rw [hcore, List.getLast?_reverse] at hc
    exact head?_dropBlanks _ c hc

/-- A text is trimmed in one way only. -/
theorem IsTrimmed.trim_eq {s : String} {core : List Char} (h : IsTrimmed isBlank s.toList core) :
    trim s = String.ofList core := by
  obtain ⟨⟨before, after, htext, hbefore, hafter⟩, hfirst, hlast⟩ := h
  have hblanks : ∀ c ∈ after.reverse, isBlank c = true :=
    fun c hc => hafter c (List.mem_reverse.mp hc)
  rw [trim, htext, List.append_assoc, dropBlanks_append hbefore]
  by_cases hcore : core = []
  · subst hcore
    rw [List.nil_append, dropBlanks_eq_nil.mpr (List.all_eq_true.mpr hafter)]
    rfl
  · have hinner : dropBlanks (core ++ after) = core ++ after := by
      refine dropBlanks_of_head fun c hc => hfirst c ?_
      obtain ⟨d, rest, rfl⟩ := List.exists_cons_of_ne_nil hcore
      exact hc
    have hreverse : dropBlanks core.reverse = core.reverse := by
      refine dropBlanks_of_head fun c hc => hlast c ?_
      rwa [List.head?_reverse] at hc
    rw [hinner, List.reverse_append, dropBlanks_append hblanks, hreverse, List.reverse_reverse]

/-- Blanks around a text without blanks are all that trimming takes away. -/
theorem trim_padded {before after s : String} (hbefore : blank before = true)
    (hafter : blank after = true) (hs : ∀ c ∈ s.toList, isBlank c = false) :
    trim (before ++ s ++ after) = s := by
  have htrimmed : IsTrimmed isBlank (before ++ s ++ after).toList s.toList := by
    refine ⟨⟨before.toList, after.toList, ?_, List.all_eq_true.mp hbefore,
      List.all_eq_true.mp hafter⟩, fun c hc => ?_, fun c hc => ?_⟩
    · rw [String.toList_append, String.toList_append]
    · exact hs c (List.mem_of_mem_head? hc)
    · exact hs c (List.mem_of_mem_getLast? hc)
  rw [htrimmed.trim_eq, String.ofList_toList]

end BatchedGateway.Text
