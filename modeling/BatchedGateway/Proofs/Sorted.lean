/- Sorted tables: look-up after insertion, entries as look-ups, tables built from entries, and that
a table is told by its answers. -/
import BatchedGateway.Sorted

namespace BatchedGateway

variable {κ ν : Type} [Ord κ]

namespace Sorted

theorem mem_iff_find? [Std.TransOrd κ] [Std.LawfulEqOrd κ] {entries : List (κ × ν)}
    (h : InOrder entries) {k : κ} {v : ν} : (k, v) ∈ entries ↔ find? k entries = some v := by
  induction entries with
  | nil => simp [find?]
  | cons head rest ih =>
      obtain ⟨k', v'⟩ := head
      obtain ⟨hhead, hrest⟩ := List.pairwise_cons.mp h
      by_cases hk : compare k k' = .eq
      · have heq : k = k' := Std.LawfulEqCmp.eq_of_compare hk
        subst heq
        have hnot : (k, v) ∉ rest := by
          intro hmem
          have hlt := hhead _ hmem
          rw [hk] at hlt
          cases hlt
        simp [find?, hnot, eq_comm]
      · have hne : k ≠ k' := by
          rintro rfl
          exact hk Std.ReflCmp.compare_self
        simp only [List.mem_cons, Prod.mk.injEq, hne, false_and, false_or, find?, hk, if_false]
        exact ih hrest

theorem InOrder.nodup [Std.TransOrd κ] {entries : List (κ × ν)} (h : InOrder entries) :
    entries.Nodup := by
  refine h.imp fun {a b} hlt heq => ?_
  have hself : compare b.1 b.1 = .eq := Std.ReflCmp.compare_self
  rw [heq, hself] at hlt
  cases hlt

/-- A key behind all others goes to the end. -/
theorem place_of_lt [Std.TransOrd κ] {k : κ} {v : ν} {entries : List (κ × ν)}
    (h : ∀ e ∈ entries, compare e.1 k = .lt) : place k v entries = entries ++ [(k, v)] := by
  induction entries with
  | nil => rfl
  | cons head rest ih =>
      obtain ⟨k', v'⟩ := head
      have hgt : compare k k' = .gt := Std.OrientedCmp.gt_of_lt (h _ List.mem_cons_self)
      simp only [place, hgt, List.cons_append]
      rw [ih fun e he => h e (List.mem_cons_of_mem _ he)]

/-- An entry that is there already can be put in again and changes nothing. -/
theorem place_of_find? [Std.TransOrd κ] [Std.LawfulEqOrd κ] {k : κ} {v : ν}
    {entries : List (κ × ν)} (h : InOrder entries) (hk : find? k entries = some v) :
    place k v entries = entries := by
  induction entries with
  | nil => cases hk
  | cons head rest ih =>
      obtain ⟨k', v'⟩ := head
      obtain ⟨hhead, hrest⟩ := List.pairwise_cons.mp h
      rw [find?] at hk
      rw [place]
      split
      · rename_i hlt
        rw [if_neg (by simp [hlt])] at hk
        -- a key before the first one is not found behind it
        have hbehind := hhead _ ((mem_iff_find? hrest).mpr hk)
        rw [Std.OrientedCmp.gt_of_lt hlt] at hbehind
        cases hbehind
      · rename_i heq
        rw [if_pos heq] at hk
        rw [Std.LawfulEqCmp.eq_of_compare heq, Option.some.inj hk]
      · rename_i hgt
        rw [if_neg (by simp [hgt])] at hk
        rw [ih hrest hk]

theorem length_place_of_find? {k : κ} {v : ν} {entries : List (κ × ν)}
    (hk : find? k entries = none) : (place k v entries).length = entries.length + 1 := by
  induction entries with
  | nil => rfl
  | cons head rest ih =>
      obtain ⟨k', v'⟩ := head
      rw [find?] at hk
      rw [place]
      split
      · rfl
      · rename_i heq
        rw [if_pos heq] at hk
        cases hk
      · rename_i hgt
        rw [if_neg (by simp [hgt])] at hk
        rw [List.length_cons, ih hk, List.length_cons]

end Sorted

namespace SortedMap

variable [Std.TransOrd κ]

theorem foldl_insert_entries {t : SortedMap κ ν} {after : List (κ × ν)}
    (h : Sorted.InOrder (t.entries ++ after)) :
    (after.foldl (fun t e => t.insert e.1 e.2) t).entries = t.entries ++ after := by
  induction after generalizing t with
  | nil => simp
  | cons e after ih =>
      have hlast : ∀ x ∈ t.entries, compare x.1 e.1 = .lt := by
        intro x hx
        exact (List.pairwise_append.mp h).2.2 x hx e List.mem_cons_self
      have hentries : (t.insert e.1 e.2).entries = t.entries ++ [e] := Sorted.place_of_lt hlast
      have hsame : t.entries ++ e :: after = (t.insert e.1 e.2).entries ++ after := by
        rw [hentries, List.append_assoc, List.singleton_append]
      rw [hsame] at h ⊢
      exact ih h

theorem size_insert {t : SortedMap κ ν} {k : κ} (h : t.get? k = none) (v : ν) :
    (t.insert k v).size = t.size + 1 := Sorted.length_place_of_find? h

/-- A table is built again from its own entries. -/
@[simp] theorem ofList_entries (t : SortedMap κ ν) : ofList t.entries = t :=
  ext (foldl_insert_entries (t := ∅) t.inOrder)

variable [Std.LawfulEqOrd κ]

theorem mem_entries {t : SortedMap κ ν} {k : κ} {v : ν} :
    (k, v) ∈ t.entries ↔ t.get? k = some v := Sorted.mem_iff_find? t.inOrder

theorem get?_insert [DecidableEq κ] (t : SortedMap κ ν) (k j : κ) (v : ν) :
    (t.insert k v).get? j = if j = k then some v else t.get? j := by
  split
  · rename_i heq
    rw [heq, get?_insert_self]
  · rename_i hne
    exact get?_insert_of_ne fun h => hne (Std.LawfulEqCmp.eq_of_compare h)

theorem insert_of_get? {t : SortedMap κ ν} {k : κ} {v : ν} (h : t.get? k = some v) :
    t.insert k v = t := ext (Sorted.place_of_find? t.inOrder h)

/-- Tables that answer alike are one. -/
theorem ext_get? {s t : SortedMap κ ν} (h : ∀ k, s.get? k = t.get? k) : s = t := by
  have hmem : ∀ e, e ∈ s.entries ↔ e ∈ t.entries := by
    rintro ⟨k, v⟩
    rw [mem_entries, mem_entries, h]
  have hperm := (List.perm_ext_iff_of_nodup s.inOrder.nodup t.inOrder.nodup).mpr hmem
  refine ext (hperm.eq_of_pairwise ?_ s.inOrder t.inOrder)
  intro a b _ _ hab hba
  rw [Std.OrientedCmp.gt_of_lt hba] at hab
  cases hab

end SortedMap

namespace NameSet

theorem get?_ofNames (names : List String) (n : String) :
    (ofNames names).get? n = if n ∈ names then some () else none := by
  have hfold : ∀ t : NameSet, ((names.map (·, ())).foldl (fun t e => t.insert e.1 e.2) t).get? n =
      if n ∈ names then some () else t.get? n := by
    induction names with
    | nil => simp
    | cons first rest ih =>
        intro t
        rw [List.map_cons, List.foldl_cons, ih, SortedMap.get?_insert]
        by_cases hrest : n ∈ rest
        · simp [hrest]
        · simp [hrest]
  exact hfold ∅

/-- A set goes by what is in it. -/
theorem ofNames_congr {names others : List String} (h : ∀ n, n ∈ names ↔ n ∈ others) :
    ofNames names = ofNames others := by
  refine SortedMap.ext_get? fun n => ?_
  rw [get?_ofNames, get?_ofNames]
  simp only [h]

end NameSet

end BatchedGateway
