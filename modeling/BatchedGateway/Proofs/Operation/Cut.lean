/- The one way to cut a list into batches: where each item stands, and that it stands there still
when the list grows. -/
import BatchedGateway.Proofs.Operation.Partition

namespace BatchedGateway

variable {α : Type} {items : List α} {size : Nat}

/-- Pieces of a list, in order: none is empty, and all are full but the last. -/
structure Cuts (size : Nat) (items : List α) (pieces : List (List α)) : Prop where
  flatten : pieces.flatten = items
  ne_nil : ∀ piece ∈ pieces, piece ≠ []
  full : ∀ piece ∈ pieces.dropLast, piece.length = size
  last : ∀ piece ∈ pieces.getLast?, piece.length ≤ size

namespace Cuts

variable {piece : List α} {pieces others : List (List α)}

theorem eq_nil (h : Cuts size [] pieces) : pieces = [] := by
  cases pieces with
  | nil => rfl
  | cons piece rest =>
      have hflatten := h.flatten
      rw [List.flatten_cons] at hflatten
      exact absurd (List.append_eq_nil_iff.mp hflatten).1 (h.ne_nil piece List.mem_cons_self)

theorem tail (h : Cuts size items (piece :: pieces)) : Cuts size pieces.flatten pieces := by
  refine ⟨rfl, fun other hother => h.ne_nil other (List.mem_cons_of_mem _ hother), ?_, ?_⟩
  · intro other hother
    cases pieces with
    | nil => cases hother
    | cons next rest => exact h.full other (List.mem_cons_of_mem _ hother)
  · intro other hother
    cases pieces with
    | nil => cases hother
    | cons next rest => exact h.last other hother

/-- The first piece takes what it can hold. -/
theorem length_head (h : Cuts size items (piece :: pieces)) :
    piece.length = min size items.length := by
  have hflatten := congrArg List.length h.flatten
  rw [List.flatten_cons, List.length_append] at hflatten
  cases pieces with
  | nil =>
      have hlast := h.last piece rfl
      rw [List.flatten_nil, List.length_nil] at hflatten
      omega
  | cons next rest =>
      have hfull := h.full piece List.mem_cons_self
      omega

theorem unique (h : Cuts size items pieces) (hother : Cuts size items others) :
    pieces = others := by
  induction pieces generalizing items others with
  | nil =>
      cases h.flatten
      exact hother.eq_nil.symm
  | cons piece rest ih =>
      cases others with
      | nil =>
          cases hother.flatten
          exact h.eq_nil
      | cons other more =>
          have hlength : piece.length = other.length := by
            rw [h.length_head, hother.length_head]
          have hflatten : piece ++ rest.flatten = other ++ more.flatten :=
            h.flatten.trans hother.flatten.symm
          obtain ⟨rfl, hrest⟩ := List.append_inj hflatten hlength
          have hmore := hother.tail
          rw [← hrest] at hmore
          rw [ih h.tail hmore]

end Cuts

/-- Item `i`, counted through all batches, is at this offset of batch `k`. -/
structure StandsAt (batches : List (Batch α)) (i : Nat) (item : α) (k offset : Nat) : Prop where
  counted : ((batches.take k).flatMap (·.operations)).length + offset = i
  found : ∃ batch, batches[k]? = some batch ∧ batch.index = k ∧
    batch.operations[offset]? = some item

section Batches

variable {batches : List (Batch α)}

theorem cuts_partition (h : partition items size = .ok batches) :
    Cuts size items (batches.map (·.operations)) := by
  have hsize := (partition_eq_ok h).1
  refine ⟨?_, ?_, ?_, ?_⟩
  · rw [← List.flatMap_def]
    exact flatMap_operations_partition h
  · intro piece hpiece
    obtain ⟨batch, hbatch, rfl⟩ := List.mem_map.mp hpiece
    obtain ⟨k, hk⟩ := List.mem_iff_getElem?.mp hbatch
    obtain ⟨hleft, hlength⟩ := length_operations h hk
    apply List.ne_nil_of_length_pos
    omega
  · intro piece hpiece
    rw [← List.map_dropLast] at hpiece
    obtain ⟨batch, hbatch, rfl⟩ := List.mem_map.mp hpiece
    obtain ⟨k, hk⟩ := List.mem_iff_getElem?.mp hbatch
    rw [List.getElem?_dropLast] at hk
    split at hk
    case isFalse => cases hk
    -- a batch follows this one, so that items are left for it
    have hnext := (lt_length_partition h (k + 1)).mp (by omega)
    rw [Nat.succ_mul] at hnext
    have hlength := (length_operations h hk).2
    omega
  · intro piece hpiece
    obtain ⟨batch, hbatch, rfl⟩ := List.mem_map.mp (List.mem_of_getLast? hpiece)
    obtain ⟨k, hk⟩ := List.mem_iff_getElem?.mp hbatch
    have hlength := (length_operations h hk).2
    omega

/-- Batches hold `k * size` items in front of batch `k`. -/
theorem standsAt_partition_iff (h : partition items size = .ok batches) {i k offset : Nat}
    {item : α} :
    StandsAt batches i item k offset ↔
      items[i]? = some item ∧ k = i / size ∧ offset = i % size := by
  have hsize := (partition_eq_ok h).1
  have hfront : ∀ k, k * size ≤ items.length →
      ((batches.take k).flatMap (·.operations)).length = k * size := by
    intro k hk
    rw [flatMap_operations_take h, List.length_take, Nat.min_eq_left hk]
  constructor
  · rintro ⟨hcounted, batch, hk, -, hitem⟩
    rw [getElem?_operations h hk] at hitem
    split at hitem
    case isFalse => cases hitem
    rename_i hoffset
    have hleft := (length_operations h hk).1
    rw [hfront k (Nat.le_of_lt hleft)] at hcounted
    subst hcounted
    refine ⟨hitem, ?_, ?_⟩
    · rw [Nat.mul_comm, Nat.mul_add_div hsize, Nat.div_eq_of_lt hoffset, Nat.add_zero]
    · rw [Nat.mul_comm, Nat.mul_add_mod, Nat.mod_eq_of_lt hoffset]
  · rintro ⟨hitem, rfl, rfl⟩
    have hdivided : i / size * size + i % size = i := by
      rw [Nat.mul_comm]
      exact Nat.div_add_mod i size
    have hlength : i < items.length := (List.getElem?_eq_some_iff.mp hitem).1
    have hbatch : i / size < batches.length := (lt_length_partition h _).mpr (by omega)
    have hk := List.getElem?_eq_getElem hbatch
    refine ⟨?_, batches[i / size], hk, index_partition h hk, ?_⟩
    · rw [hfront _ (by omega)]
      exact hdivided
    · rw [getElem?_operations h hk, if_pos (Nat.mod_lt i hsize), hdivided]
      exact hitem

end Batches

/-- Batches fail for the size zero alone. Else they are numbered from zero on and cut the list in
the only way there is; item `i` stands at offset `i % size` of batch `i / size`, and it keeps this
place when other items come after the list. -/
theorem partition_cut (items : List α) (size : Nat) :
    (partition items size = .error .zeroSize ↔ size = 0) ∧
    (0 < size → ∃ batches, partition items size = .ok batches ∧
      batches.map (·.index) = List.range batches.length ∧
      batches.length = (items.length + size - 1) / size ∧
      Cuts size items (batches.map (·.operations)) ∧
      (∀ pieces, Cuts size items pieces → pieces = batches.map (·.operations)) ∧
      (∀ i item k offset, StandsAt batches i item k offset ↔
        items[i]? = some item ∧ k = i / size ∧ offset = i % size) ∧
      ∀ more, ∃ longer, partition (items ++ more) size = .ok longer ∧
        ∀ i < items.length, ∀ item k offset,
          StandsAt longer i item k offset ↔ StandsAt batches i item k offset) := by
  constructor
  · unfold partition
    split
    · simp [*]
    · simp [*]
  · intro hsize
    have hok : ∀ items : List α, ∃ batches, partition items size = .ok batches := by
      intro items
      exact ⟨_, if_neg (Nat.ne_of_gt hsize)⟩
    obtain ⟨batches, h⟩ := hok items
    refine ⟨batches, h, map_index_partition h, length_partition h, cuts_partition h, ?_, ?_, ?_⟩
    · intro pieces hpieces
      exact hpieces.unique (cuts_partition h)
    · intro i item k offset
      exact standsAt_partition_iff h
    · intro more
      obtain ⟨longer, hlonger⟩ := hok (items ++ more)
      refine ⟨longer, hlonger, fun i hi item k offset => ?_⟩
      rw [standsAt_partition_iff hlonger, standsAt_partition_iff h, List.getElem?_append_left hi]

example : partition ["a", "b", "c", "d", "e"] 2 =
    .ok [⟨0, ["a", "b"]⟩, ⟨1, ["c", "d"]⟩, ⟨2, ["e"]⟩] := rfl

end BatchedGateway
