/- Lists cut into batches: which items stand in which batch. -/
import BatchedGateway.Operation.Batch

namespace BatchedGateway

variable {α : Type}

namespace Batch

/-- Batch `k` of a list, if items are left for it. -/
def slice (size index k : Nat) (items : List α) : Option (Batch α) :=
  if k * size < items.length then some ⟨index + k, (items.drop (k * size)).take size⟩ else none

theorem slice_zero {size index : Nat} {items rest : List α} (hitems : items.length = size)
    (hsize : 0 < size) : slice size index 0 (items ++ rest) = some ⟨index, items⟩ := by
  have hsome : 0 * size < (items ++ rest).length := by
    rw [List.length_append]
    omega
  rw [slice, if_pos hsome, Nat.zero_mul, List.drop_zero, ← hitems, List.take_left]
  rfl

theorem slice_succ {size index k : Nat} {items rest : List α} (hitems : items.length = size) :
    slice size index (k + 1) (items ++ rest) = slice size (index + 1) k rest := by
  have hstart : (k + 1) * size = items.length + k * size := by
    rw [hitems, Nat.succ_mul, Nat.add_comm]
  have hindex : index + (k + 1) = index + 1 + k := by omega
  have hleft : items.length + k * size < items.length + rest.length ↔ k * size < rest.length := by
    omega
  simp only [slice, hstart, hindex, List.length_append,
    List.drop_length_add_append, hleft]

/-- Nothing is lost, added or moved by filling batches. -/
theorem flatMap_operations_fill (size : Nat) (items : List α) (index : Nat) (opened : List α) :
    (fill size index opened items).flatMap (·.operations) = opened ++ items := by
  induction items generalizing index opened with
  | nil =>
      rw [fill, List.append_nil]
      by_cases hempty : opened = []
      · simp [hempty]
      · simp [hempty]
  | cons item rest ih =>
      rw [fill]
      split
      · rw [List.flatMap_cons, ih, List.nil_append, List.append_assoc, List.singleton_append]
      · rw [ih, List.append_assoc, List.singleton_append]

/-- The items of the open batch count with those still to come. -/
theorem getElem?_fill {size : Nat} (hsize : 0 < size) (items : List α) :
    ∀ (index k : Nat) (opened : List α), opened.length < size →
      (fill size index opened items)[k]? = slice size index k (opened ++ items) := by
  induction items with
  | nil =>
      intro index k opened hopened
      rw [fill, List.append_nil, slice]
      by_cases hempty : opened = []
      · simp [hempty]
      · have hpositive : 0 < opened.length := List.length_pos_iff.mpr hempty
        cases k with
        | zero => simp [hempty, hpositive, Nat.le_of_lt hopened, List.take_of_length_le]
        | succ k =>
            have hover : ¬ (k + 1) * size < opened.length := by
              have hmul : size ≤ (k + 1) * size := Nat.le_mul_of_pos_left _ k.succ_pos
              omega
            simp [hempty, hover]
  | cons item rest ih =>
      intro index k opened hopened
      have hsplit : opened ++ item :: rest = (opened ++ [item]) ++ rest := by simp
      rw [fill, hsplit]
      by_cases hfull : size ≤ opened.length + 1
      · have hlength : (opened ++ [item]).length = size := by
          rw [List.length_append, List.length_singleton]
          omega
        rw [if_pos hfull]
        -- batch zero is the one that is closed here, and the next one starts empty
        cases k with
        | zero => rw [List.getElem?_cons_zero, slice_zero hlength hsize]
        | succ k =>
            rw [List.getElem?_cons_succ, ih (index + 1) k [] hsize, List.nil_append,
              slice_succ hlength]
      · rw [if_neg hfull, ih _ _ _ (by rw [List.length_append, List.length_singleton]; omega)]

end Batch

theorem partition_eq_ok {items : List α} {size : Nat} {batches : List (Batch α)}
    (h : partition items size = .ok batches) :
    0 < size ∧ ∀ k, batches[k]? = Batch.slice size 0 k items := by
  rw [partition] at h
  split at h
  · cases h
  · rename_i hsize
    cases h
    have hpositive : 0 < size := Nat.pos_of_ne_zero hsize
    exact ⟨hpositive, fun k => Batch.getElem?_fill hpositive items 0 k [] hpositive⟩

section Batches

variable {items : List α} {size : Nat} {batches : List (Batch α)}

theorem flatMap_operations_partition (h : partition items size = .ok batches) :
    batches.flatMap (·.operations) = items := by
  rw [partition] at h
  split at h
  · cases h
  · cases h
    exact Batch.flatMap_operations_fill size items 0 []

theorem lt_length_partition (h : partition items size = .ok batches) (k : Nat) :
    k < batches.length ↔ k * size < items.length := by
  have hnone : batches.length ≤ k ↔ ¬ k * size < items.length := by
    rw [← List.getElem?_eq_none_iff, (partition_eq_ok h).2 k, Batch.slice]
    split <;> simp [*]
  omega

/-- As many batches as it takes to hold all items. -/
theorem length_partition (h : partition items size = .ok batches) :
    batches.length = (items.length + size - 1) / size := by
  have hsize := (partition_eq_ok h).1
  apply Nat.le_antisymm
  · rw [Nat.le_div_iff_mul_le hsize]
    by_cases hnone : batches.length = 0
    · rw [hnone, Nat.zero_mul]
      exact Nat.zero_le _
    · have hlast := (lt_length_partition h (batches.length - 1)).mp (by omega)
      have hmul : batches.length * size = (batches.length - 1) * size + size := by
        rw [← Nat.succ_mul, Nat.succ_eq_add_one, Nat.sub_add_cancel (by omega)]
      omega
  · have hnext := mt (lt_length_partition h batches.length).mpr (Nat.lt_irrefl _)
    have hbound : items.length + size - 1 < (batches.length + 1) * size := by
      rw [Nat.succ_mul]
      omega
    exact Nat.le_of_lt_succ ((Nat.div_lt_iff_lt_mul hsize).mpr hbound)

theorem index_partition (h : partition items size = .ok batches) {k : Nat} {batch : Batch α}
    (hk : batches[k]? = some batch) : batch.index = k := by
  rw [(partition_eq_ok h).2 k, Batch.slice] at hk
  split at hk
  · cases hk
    exact Nat.zero_add k
  · cases hk

theorem getElem?_partition_iff (h : partition items size = .ok batches) {k : Nat}
    {batch : Batch α} : batches[k]? = some batch ↔ batch ∈ batches ∧ batch.index = k := by
  constructor
  · intro hk
    exact ⟨List.mem_of_getElem? hk, index_partition h hk⟩
  · rintro ⟨hmem, rfl⟩
    obtain ⟨k, hk⟩ := List.mem_iff_getElem?.mp hmem
    rw [index_partition h hk]
    exact hk

theorem map_index_partition (h : partition items size = .ok batches) :
    batches.map (·.index) = List.range batches.length := by
  apply List.ext_getElem?
  intro k
  rw [List.getElem?_map]
  by_cases hk : k < batches.length
  · have hbatch := List.getElem?_eq_getElem hk
    rw [List.getElem?_range hk, hbatch, Option.map_some, index_partition h hbatch]
  · have hlength := Nat.le_of_not_lt hk
    rw [List.getElem?_eq_none hlength, List.getElem?_eq_none (by rwa [List.length_range])]
    rfl

theorem nodup_index_partition (h : partition items size = .ok batches) :
    (batches.map (·.index)).Nodup := by
  rw [map_index_partition h]
  exact List.nodup_range

/-- Batch `k` has items, as many as are left for it and go into it. -/
theorem length_operations (h : partition items size = .ok batches) {k : Nat} {batch : Batch α}
    (hk : batches[k]? = some batch) :
    k * size < items.length ∧ batch.operations.length = min size (items.length - k * size) := by
  rw [(partition_eq_ok h).2 k, Batch.slice] at hk
  split at hk
  · rename_i hleft
    cases hk
    exact ⟨hleft, by rw [List.length_take, List.length_drop]⟩
  · cases hk

theorem getElem?_operations (h : partition items size = .ok batches) {k : Nat} {batch : Batch α}
    (hk : batches[k]? = some batch) (offset : Nat) :
    batch.operations[offset]? = if offset < size then items[k * size + offset]? else none := by
  rw [(partition_eq_ok h).2 k, Batch.slice] at hk
  split at hk
  · cases hk
    rw [List.getElem?_take, List.getElem?_drop]
  · cases hk

/-- The item at a position stands in the batch that the position is divided into. -/
theorem mem_partition_iff (h : partition items size = .ok batches) {k : Nat} {batch : Batch α}
    (hk : batches[k]? = some batch) (item : α) :
    item ∈ batch.operations ↔ ∃ i, items[i]? = some item ∧ i / size = k := by
  have hsize := (partition_eq_ok h).1
  rw [List.mem_iff_getElem?]
  constructor
  · rintro ⟨offset, hitem⟩
    rw [getElem?_operations h hk] at hitem
    split at hitem
    case isFalse => cases hitem
    rename_i hoffset
    refine ⟨k * size + offset, hitem, ?_⟩
    rw [Nat.mul_comm, Nat.mul_add_div hsize, Nat.div_eq_of_lt hoffset, Nat.add_zero]
  · rintro ⟨i, hi, rfl⟩
    refine ⟨i % size, ?_⟩
    rw [getElem?_operations h hk, if_pos (Nat.mod_lt i hsize), Nat.mul_comm, Nat.div_add_mod]
    exact hi

/-- The batches before a cut hold the items of their own positions. -/
theorem flatMap_operations_take (h : partition items size = .ok batches) (k : Nat) :
    (batches.take k).flatMap (·.operations) = items.take (k * size) := by
  induction k with
  | zero => simp
  | succ k ih =>
      rw [List.take_add_one, List.flatMap_append, ih, (partition_eq_ok h).2 k, Nat.succ_mul,
        List.take_add, Batch.slice]
      split
      · simp
      · rename_i hover
        simp [List.drop_eq_nil_of_le (Nat.le_of_not_lt hover)]

/-- Of batches cut in two, the second part goes on with the indexes where the first part ends. -/
theorem map_index_append {front back : List (Batch α)}
    (h : partition items size = .ok (front ++ back)) :
    front.map (·.index) = List.range front.length ∧
      back.map (·.index) = (List.range back.length).map (front.length + ·) := by
  have hall := map_index_partition h
  rw [List.map_append, List.length_append, List.range_add] at hall
  exact List.append_inj hall (by rw [List.length_map, List.length_range])

end Batches

end BatchedGateway
