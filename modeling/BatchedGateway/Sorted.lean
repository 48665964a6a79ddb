/- Finite tables kept in key order. -/

namespace BatchedGateway

variable {κ ν : Type} [Ord κ]

namespace Sorted

/-- Puts a key in its place; a key already there takes the new value. -/
def place (k : κ) (v : ν) : List (κ × ν) → List (κ × ν)
  | [] => [(k, v)]
  | (k', v') :: rest =>
      match compare k k' with
      | .lt => (k, v) :: (k', v') :: rest
      | .eq => (k, v) :: rest
      | .gt => (k', v') :: place k v rest

def find? (k : κ) : List (κ × ν) → Option ν
  | [] => none
  | (k', v') :: rest => if compare k k' = .eq then some v' else find? k rest

def InOrder (entries : List (κ × ν)) : Prop :=
  entries.Pairwise fun a b => compare a.1 b.1 = .lt

theorem mem_place {k : κ} {v : ν} {entries : List (κ × ν)} {e : κ × ν}
    (h : e ∈ place k v entries) : e = (k, v) ∨ e ∈ entries := by
  induction entries with
  | nil => simpa [place] using h
  | cons head rest ih =>
      obtain ⟨k', v'⟩ := head
      simp only [place] at h
      split at h <;> simp only [List.mem_cons] at h ⊢
      · exact h
      · exact h.imp_right .inr
      · rcases h with rfl | h
        · exact .inr (.inl rfl)
        · exact (ih h).imp_right .inr

theorem InOrder.place [Std.TransOrd κ] {k : κ} {v : ν} {entries : List (κ × ν)}
    (h : InOrder entries) : InOrder (place k v entries) := by
  induction entries with
  | nil => exact List.pairwise_singleton _ _
  | cons head rest ih =>
      obtain ⟨k', v'⟩ := head
      obtain ⟨hhead, hrest⟩ := List.pairwise_cons.mp h
      simp only [Sorted.place]
      split
      · rename_i hlt
        refine List.pairwise_cons.mpr ⟨fun e he => ?_, h⟩
        rcases List.mem_cons.mp he with rfl | he
        · exact hlt
        · exact Std.TransCmp.lt_trans hlt (hhead e he)
      · rename_i heq
        exact List.pairwise_cons.mpr
          ⟨fun e he => Std.TransCmp.lt_of_eq_of_lt heq (hhead e he), hrest⟩
      · rename_i hgt
        refine List.pairwise_cons.mpr ⟨fun e he => ?_, ih hrest⟩
        rcases mem_place he with rfl | he
        · exact Std.OrientedCmp.lt_of_gt hgt
        · exact hhead e he

theorem find?_place_self [Std.ReflOrd κ] {k : κ} {v : ν} {entries : List (κ × ν)} :
    find? k (place k v entries) = some v := by
  induction entries with
  | nil => simp [place, find?]
  | cons head rest ih =>
      obtain ⟨k', v'⟩ := head
      simp only [place]
      split
      · simp [find?]
      · simp [find?]
      · rename_i hgt
        simp [find?, hgt, ih]

theorem find?_place_of_ne [Std.TransOrd κ] {k j : κ} {v : ν} {entries : List (κ × ν)}
    (h : compare j k ≠ .eq) : find? j (place k v entries) = find? j entries := by
  induction entries with
  | nil => simp [place, find?, h]
  | cons head rest ih =>
      obtain ⟨k', v'⟩ := head
      simp only [place]
      split
      · simp [find?, h]
      · rename_i heq
        have hne : compare j k' ≠ .eq := fun he =>
          h (Std.TransCmp.eq_trans he (Std.OrientedCmp.eq_symm heq))
        simp [find?, h, hne]
      · simp [find?, ih]

end Sorted

/-- A finite map. Two maps with the same entries are equal, since the order is fixed. -/
structure SortedMap (κ ν : Type) [Ord κ] where
  entries : List (κ × ν)
  inOrder : Sorted.InOrder entries

namespace SortedMap

theorem ext {s t : SortedMap κ ν} (h : s.entries = t.entries) : s = t := by
  cases s; cases t; cases h; rfl

def empty : SortedMap κ ν := ⟨[], List.Pairwise.nil⟩

instance : EmptyCollection (SortedMap κ ν) := ⟨empty⟩
instance : Inhabited (SortedMap κ ν) := ⟨empty⟩
instance [DecidableEq κ] [DecidableEq ν] : DecidableEq (SortedMap κ ν) := fun s t =>
  if h : s.entries = t.entries then .isTrue (ext h) else .isFalse fun e => h (e ▸ rfl)

def get? (t : SortedMap κ ν) (k : κ) : Option ν := Sorted.find? k t.entries

def contains (t : SortedMap κ ν) (k : κ) : Bool := (t.get? k).isSome

def size (t : SortedMap κ ν) : Nat := t.entries.length

def isEmpty (t : SortedMap κ ν) : Bool := t.entries.isEmpty

def keys (t : SortedMap κ ν) : List κ := t.entries.map (·.1)

@[simp] theorem get?_empty (k : κ) : (∅ : SortedMap κ ν).get? k = none := rfl

variable [Std.TransOrd κ]

def insert (t : SortedMap κ ν) (k : κ) (v : ν) : SortedMap κ ν :=
  ⟨Sorted.place k v t.entries, t.inOrder.place⟩

/-- Entered from left to right, so of a repeated key the last value stays. -/
def ofList (entries : List (κ × ν)) : SortedMap κ ν :=
  entries.foldl (fun t e => t.insert e.1 e.2) ∅

@[simp] theorem get?_insert_self (t : SortedMap κ ν) (k : κ) (v : ν) :
    (t.insert k v).get? k = some v := Sorted.find?_place_self

theorem get?_insert_of_ne {t : SortedMap κ ν} {k j : κ} {v : ν} (h : compare j k ≠ .eq) :
    (t.insert k v).get? j = t.get? j := Sorted.find?_place_of_ne h

end SortedMap

/-- A finite set of names, in order. -/
abbrev NameSet := SortedMap String Unit

namespace NameSet

def ofNames (names : List String) : NameSet := SortedMap.ofList (names.map (·, ()))

end NameSet

end BatchedGateway
