/- Typed reading of printed records: each field is found under its name, and what one decoder reads
back can be a part of what another one reads back. -/
import BatchedGateway.Proofs.Json.Decoding
import BatchedGateway.Proofs.Json.Layout

namespace BatchedGateway.Json
open Outcome

/-- A decoder reads a printed value as what it was printed from. -/
structure ReadsBack {α : Type} (value : Decoder α) (v : Json) (a : α) : Prop where
  integral : Integral v
  read : value (written v) = .ok a

theorem integralItems_iff {items : List Json} : IntegralItems items ↔ ∀ v ∈ items, Integral v := by
  induction items with
  | nil => simp [IntegralItems]
  | cons v rest ih => simp [IntegralItems, ih]

theorem writtenItems_eq_map (items : List Json) : writtenItems items = items.map written := by
  induction items with
  | nil => rfl
  | cons v rest ih => rw [writtenItems, ih, List.map_cons]

@[simp] theorem integral_str (s : String) : Integral (.str s) := trivial

@[simp] theorem integral_ofNat (n : Nat) : Integral (ofNat n) := trivial

@[simp] theorem integral_ofOption (o : Option String) : Integral (ofOption o) := by
  cases o <;> trivial

theorem integral_arr {items : List Json} : Integral (.arr items) ↔ ∀ v ∈ items, Integral v := by
  rw [Integral, integralItems_iff]

theorem integral_obj {members : Members} :
    Integral (.obj members) ↔ ∀ m ∈ members, Integral m.2 := by
  rw [Integral, integralMembers_iff]

namespace ReadsBack

variable {α : Type} {value : Decoder α} {print : α → Json}

theorem decode_print {v : Json} {a : α} (h : ReadsBack value v a) (layout : Layout) :
    decode value (layout.print v) = .ok a :=
  (Json.decode_print value layout h.integral).trans h.read

theorem string (s : String) : ReadsBack .string (.str s) s :=
  ⟨trivial, Decoder.string_written s⟩

theorem nat64 {n : Nat} (h : n ≤ maxNat64) : ReadsBack .nat64 (ofNat n) n :=
  ⟨trivial, Decoder.nat64_written h⟩

theorem list {as : List α} (h : ∀ a ∈ as, ReadsBack value (print a) a) :
    ReadsBack (.list value) (.arr (as.map print)) as where
  integral := by
    rw [integral_arr, List.forall_mem_map]
    exact fun a ha => (h a ha).integral
  read := by
    rw [written, writtenItems_eq_map, List.map_map, Decoder.list, List.mapM_map]
    exact (mapM_eq_ok (g := id) fun a ha => (h a ha).read).trans (by rw [List.map_id])

theorem tableByName {t : SortedMap String α}
    (h : ∀ e ∈ t.entries, ReadsBack value (print e.2) e.2) :
    ReadsBack (.tableByName value) (.obj (t.entries.map fun e => (e.1, print e.2))) t where
  integral := by
    rw [integral_obj, List.forall_mem_map]
    exact fun e he => (h e he).integral
  read := Decoder.tableByName_written fun e he => (h e he).read

theorem tableByNumber {t : SortedMap Nat α} (h : ∀ e ∈ t.entries, ReadsBack value (print e.2) e.2)
    (hkeys : ∀ e ∈ t.entries, e.1 ≤ maxNat64) :
    ReadsBack (.tableByNumber value)
      (.obj (t.entries.map fun e => (Text.decimal e.1, print e.2))) t where
  integral := by
    rw [integral_obj, List.forall_mem_map]
    exact fun e he => (h e he).integral
  read := Decoder.tableByNumber_written (fun e he => (h e he).read) hkeys

theorem oneOf {names : List (String × α)} {name : String} {a : α} (h : names.lookup name = some a) :
    ReadsBack (.oneOf names) (.str name) a := by
  refine ⟨trivial, ?_⟩
  simp only [written, Decoder.oneOf, Mark.string?_marksOf, ok_bind, h]

end ReadsBack

/-- What a record holds for a field after its members were printed. -/
def Slot.of (members : Members) (name : String) : Slot :=
  (Members.find? name members).elim .missing fun v => .present (written v)

namespace Slot

variable {α : Type} (fallback : α) (value : Decoder α) (w : Written) (name : String)

@[simp] theorem of_nil : Slot.of [] name = .missing := rfl

@[simp] theorem of_cons (m : String × Json) (members : Members) :
    Slot.of (m :: members) name =
      if m.1 = name then .present (written m.2) else Slot.of members name := by
  by_cases h : m.1 = name <;> simp [Slot.of, Members.find?, h]

@[simp] theorem required_present : required value (.present w) = value w := rfl

@[simp] theorem orElse_present : orElse fallback value (.present w) = value w := rfl

@[simp] theorem orElse_missing : orElse fallback value .missing = .ok fallback := rfl

@[simp] theorem optional_present : optional value (.present w) = Decoder.optional value w := rfl

@[simp] theorem optional_missing : optional value .missing = .ok none := rfl

end Slot

/-- A text that may be absent is read back from null and from the text. -/
@[simp] theorem Decoder.optional_written (o : Option String) :
    Decoder.optional .string (written (ofOption o)) = .ok o := by
  cases o with
  | none => rfl
  | some s => simp [ofOption, Decoder.optional, written, Decoder.string]

@[simp] theorem Decoder.optional_written_str (s : String) :
    Decoder.optional .string (written (.str s)) = .ok (some s) := optional_written (some s)

theorem slotOf_written {members : Members} (h : (members.map (·.1)).Nodup) (name : String) :
    slotOf name (members.map fun m => (m.1, written m.2)) = .ok (Slot.of members name) := by
  induction members with
  | nil => rfl
  | cons m rest ih =>
      obtain ⟨hm, hrest⟩ := List.nodup_cons.mp h
      rw [List.map_cons, slotOf]
      by_cases hname : m.1 = name
      · have hone : ¬ (rest.map fun m => (m.1, written m.2)).any (·.1 == name) = true := by
          simp only [List.any_map, List.any_eq_true, Function.comp_apply, beq_iff_eq, not_exists,
            not_and]
          intro other hother heq
          exact hm (List.mem_map.mpr ⟨other, hother, heq.trans hname.symm⟩)
        rw [if_pos hname, if_neg hone, Slot.of_cons, if_pos hname]
      · rw [if_neg hname, ih hrest, Slot.of_cons, if_neg hname]

/-- The fields of a printed record, if it has no two members of one name. -/
theorem fields_written {members : Members} (h : (members.map (·.1)).Nodup) (names : List String) :
    fields names (written (.obj members)) = .ok (names.map (Slot.of members)) := by
  rw [written, writtenMembers_eq_map, fields, List.mapM_map,
    mapM_eq_ok (g := fun m => (m.1, written m.2)) fun m _ => by simp, ok_bind]
  exact mapM_eq_ok fun name _ => slotOf_written h name

end BatchedGateway.Json
