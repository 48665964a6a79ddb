/- Typed reading of printed values: texts, numbers of 64 bits, and tables by name and number. -/
import BatchedGateway.Json.Decode
import BatchedGateway.Proofs.Json.Printing
import BatchedGateway.Proofs.Sorted
import BatchedGateway.Text.Encoding

namespace BatchedGateway.Json
open Outcome

theorem writtenMembers_eq_map (members : List (String × Json)) :
    writtenMembers members = members.map fun m => (marksOf m.1, written m.2) := by
  induction members with
  | nil => rfl
  | cons m rest ih => rw [writtenMembers, ih, List.map_cons]

theorem integralMembers_iff {members : List (String × Json)} :
    IntegralMembers members ↔ ∀ m ∈ members, Integral m.2 := by
  induction members with
  | nil => simp [IntegralMembers]
  | cons m rest ih => simp [IntegralMembers, ih]

theorem decode_compact {α : Type} (value : Decoder α) {v : Json} (hv : Integral v) :
    decode value v.compact = value (written v) := by
  rw [decode, read_compact hv, ok_bind]

namespace Decoder

@[simp] theorem string_written (s : String) : string (written (.str s)) = .ok s :=
  Mark.string?_marksOf s

theorem nat64_written {n : Nat} (h : n ≤ maxNat64) : nat64 (written (.ofNat n)) = .ok n := by
  have hnumber : Numeral.number? ⟨false, Nat.toDigits 10 n, none, none⟩ = .ok (.int n) := by
    simp [Numeral.number?, Nat.ofDigitChars_ten_toDigits, h]
  have hwritten : written (.ofNat n) = .numeral ⟨false, Nat.toDigits 10 n, none, none⟩ := by
    simp [ofNat, written]
  rw [hwritten, nat64, hnumber, ok_bind]
  exact if_pos h

theorem tableByName_written {α : Type} {value : Decoder α} {print : α → Json}
    {t : SortedMap String α} (h : ∀ e ∈ t.entries, value (written (print e.2)) = .ok e.2) :
    tableByName value (written (.obj (t.entries.map fun e => (e.1, print e.2)))) = .ok t := by
  rw [written, writtenMembers_eq_map, List.map_map, tableByName, List.mapM_map,
    mapM_eq_ok (g := id), ok_bind, List.map_id, SortedMap.ofList_entries]
  intro e he
  simp [h e he]

theorem rawChars?_ofDigits {ds : List Char} (h : ∀ c ∈ ds, c.isDigit = true) :
    rawChars? (ds.map Mark.of) = some ds := by
  induction ds with
  | nil => rfl
  | cons c ds ih =>
      have hc := h c List.mem_cons_self
      have hraw : Mark.of c = .raw c := by
        unfold Mark.of
        split
        case h_8 =>
          have hlarge : ¬ c.toNat < 32 := by
            simp only [Char.isDigit, Bool.and_eq_true, decide_eq_true_eq] at hc
            have hlow : 48 ≤ c.toNat := hc.1
            omega
          rw [if_neg hlarge]
        all_goals exact absurd hc (by decide)
      rw [List.map_cons, hraw, rawChars?, ih fun d hd => h d (List.mem_cons_of_mem _ hd)]
      rfl

/-- A key that is printed as a number is read as that number. -/
theorem numberKey?_decimal {n : Nat} (h : n ≤ maxNat64) :
    numberKey? (marksOf (Text.decimal n)) = .ok n := by
  have hds := isWhole_toDigits n
  have hraw : rawChars? (marksOf (Text.decimal n)) = some (Nat.toDigits 10 n) := by
    rw [marksOf, Text.decimal, String.toList_ofList]
    exact rawChars?_ofDigits hds.isDigit
  obtain ⟨d, more, hcons, -⟩ := hds.head
  have hdigits : (d :: more).all Char.isDigit = true := by
    rw [← hcons]
    exact List.all_eq_true.mpr hds.isDigit
  have hzero : d ≠ '0' ∨ more = [] := by
    by_cases hd : d = '0'
    · have halone := hds.zero_alone (by rw [hcons, hd]; rfl)
      rw [hcons] at halone
      cases halone
      exact .inr rfl
    · exact .inl hd
  have hvalue : Nat.ofDigitChars 10 (d :: more) 0 = n := by
    rw [← hcons]
    exact Nat.ofDigitChars_ten_toDigits
  rw [numberKey?, hraw, hcons]
  simp only [hdigits, hzero, and_self, if_true, hvalue, h]

theorem tableByNumber_written {α : Type} {value : Decoder α} {print : α → Json}
    {t : SortedMap Nat α} (h : ∀ e ∈ t.entries, value (written (print e.2)) = .ok e.2)
    (hkeys : ∀ e ∈ t.entries, e.1 ≤ maxNat64) :
    tableByNumber value (written (.obj (t.entries.map fun e => (Text.decimal e.1, print e.2)))) =
      .ok t := by
  rw [written, writtenMembers_eq_map, List.map_map, tableByNumber, List.mapM_map,
    mapM_eq_ok (g := id), ok_bind, List.map_id, SortedMap.ofList_entries]
  intro e he
  simp [h e he, numberKey?_decimal (hkeys e he)]

end Decoder

end BatchedGateway.Json
