/- Printed text read as a value: one within the limits is read back, and of members of one name the
last value stays, in the place of the first. -/
import BatchedGateway.Proofs.Json.Decoding
import BatchedGateway.Proofs.Json.Layout
import BatchedGateway.Text.Blank

namespace BatchedGateway.Json
open Outcome

mutual
/-- A value nested at most `room` deep, with no numbers but whole ones of 64 bits. -/
def Within : Nat → Json → Prop
  | _, .num (.int n) => -(Nat.pow 2 63 : Int) ≤ n ∧ n ≤ maxNat64
  | _, .num (.float _) => False
  | 0, .arr _ => False
  | 0, .obj _ => False
  | room + 1, .arr items => WithinItems room items
  | room + 1, .obj members => WithinMembers room members
  | _, _ => True

def WithinItems : Nat → List Json → Prop
  | _, [] => True
  | room, v :: rest => Within room v ∧ WithinItems room rest

def WithinMembers : Nat → List (String × Json) → Prop
  | _, [] => True
  | room, (_, v) :: rest => Within room v ∧ WithinMembers room rest
end

mutual
/-- The value without repeated members. -/
def tidy : Json → Json
  | .arr items => .arr (tidyItems items)
  | .obj members => .obj (Members.ofList (tidyMembers members))
  | v => v

def tidyItems : List Json → List Json
  | [] => []
  | v :: rest => tidy v :: tidyItems rest

def tidyMembers : List (String × Json) → List (String × Json)
  | [] => []
  | (k, v) :: rest => (k, tidy v) :: tidyMembers rest
end

variable {room : Nat}

mutual
theorem integral_of_within : ∀ (room : Nat) (v : Json), Within room v → Integral v
  | _, .null, _ => trivial
  | _, .bool _, _ => trivial
  | _, .num (.int _), _ => trivial
  | _, .str _, _ => trivial
  | room + 1, .arr items, h => integral_of_withinItems room items h
  | room + 1, .obj members, h => integral_of_withinMembers room members h

theorem integral_of_withinItems : ∀ (room : Nat) (items : List Json), WithinItems room items →
    IntegralItems items
  | _, [], _ => trivial
  | room, v :: rest, h => ⟨integral_of_within room v h.1, integral_of_withinItems room rest h.2⟩

theorem integral_of_withinMembers : ∀ (room : Nat) (members : List (String × Json)),
    WithinMembers room members → IntegralMembers members
  | _, [], _ => trivial
  | room, (_, v) :: rest, h =>
      ⟨integral_of_within room v h.1, integral_of_withinMembers room rest h.2⟩
end

/-- A whole number of 64 bits is read as such. -/
theorem number?_written {n : Int} (h : -(Nat.pow 2 63 : Int) ≤ n ∧ n ≤ maxNat64) :
    Numeral.number? ⟨n < 0, Nat.toDigits 10 n.natAbs, none, none⟩ = .ok (.int n) := by
  obtain ⟨hlow, hhigh⟩ := h
  by_cases hn : n < 0
  · have hrange : 0 < n.natAbs ∧ n.natAbs ≤ Nat.pow 2 63 := by omega
    have hvalue : -(n.natAbs : Int) = n := by omega
    simp only [Numeral.number?, hn, decide_true, if_true, Nat.ofDigitChars_ten_toDigits, hrange,
      and_self, hvalue]
  · have hrange : n.natAbs ≤ maxNat64 := by omega
    have hvalue : (n.natAbs : Int) = n := by omega
    simp only [Numeral.number?, hn, decide_false, Bool.false_eq_true, if_false,
      Nat.ofDigitChars_ten_toDigits, hrange, if_true, hvalue]

mutual
theorem toJson?_written : ∀ (room : Nat) (v : Json), Within room v →
    (written v).toJson? room = .ok (tidy v)
  | _, .null, _ => by simp [written, Written.toJson?, tidy]
  | _, .bool _, _ => by simp [written, Written.toJson?, tidy]
  | _, .num (.int n), h => by
      rw [written, Written.toJson?, number?_written (by simpa [Within] using h), ok_bind, tidy]
      all_goals simp
  | _, .str s, _ => by simp [written, Written.toJson?, tidy]
  | room + 1, .arr items, h => by
      simp [written, Written.toJson?, tidy, toItems?_written room items h]
  | room + 1, .obj members, h => by
      simp [written, Written.toJson?, tidy, toMembers?_written room members h]

theorem toItems?_written : ∀ (room : Nat) (items : List Json), WithinItems room items →
    Written.toItems? room (writtenItems items) = .ok (tidyItems items)
  | _, [], _ => by simp [writtenItems, Written.toItems?, tidyItems]
  | room, v :: rest, h => by
      simp [writtenItems, Written.toItems?, tidyItems, toJson?_written room v h.1,
        toItems?_written room rest h.2]

theorem toMembers?_written : ∀ (room : Nat) (members : List (String × Json)),
    WithinMembers room members →
    Written.toMembers? room (writtenMembers members) = .ok (tidyMembers members)
  | _, [], _ => by simp [writtenMembers, Written.toMembers?, tidyMembers]
  | room, (_, v) :: rest, h => by
      simp [writtenMembers, Written.toMembers?, tidyMembers, toJson?_written room v h.1,
        toMembers?_written room rest h.2]
end

@[simp] theorem within_str (s : String) : Within room (.str s) := by
  cases room <;> trivial

theorem withinItems_iff {items : List Json} :
    WithinItems room items ↔ ∀ v ∈ items, Within room v := by
  induction items with
  | nil => simp [WithinItems]
  | cons v rest ih => simp [WithinItems, ih]

theorem withinMembers_iff {members : Members} :
    WithinMembers room members ↔ ∀ m ∈ members, Within room m.2 := by
  induction members with
  | nil => simp [WithinMembers]
  | cons m rest ih => simp [WithinMembers, ih]

theorem within_arr {items : List Json} :
    Within (room + 1) (.arr items) ↔ ∀ v ∈ items, Within room v := by
  rw [Within, withinItems_iff]

theorem within_obj {members : Members} :
    Within (room + 1) (.obj members) ↔ ∀ m ∈ members, Within room m.2 := by
  rw [Within, withinMembers_iff]

@[simp] theorem tidy_str (s : String) : tidy (.str s) = .str s := by simp [tidy]

theorem tidy_arr (items : List Json) : tidy (.arr items) = .arr (items.map tidy) := by
  have hitems : tidyItems items = items.map tidy := by
    induction items with
    | nil => rfl
    | cons v rest ih => rw [tidyItems, ih, List.map_cons]
  rw [tidy, hitems]

theorem tidyMembers_eq_map (members : Members) :
    tidyMembers members = members.map fun m => (m.1, m.2.tidy) := by
  induction members with
  | nil => rfl
  | cons m rest ih => rw [tidyMembers, ih, List.map_cons]

theorem Members.find?_eq_none {key : String} {members : Members}
    (h : ∀ m ∈ members, m.1 ≠ key) : find? key members = none := by
  induction members with
  | nil => rfl
  | cons m rest ih =>
      rw [find?, if_neg (h m List.mem_cons_self)]
      exact ih fun other hmem => h other (List.mem_cons_of_mem _ hmem)

/-- Members of distinct names that are put in behind others, of other names, stay as they are. -/
theorem Members.foldl_put (before : Members) {after : Members}
    (h : ((before ++ after).map (·.1)).Nodup) :
    after.foldl (fun ms e => put e.1 e.2 ms) before = before ++ after := by
  induction after generalizing before with
  | nil => simp
  | cons e rest ih =>
      have hnew : ∀ m ∈ before, m.1 ≠ e.1 := by
        rw [List.map_append, List.nodup_append] at h
        exact fun m hm =>
          h.2.2 m.1 (List.mem_map_of_mem hm) e.1 (List.mem_map_of_mem List.mem_cons_self)
      have hsame : before ++ e :: rest = before ++ [e] ++ rest := by simp
      rw [List.foldl_cons, put_of_find?_eq_none _ (find?_eq_none hnew), hsame]
      exact ih _ (hsame ▸ h)

/-- Members of distinct names are an object as they are. -/
theorem Members.ofList_of_nodup {members : Members} (h : (members.map (·.1)).Nodup) :
    ofList members = members := foldl_put [] h

theorem tidy_obj {members : Members} (h : (members.map (·.1)).Nodup) :
    tidy (.obj members) = .obj (members.map fun m => (m.1, m.2.tidy)) := by
  have hkeys : (members.map fun m => (m.1, m.2.tidy)).map (·.1) = members.map (·.1) := by
    rw [List.map_map]
    rfl
  rw [tidy, tidyMembers_eq_map, Members.ofList_of_nodup (hkeys ▸ h)]

/-- Printed text is read as the value it was printed from, less the members that were repeated. -/
theorem parse_print (layout : Layout) {blanks : String}
    (hblanks : blanks.toList.all Written.isSpace) {v : Json} (h : Within depthLimit v) :
    parse (blanks ++ layout.print v) = .ok v.tidy := by
  rw [parse, layout.read_print hblanks (integral_of_within _ v h), ok_bind, toJson?_written _ v h]

theorem isBlank_of_isSpace {c : Char} (h : Written.isSpace c = true) :
    Text.isBlank c = true := by
  simp only [Written.isSpace, Bool.or_eq_true, decide_eq_true_eq] at h
  rcases h with ((rfl | rfl) | rfl) | rfl <;> rfl

/-- The first thing in the text of an object is its brace. -/
theorem firstInk_print (layout : Layout) {blanks : String}
    (hblanks : blanks.toList.all Written.isSpace) (members : Members) :
    Text.firstInk (blanks ++ layout.print (.obj members)) = some '\x7b' := by
  obtain ⟨rest, hrest⟩ := List.head?_eq_some_iff.mp (layout.head?_chars_obj members)
  have hskipped : ∀ c ∈ blanks.toList, Text.isBlank c = true :=
    fun c hc => isBlank_of_isSpace (List.all_eq_true.mp hblanks c hc)
  have hink : ¬ Text.isBlank '\x7b' = true := by decide
  rw [Text.firstInk, Text.dropBlanks, String.toList_append, layout.toList_print, hrest,
    List.dropWhile_append_of_pos hskipped, List.dropWhile_cons_of_neg hink, List.head?_cons]

end BatchedGateway.Json
