/- The texts of JSON values with whole numbers, as a grammar without fuel; every text of the
grammar is read. -/
import BatchedGateway.Json.Written
import BatchedGateway.Proofs.Outcome

namespace BatchedGateway.Json.Written
open Outcome

/-- What follows a whole number does not go on with it. -/
def EndsNumeral (rest : List Char) : Prop :=
  ∀ c ∈ rest.head?, c.isDigit = false ∧ c ≠ '.' ∧ c ≠ 'e' ∧ c ≠ 'E'

/-- Digits without a leading zero. -/
structure IsWhole (ds : List Char) : Prop where
  ne_nil : ds ≠ []
  isDigit : ∀ c ∈ ds, c.isDigit = true
  zero_alone : ds.head? = some '0' → ds = ['0']

def signed (negative : Bool) (ds : List Char) : List Char := if negative then '-' :: ds else ds

mutual
/-- A value at the front of a text, perhaps after blanks, and the text that follows it. -/
inductive Spells : List Char → Written → List Char → Prop
  | null {cs rest} : skipSpace cs = 'n' :: 'u' :: 'l' :: 'l' :: rest → Spells cs .null rest
  | true {cs rest} : skipSpace cs = 't' :: 'r' :: 'u' :: 'e' :: rest → Spells cs (.bool true) rest
  | false {cs rest} :
      skipSpace cs = 'f' :: 'a' :: 'l' :: 's' :: 'e' :: rest → Spells cs (.bool false) rest
  | whole {cs rest ds} (negative : Bool) : skipSpace cs = signed negative ds ++ rest →
      IsWhole ds → EndsNumeral rest → Spells cs (.numeral ⟨negative, ds, none, none⟩) rest
  | string {cs body rest marks} : skipSpace cs = '"' :: body →
      readMarks body = .ok (marks, rest) → Spells cs (.string marks) rest
  | noItems {cs body rest} : skipSpace cs = '[' :: body → skipSpace body = ']' :: rest →
      Spells cs (.array []) rest
  | array {cs body rest items} : skipSpace cs = '[' :: body → SpellsItems body items rest →
      Spells cs (.array items) rest
  | noMembers {cs body rest} : skipSpace cs = '\x7b' :: body → skipSpace body = '\x7d' :: rest →
      Spells cs (.object []) rest
  | object {cs body rest members} : skipSpace cs = '\x7b' :: body →
      SpellsMembers body members rest → Spells cs (.object members) rest

/-- Some items and the closing bracket. -/
inductive SpellsItems : List Char → List Written → List Char → Prop
  | lastItem {cs after rest w} : Spells cs w after → skipSpace after = ']' :: rest →
      SpellsItems cs [w] rest
  | moreItems {cs after tail rest w items} : Spells cs w after → skipSpace after = ',' :: tail →
      SpellsItems tail items rest → SpellsItems cs (w :: items) rest

/-- Some members and the closing brace. -/
inductive SpellsMembers : List Char → List (List Mark × Written) → List Char → Prop
  | lastMember {cs body middle text after rest key w} : skipSpace cs = '"' :: body →
      readMarks body = .ok (key, middle) → skipSpace middle = ':' :: text →
      Spells text w after → skipSpace after = '\x7d' :: rest → SpellsMembers cs [(key, w)] rest
  | moreMembers {cs body middle text after tail rest key w members} : skipSpace cs = '"' :: body →
      readMarks body = .ok (key, middle) → skipSpace middle = ':' :: text →
      Spells text w after → skipSpace after = ',' :: tail → SpellsMembers tail members rest →
      SpellsMembers cs ((key, w) :: members) rest
end

theorem length_skipSpace_le (cs : List Char) : (skipSpace cs).length ≤ cs.length :=
  (List.dropWhile_sublist isSpace).length_le

theorem skipSpace_idem (cs : List Char) : skipSpace (skipSpace cs) = skipSpace cs := by
  induction cs with
  | nil => rfl
  | cons c cs ih =>
      by_cases h : isSpace c = true
      · simpa [skipSpace, h] using ih
      · simp [skipSpace, h]

theorem length_lt_of_skipSpace {cs : List Char} {c : Char} {rest : List Char}
    (h : skipSpace cs = c :: rest) : rest.length < cs.length := by
  have hle := length_skipSpace_le cs
  rw [h] at hle
  exact hle

theorem readMarks_length {cs rest : List Char} {marks : List Mark}
    (h : readMarks cs = .ok (marks, rest)) : rest.length < cs.length := by
  fun_induction readMarks cs generalizing marks rest with
  | case1 => cases h
  | case2 tail => cases h; simp
  | case3 => cases h
  | case4 tail n after hhex ih =>
      obtain ⟨⟨more, left⟩, hmore, heq⟩ := bind_eq_ok.mp h
      cases heq
      have hlt := ih hmore
      have hafter := hex4?_length hhex
      simp only [List.length_cons]
      omega
  | case5 => cases h
  | case6 c tail hu e hc ih =>
      obtain ⟨⟨more, left⟩, hmore, heq⟩ := bind_eq_ok.mp h
      cases heq
      have hlt := ih hmore
      simp only [List.length_cons]
      omega
  | case7 => cases h
  | case8 => cases h
  | case9 c tail hquote huni hshort hend hcontrol ih =>
      obtain ⟨⟨more, left⟩, hmore, heq⟩ := bind_eq_ok.mp h
      cases heq
      have hlt := ih hmore
      simp only [List.length_cons]
      omega

theorem IsWhole.head {ds : List Char} (h : IsWhole ds) :
    ∃ d more, ds = d :: more ∧ d.isDigit = true := by
  cases ds with
  | nil => exact absurd rfl h.ne_nil
  | cons d more => exact ⟨d, more, rfl, h.isDigit d List.mem_cons_self⟩

theorem IsWhole.length_lt {ds : List Char} (h : IsWhole ds) (negative : Bool)
    (rest : List Char) : rest.length < (signed negative ds ++ rest).length := by
  obtain ⟨d, more, rfl, -⟩ := h.head
  have hsigned : (d :: more).length ≤ (signed negative (d :: more)).length := by
    cases negative <;> simp [signed]
  rw [List.length_append]
  rw [List.length_cons] at hsigned
  omega

mutual
/-- A value takes up at least one character. -/
theorem Spells.length_lt {cs rest : List Char} {w : Written} :
    Spells cs w rest → rest.length < cs.length
  | .null h => by
      have := length_lt_of_skipSpace h
      simp only [List.length_cons] at this
      omega
  | .true h => by
      have := length_lt_of_skipSpace h
      simp only [List.length_cons] at this
      omega
  | .false h => by
      have := length_lt_of_skipSpace h
      simp only [List.length_cons] at this
      omega
  | .whole negative h hds hrest => by
      have hle := length_skipSpace_le cs
      rw [h] at hle
      exact Nat.lt_of_lt_of_le (hds.length_lt negative rest) hle
  | .string h hmarks => Nat.lt_trans (readMarks_length hmarks) (length_lt_of_skipSpace h)
  | .noItems h hclose =>
      Nat.lt_trans (length_lt_of_skipSpace hclose) (length_lt_of_skipSpace h)
  | .array h hitems => Nat.lt_trans hitems.length_lt (length_lt_of_skipSpace h)
  | .noMembers h hclose =>
      Nat.lt_trans (length_lt_of_skipSpace hclose) (length_lt_of_skipSpace h)
  | .object h hmembers => Nat.lt_trans hmembers.length_lt (length_lt_of_skipSpace h)

theorem SpellsItems.length_lt {cs rest : List Char} {items : List Written} :
    SpellsItems cs items rest → rest.length < cs.length
  | .lastItem hvalue hclose => Nat.lt_trans (length_lt_of_skipSpace hclose) hvalue.length_lt
  | .moreItems hvalue hcomma hitems => by
      have hafter := hvalue.length_lt
      have htail := length_lt_of_skipSpace hcomma
      have hrest := hitems.length_lt
      omega

theorem SpellsMembers.length_lt {cs rest : List Char} {members : List (List Mark × Written)} :
    SpellsMembers cs members rest → rest.length < cs.length
  | .lastMember h hkey hcolon hvalue hclose => by
      have hbody := length_lt_of_skipSpace h
      have hmiddle := readMarks_length hkey
      have htext := length_lt_of_skipSpace hcolon
      have hafter := hvalue.length_lt
      have hrest := length_lt_of_skipSpace hclose
      omega
  | .moreMembers h hkey hcolon hvalue hcomma hmembers => by
      have hbody := length_lt_of_skipSpace h
      have hmiddle := readMarks_length hkey
      have htext := length_lt_of_skipSpace hcolon
      have hafter := hvalue.length_lt
      have htail := length_lt_of_skipSpace hcomma
      have hrest := hmembers.length_lt
      omega
end

/-- A value starts with neither a closing bracket nor a closing brace. -/
theorem Spells.head {cs rest : List Char} {w : Written} (h : Spells cs w rest) :
    ∃ c more, skipSpace cs = c :: more ∧ c ≠ ']' := by
  cases h with
  | null h => exact ⟨_, _, h, by decide⟩
  | true h => exact ⟨_, _, h, by decide⟩
  | false h => exact ⟨_, _, h, by decide⟩
  | whole negative h hds hrest =>
      obtain ⟨d, more, rfl, hd⟩ := hds.head
      have hne : d ≠ ']' := by
        rintro rfl
        exact absurd hd (by decide)
      cases negative with
      | true => exact ⟨_, _, h, by decide⟩
      | false => exact ⟨_, _, h, hne⟩
  | string h hmarks => exact ⟨_, _, h, by decide⟩
  | noItems h hclose => exact ⟨_, _, h, by decide⟩
  | array h hitems => exact ⟨_, _, h, by decide⟩
  | noMembers h hclose => exact ⟨_, _, h, by decide⟩
  | object h hmembers => exact ⟨_, _, h, by decide⟩

/-- Digits are taken up to their end. -/
theorem digits_append {ds rest : List Char} (hds : ∀ c ∈ ds, c.isDigit = true)
    (hrest : EndsNumeral rest) : digits (ds ++ rest) = (ds, rest) := by
  have hnone : ∀ c ∈ rest.head?, ¬ c.isDigit = true := by
    intro c hc
    simp [(hrest c hc).1]
  have htake : rest.takeWhile Char.isDigit = [] := by
    cases rest with
    | nil => rfl
    | cons c more => exact List.takeWhile_cons_of_neg (hnone c rfl)
  have hdrop : rest.dropWhile Char.isDigit = rest := by
    cases rest with
    | nil => rfl
    | cons c more => exact List.dropWhile_cons_of_neg (hnone c rfl)
  simp [digits, List.takeWhile_append_of_pos hds, List.dropWhile_append_of_pos hds, htake, hdrop]

theorem readFraction_of_ends {rest : List Char} (h : EndsNumeral rest) :
    readFraction rest = .ok (none, rest) := by
  cases rest with
  | nil => rfl
  | cons c more =>
      have hpoint : c ≠ '.' := (h c rfl).2.1
      rw [readFraction]
      intro tail htail
      cases htail
      exact hpoint rfl

theorem readPower_of_ends {rest : List Char} (h : EndsNumeral rest) :
    readPower rest = .ok (none, rest) := by
  cases rest with
  | nil => rfl
  | cons c more =>
      obtain ⟨-, -, he, hE⟩ := h c rfl
      unfold readPower
      simp [he, hE]

theorem readNumeral_whole {ds rest : List Char} (hds : IsWhole ds) (hrest : EndsNumeral rest)
    (negative : Bool) : readNumeral negative (ds ++ rest) =
      .ok (.numeral ⟨negative, ds, none, none⟩, rest) := by
  rw [readNumeral, digits_append hds.isDigit hrest]
  split
  · rename_i heq
    cases heq
    exact absurd rfl hds.ne_nil
  · rename_i heq
    cases heq
    cases hds.zero_alone rfl
  · rename_i heq
    cases heq
    rw [readFraction_of_ends hrest, ok_bind]
    simp only [readPower_of_ends hrest, ok_bind]

/-! Blanks in front of a value make no difference to the readers. -/

theorem readValue_skipSpace (fuel : Nat) (cs : List Char) :
    readValue fuel (skipSpace cs) = readValue fuel cs := by
  cases fuel with
  | zero => rfl
  | succ fuel => rw [readValue, readValue, skipSpace_idem]

theorem readItems_skipSpace (fuel : Nat) (cs : List Char) :
    readItems fuel (skipSpace cs) = readItems fuel cs := by
  cases fuel with
  | zero => rfl
  | succ fuel => rw [readItems, readItems, readValue_skipSpace]

theorem readMembers_skipSpace (fuel : Nat) (cs : List Char) :
    readMembers fuel (skipSpace cs) = readMembers fuel cs := by
  cases fuel with
  | zero => rfl
  | succ fuel => rw [readMembers, readMembers, skipSpace_idem]

theorem readValue_digit {cs more : List Char} {d : Char} (h : skipSpace cs = d :: more)
    (hd : d.isDigit = true) (fuel : Nat) :
    readValue (fuel + 1) cs = readNumeral false (d :: more) := by
  rw [readValue, h]
  split
  case h_9 heq =>
    cases heq
    rw [if_pos hd]
  all_goals
    rename_i heq
    cases heq
    try exact absurd hd (by decide)

theorem readValue_whole {cs rest ds : List Char} {negative : Bool}
    (h : skipSpace cs = signed negative ds ++ rest) (hds : IsWhole ds) (hrest : EndsNumeral rest)
    (fuel : Nat) :
    readValue (fuel + 1) cs = .ok (.numeral ⟨negative, ds, none, none⟩, rest) := by
  cases negative with
  | true =>
      rw [readValue, h]
      exact readNumeral_whole hds hrest true
  | false =>
      obtain ⟨d, more, rfl, hd⟩ := hds.head
      rw [readValue_digit h hd]
      exact readNumeral_whole hds hrest false

theorem readValue_array {cs body rest : List Char} {items : List Written} {fuel : Nat}
    (h : skipSpace cs = '[' :: body) (hbody : ∃ c more, skipSpace body = c :: more ∧ c ≠ ']')
    (hitems : readItems fuel body = .ok (items, rest)) :
    readValue (fuel + 1) cs = .ok (.array items, rest) := by
  obtain ⟨c, more, hc, hne⟩ := hbody
  rw [← readItems_skipSpace, hc] at hitems
  rw [readValue, h]
  simp only [hc]
  split
  · rename_i heq
    cases heq
    exact absurd rfl hne
  · rw [hitems, ok_bind]

theorem readValue_object {cs body rest : List Char} {members : List (List Mark × Written)}
    {fuel : Nat} (h : skipSpace cs = '\x7b' :: body)
    (hbody : ∃ more, skipSpace body = '"' :: more)
    (hmembers : readMembers fuel body = .ok (members, rest)) :
    readValue (fuel + 1) cs = .ok (.object members, rest) := by
  obtain ⟨more, hmore⟩ := hbody
  rw [← readMembers_skipSpace, hmore] at hmembers
  rw [readValue, h]
  simp only [hmore]
  split
  · rename_i heq
    cases heq
  · rw [hmembers, ok_bind]

theorem SpellsItems.head {cs rest : List Char} {items : List Written}
    (h : SpellsItems cs items rest) : ∃ c more, skipSpace cs = c :: more ∧ c ≠ ']' := by
  cases h with
  | lastItem hvalue hclose => exact hvalue.head
  | moreItems hvalue hcomma hitems => exact hvalue.head

theorem SpellsMembers.head {cs rest : List Char} {members : List (List Mark × Written)}
    (h : SpellsMembers cs members rest) : ∃ more, skipSpace cs = '"' :: more := by
  cases h with
  | lastMember h => exact ⟨_, h⟩
  | moreMembers h => exact ⟨_, h⟩

theorem exists_fuel {cs rest : List Char} {fuel : Nat} (hlt : rest.length < cs.length)
    (hfuel : cs.length ≤ fuel + rest.length) : ∃ n, fuel = n + 1 := ⟨fuel - 1, by omega⟩

/-- Every text of the grammar is read, if there is fuel for each of its characters. -/
theorem Spells.readValue {cs rest : List Char} {w : Written} (h : Spells cs w rest) :
    ∀ fuel, cs.length ≤ fuel + rest.length → readValue fuel cs = .ok (w, rest) := by
  induction h using Spells.rec
    (motive_2 := fun cs items rest _ => ∀ fuel, cs.length ≤ fuel + rest.length →
      readItems fuel cs = .ok (items, rest))
    (motive_3 := fun cs members rest _ => ∀ fuel, cs.length ≤ fuel + rest.length →
      readMembers fuel cs = .ok (members, rest)) with
  | null h =>
      intro fuel hfuel
      obtain ⟨n, rfl⟩ := exists_fuel (Spells.null h).length_lt hfuel
      rw [Written.readValue, h]
      rfl
  | true h =>
      intro fuel hfuel
      obtain ⟨n, rfl⟩ := exists_fuel (Spells.true h).length_lt hfuel
      rw [Written.readValue, h]
      rfl
  | false h =>
      intro fuel hfuel
      obtain ⟨n, rfl⟩ := exists_fuel (Spells.false h).length_lt hfuel
      rw [Written.readValue, h]
      rfl
  | whole negative h hds hrest =>
      intro fuel hfuel
      obtain ⟨n, rfl⟩ := exists_fuel (Spells.whole negative h hds hrest).length_lt hfuel
      exact readValue_whole h hds hrest n
  | string h hmarks =>
      intro fuel hfuel
      obtain ⟨n, rfl⟩ := exists_fuel (Spells.string h hmarks).length_lt hfuel
      rw [Written.readValue, h]
      simp only [hmarks, ok_bind]
  | noItems h hclose =>
      intro fuel hfuel
      obtain ⟨n, rfl⟩ := exists_fuel (Spells.noItems h hclose).length_lt hfuel
      rw [Written.readValue, h]
      simp only [hclose]
  | array h hitems ih =>
      intro fuel hfuel
      obtain ⟨n, rfl⟩ := exists_fuel (Spells.array h hitems).length_lt hfuel
      have hbody := length_lt_of_skipSpace h
      exact readValue_array h hitems.head (ih n (by omega))
  | noMembers h hclose =>
      intro fuel hfuel
      obtain ⟨n, rfl⟩ := exists_fuel (Spells.noMembers h hclose).length_lt hfuel
      rw [Written.readValue, h]
      simp only [hclose]
  | object h hmembers ih =>
      intro fuel hfuel
      obtain ⟨n, rfl⟩ := exists_fuel (Spells.object h hmembers).length_lt hfuel
      have hbody := length_lt_of_skipSpace h
      exact readValue_object h hmembers.head (ih n (by omega))
  | lastItem hvalue hclose ih fuel hfuel =>
      have hafter := length_lt_of_skipSpace hclose
      obtain ⟨n, rfl⟩ := exists_fuel (Nat.lt_trans hafter hvalue.length_lt) hfuel
      rw [readItems, ih n (by omega), ok_bind]
      simp only [hclose]
  | moreItems hvalue hcomma hitems ih ihItems fuel hfuel =>
      have hafter := length_lt_of_skipSpace hcomma
      have hvalueText := hvalue.length_lt
      have hlast := hitems.length_lt
      obtain ⟨n, rfl⟩ := exists_fuel (SpellsItems.moreItems hvalue hcomma hitems).length_lt hfuel
      rw [readItems, ih n (by omega), ok_bind]
      simp only [hcomma]
      rw [ihItems n (by omega), ok_bind]
  | lastMember h hkey hcolon hvalue hclose ih fuel hfuel =>
      have hafter := length_lt_of_skipSpace hclose
      obtain ⟨n, rfl⟩ :=
        exists_fuel (SpellsMembers.lastMember h hkey hcolon hvalue hclose).length_lt hfuel
      have hbody := length_lt_of_skipSpace h
      have hmiddle := readMarks_length hkey
      have htext := length_lt_of_skipSpace hcolon
      rw [readMembers, h]
      simp only [hkey, ok_bind, hcolon, ih n (by omega), hclose]
  | moreMembers h hkey hcolon hvalue hcomma hmembers ih ihMembers fuel hfuel =>
      have hafter := length_lt_of_skipSpace hcomma
      obtain ⟨n, rfl⟩ := exists_fuel
        (SpellsMembers.moreMembers h hkey hcolon hvalue hcomma hmembers).length_lt hfuel
      have hbody := length_lt_of_skipSpace h
      have hmiddle := readMarks_length hkey
      have htext := length_lt_of_skipSpace hcolon
      have hvalueText := hvalue.length_lt
      have hlast := hmembers.length_lt
      rw [readMembers, h]
      simp only [hkey, ok_bind, hcolon, ih n (by omega), hcomma, ihMembers n (by omega)]

theorem Spells.read {text : String} {w : Written} {rest : List Char}
    (h : Spells text.toList w rest) (hrest : skipSpace rest = []) : read text = .ok w := by
  simp only [Written.read, h.readValue (text.toList.length + 1) (by omega), ok_bind, hrest]

end BatchedGateway.Json.Written
