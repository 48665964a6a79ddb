/- Reading tokens: what each part of the grammar reads and what it leaves, up to whole documents of
schema definitions and of object types with fields of type `String`. -/
import BatchedGateway.Proofs.Sdl.Spelling
import BatchedGateway.Sdl.Syntax

namespace BatchedGateway.Sdl
open Outcome

theorem length_le_flatMap {α β : Type} {f : α → List β} {items : List α}
    (hf : ∀ a ∈ items, f a ≠ []) : items.length ≤ (items.flatMap f).length := by
  induction items with
  | nil => exact Nat.le_refl 0
  | cons a rest ih =>
      have hfirst := List.length_pos_iff.mpr (hf a List.mem_cons_self)
      have hrest := ih fun b hb => hf b (List.mem_cons_of_mem _ hb)
      rw [List.flatMap_cons, List.length_append, List.length_cons]
      omega

namespace Grammar

section Run

variable {α β : Type} (ts : List Token)

@[simp] theorem pure_eq_ok {ε : Type} (a : α) : (pure a : Except ε α) = .ok a := rfl

@[simp] theorem map_ok {ε : Type} (f : α → β) (a : α) :
    f <$> (.ok a : Except ε α) = .ok (f a) := rfl

@[simp] theorem run_next : next?.run ts = .ok (ts.head?, ts) := rfl

@[simp] theorem run_skip : skip.run ts = .ok ((), ts.drop 1) := rfl

@[simp] theorem run_at (t : Token) : (at? t).run ts = .ok (ts.head? == some t, ts) := rfl

@[simp] theorem run_discard (x : Grammar α) :
    (discard x).run ts = x.run ts >>= fun p => .ok ((), p.2) := rfl

theorem run_take (t : Token) : (take? t).run ts =
    .ok (if ts.head? = some t then (true, ts.drop 1) else (false, ts)) := by
  by_cases h : ts.head? = some t <;> simp [take?, h]

end Run

variable {ts : List Token}

@[simp] theorem run_take_cons (t t' : Token) :
    (take? t).run (t' :: ts) = .ok (if t' = t then (true, ts) else (false, t' :: ts)) := by
  simp [run_take]

@[simp] theorem run_punct (c : Char) : (punct c).run (.punct c :: ts) = .ok ((), ts) := by
  simp [punct, takePunct?]

@[simp] theorem run_name (s : String) : name.run (.name s :: ts) = .ok (s, ts) := by
  simp [name]

theorem run_directives (h : ¬ ts.head? = some (.punct '@')) :
    directives.run ts = .ok (false, ts) := by
  simp [directives, directives.more, takePunct?, run_take, h]

theorem run_typeRef (s : String) (h : ¬ ts.head? = some (.punct '!')) :
    typeRef.run (.name s :: ts) = .ok ((), ts) := by
  simp [typeRef, type, takePunct?, run_take, h]

theorem run_argumentsDefinition (h : ¬ ts.head? = some (.punct '(')) :
    argumentsDefinition.run ts = .ok ((), ts) := by
  simp [argumentsDefinition, h]

theorem run_atItem_of_name {s : String} (h : ts.head? = some (.name s)) :
    atItem.run ts = .ok (true, ts) := by
  obtain ⟨rest, rfl⟩ := List.head?_eq_some_iff.mp h
  rfl

theorem run_atItem_punct (c : Char) :
    atItem.run (.punct c :: ts) = .ok (false, .punct c :: ts) := rfl

/-- The tokens of a field of type `String`. -/
def fieldTokens (f : String) : List Token := [.name f, .punct ':', .name "String"]

theorem head?_fieldTokens (f : String) (rest : List String) (ts : List Token) :
    ((f :: rest).flatMap fieldTokens ++ ts).head? = some (.name f) := rfl

theorem run_field (f : String) (hmark : ¬ ts.head? = some (.punct '!'))
    (hdirective : ¬ ts.head? = some (.punct '@')) :
    field.run (fieldTokens f ++ ts) = .ok (f, ts) := by
  simp [field, fieldTokens, description, run_argumentsDefinition, run_typeRef, run_directives,
    hmark, hdirective]

/-- Fields up to the end of their block. -/
theorem run_items {fs : List String} (hfs : fs ≠ []) {fuel : Nat} (hfuel : fs.length ≤ fuel)
    (ts : List Token) :
    (items field '\x7d' fuel).run (fs.flatMap fieldTokens ++ .punct '\x7d' :: ts) =
      .ok (fs, ts) := by
  induction fs generalizing fuel with
  | nil => exact absurd rfl hfs
  | cons f rest ih =>
      cases fuel with
      | zero => cases hfuel
      | succ fuel =>
          rw [List.flatMap_cons, List.append_assoc, items, StateT.run_bind]
          cases rest with
          | nil =>
              rw [List.flatMap_nil, List.nil_append, run_field f (by simp) (by simp)]
              simp [run_atItem_punct]
          | cons g rest =>
              have hhead := head?_fieldTokens g rest (.punct '\x7d' :: ts)
              have hrest := ih (List.cons_ne_nil g rest) (Nat.le_of_succ_le_succ hfuel)
              -- of what is behind a field only the first token decides how to go on
              generalize (g :: rest).flatMap fieldTokens ++ .punct '\x7d' :: ts = next
                at hhead hrest ⊢
              rw [run_field f (by simp [hhead]) (by simp [hhead])]
              simp [run_atItem_of_name hhead, hrest]

theorem run_braced {s : String} (item : Grammar String) (h : ts.head? = some (.name s)) :
    (braced '\x7b' '\x7d' item).run (.punct '\x7b' :: ts) =
      (items item '\x7d' (ts.length + 1)).run ts := by
  simp [braced, run_atItem_of_name h]

/-- The tokens of a block of fields. -/
def blockTokens (fs : List String) : List Token :=
  .punct '\x7b' :: (fs.flatMap fieldTokens ++ [.punct '\x7d'])

theorem blockTokens_append (fs : List String) (ts : List Token) :
    blockTokens fs ++ ts = .punct '\x7b' :: (fs.flatMap fieldTokens ++ .punct '\x7d' :: ts) := by
  simp [blockTokens]

theorem run_block {fs : List String} (hfs : fs ≠ []) (ts : List Token) :
    (block? field).run (blockTokens fs ++ ts) = .ok (fs, ts) := by
  have hfuel : fs.length ≤ (fs.flatMap fieldTokens ++ .punct '\x7d' :: ts).length + 1 := by
    have hlength :=
      length_le_flatMap (f := fieldTokens) fun f (_ : f ∈ fs) => List.cons_ne_nil _ _
    rw [List.length_append]
    omega
  have hitems := run_items hfs hfuel ts
  obtain ⟨f, rest, rfl⟩ := List.exists_cons_of_ne_nil hfs
  have hhead := head?_fieldTokens f rest (.punct '\x7d' :: ts)
  rw [blockTokens_append]
  generalize (f :: rest).flatMap fieldTokens ++ .punct '\x7d' :: ts = next at hhead hitems ⊢
  simp [block?, run_braced field hhead, hitems]

/-- The tokens of an object type. -/
def objectTokens (n : String) (fs : List String) : List Token :=
  .name "type" :: .name n :: blockTokens fs

theorem run_object (n : String) {fs : List String} (hfs : fs ≠ []) :
    definition.run (objectTokens n fs ++ ts) = .ok (.type ⟨.object, n, [], fs⟩, ts) := by
  have hblock := run_block hfs ts
  have hhead : (blockTokens fs ++ ts).head? = some (.punct '\x7b') := rfl
  rw [objectTokens, List.cons_append, List.cons_append]
  generalize blockTokens fs ++ ts = next at hhead hblock ⊢
  simp [definition, kindOf?, typeBody, implements, run_take, run_directives, hhead, hblock]

def word : Operation → String
  | .query => "query"
  | .mutation => "mutation"
  | .subscription => "subscription"

/-- The tokens of a root operation. -/
def rootTokens (r : Operation × String) : List Token :=
  [.name (word r.1), .punct ':', .name r.2]

theorem run_root (r : Operation × String) :
    root.run (rootTokens r ++ ts) = .ok (some r, ts) := by
  obtain ⟨op, n⟩ := r
  cases op <;> simp [root, rootTokens, word, operation]

theorem run_rootItems {roots : Roots} (hroots : roots ≠ []) {fuel : Nat}
    (hfuel : roots.length ≤ fuel) (ts : List Token) :
    (rootItems fuel).run (roots.flatMap rootTokens ++ .punct '\x7d' :: ts) = .ok (roots, ts) := by
  induction roots generalizing fuel with
  | nil => exact absurd rfl hroots
  | cons r rest ih =>
      cases fuel with
      | zero => cases hfuel
      | succ fuel =>
          rw [List.flatMap_cons, List.append_assoc, rootItems, StateT.run_bind, run_root]
          cases rest with
          | nil => simp [takePunct?]
          | cons r' rest =>
              have hhead : ((r' :: rest).flatMap rootTokens ++ .punct '\x7d' :: ts).head? =
                  some (.name (word r'.1)) := rfl
              have hrest := ih (List.cons_ne_nil r' rest) (Nat.le_of_succ_le_succ hfuel)
              generalize (r' :: rest).flatMap rootTokens ++ .punct '\x7d' :: ts = next
                at hhead hrest ⊢
              simp [takePunct?, run_take, hhead, hrest]

/-- The tokens of a schema definition. -/
def schemaTokens (roots : Roots) : List Token :=
  .name "schema" :: .punct '\x7b' :: (roots.flatMap rootTokens ++ [.punct '\x7d'])

theorem run_schema {roots : Roots} (hroots : roots ≠ []) :
    definition.run (schemaTokens roots ++ ts) = .ok (.schema roots, ts) := by
  have hfuel : roots.length ≤ (roots.flatMap rootTokens ++ .punct '\x7d' :: ts).length + 1 := by
    have hlength :=
      length_le_flatMap (f := rootTokens) fun r (_ : r ∈ roots) => List.cons_ne_nil _ _
    rw [List.length_append]
    omega
  have hitems := run_rootItems hroots hfuel ts
  have htokens : schemaTokens roots ++ ts = .name "schema" :: .punct '\x7b' ::
      (roots.flatMap rootTokens ++ .punct '\x7d' :: ts) := by simp [schemaTokens]
  rw [htokens]
  generalize roots.flatMap rootTokens ++ .punct '\x7d' :: ts = next at hitems ⊢
  simp [definition, run_directives, roots?, takePunct?, hitems]

end Grammar

namespace Definition

/-- A schema definition, or an object type with fields and no interfaces. -/
inductive Plain : Definition → Prop
  | schema {roots : Roots} (h : roots ≠ []) : Plain (.schema roots)
  | object (n : String) {fs : List String} (h : fs ≠ []) : Plain (.type ⟨.object, n, [], fs⟩)

/-- The tokens of a plain definition. -/
def tokens : Definition → List Token
  | .schema roots => Grammar.schemaTokens roots
  | .type part => Grammar.objectTokens part.name part.members
  | _ => []

theorem Plain.run {d : Definition} (h : d.Plain) (ts : List Token) :
    Grammar.definition.run (d.tokens ++ ts) = .ok (d, ts) := by
  cases h with
  | schema h => exact Grammar.run_schema h
  | object n h => exact Grammar.run_object n h

theorem Plain.head? {d : Definition} (h : d.Plain) : ∃ s, d.tokens.head? = some (.name s) := by
  cases h <;> exact ⟨_, rfl⟩

end Definition

namespace Grammar

/-- Plain definitions are read from their tokens one after the other. -/
theorem run_definitions {ds : List Definition} (hplain : ∀ d ∈ ds, d.Plain) (hds : ds ≠ [])
    {fuel : Nat} (hfuel : ds.length ≤ fuel) :
    (definitions fuel).run (ds.flatMap (·.tokens)) = .ok (ds, []) := by
  induction ds generalizing fuel with
  | nil => exact absurd rfl hds
  | cons d rest ih =>
      cases fuel with
      | zero => cases hfuel
      | succ fuel =>
          have hfirst := hplain d List.mem_cons_self
          have hothers : ∀ d ∈ rest, d.Plain := fun d hd => hplain d (List.mem_cons_of_mem _ hd)
          rw [List.flatMap_cons, definitions, StateT.run_bind, hfirst.run, ok_bind]
          cases rest with
          | nil => simp
          | cons d' rest =>
              have hrest := ih hothers (List.cons_ne_nil d' rest) (Nat.le_of_succ_le_succ hfuel)
              obtain ⟨s, hs⟩ := (hothers d' List.mem_cons_self).head?
              have hhead : ((d' :: rest).flatMap (·.tokens)).head? = some (.name s) := by
                rw [List.flatMap_cons, List.head?_append, hs, Option.some_or]
              generalize (d' :: rest).flatMap (·.tokens) = next at hhead hrest ⊢
              simp [hhead, hrest]

end Grammar

/-- A text that spells plain definitions is a document of them. -/
theorem parse_of_spells {text : String} {ds : List Definition} (hplain : ∀ d ∈ ds, d.Plain)
    (hds : ds ≠ []) (h : Spells text.toList (ds.flatMap (·.tokens))) : parse text = .ok ds := by
  have hfuel : ds.length ≤ (ds.flatMap (·.tokens)).length := by
    refine length_le_flatMap fun d hd hnil => ?_
    obtain ⟨s, hs⟩ := (hplain d hd).head?
    rw [hnil] at hs
    cases hs
  have hempty : ds.isEmpty = false := by simpa using hds
  rw [parse, tokens_of_spells h, ok_bind, Grammar.run_definitions hplain hds hfuel, ok_bind]
  simp [hempty]

end BatchedGateway.Sdl
