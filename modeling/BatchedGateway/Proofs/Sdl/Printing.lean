/- Printed documents: the text of plain definitions spells their tokens. -/
import BatchedGateway.Proofs.Sdl.Grammar

namespace BatchedGateway.Sdl

/-- A line for a field or for a root operation. -/
def entryChars (key value : String) : List Char :=
  '\n' :: ' ' :: ' ' :: (key.toList ++ ':' :: ' ' :: value.toList)

/-- Entries between braces, each on a line of its own. -/
def bracedChars (entries : List Char) : List Char := '\x7b' :: (entries ++ ['\n', '\x7d', '\n'])

namespace Definition

def chars : Definition → List Char
  | .schema roots =>
      "schema".toList ++ ' ' ::
        bracedChars (roots.flatMap fun r => entryChars (Grammar.word r.1) r.2)
  | .type part =>
      "type".toList ++ ' ' :: (part.name.toList ++ ' ' ::
        bracedChars (part.members.flatMap fun f => entryChars f "String"))
  | _ => []

-- stated by hand, since unfolding the definition evaluates the keywords
theorem chars_schema (roots : Roots) : (Definition.schema roots).chars =
    "schema".toList ++ ' ' ::
      bracedChars (roots.flatMap fun r => entryChars (Grammar.word r.1) r.2) := rfl

theorem chars_type (part : TypePart) : (Definition.type part).chars =
    "type".toList ++ ' ' :: (part.name.toList ++ ' ' ::
      bracedChars (part.members.flatMap fun f => entryChars f "String")) := rfl

/-- The names that a plain definition brings in. -/
def names : Definition → List String
  | .schema roots => roots.map (·.2)
  | .type part => part.name :: part.members
  | _ => []

end Definition

/-- Plain definitions one after the other. -/
def print (ds : List Definition) : String := String.ofList (ds.flatMap (·.chars))

section

variable {cs : List Char} {ts : List Token}

theorem spells_space (h : Spells cs ts) : Spells (' ' :: cs) ts := .ignored rfl h

theorem spells_newline (h : Spells cs ts) : Spells ('\n' :: cs) ts := .ignored rfl h

theorem spells_entry {key value : String} (hkey : IsName key) (hvalue : IsName value)
    (hcs : cs.head? = some '\n') (h : Spells cs ts) :
    Spells (entryChars key value ++ cs) (.name key :: .punct ':' :: .name value :: ts) := by
  have hends : cs.head?.any isNameChar = false := by
    rw [hcs]
    rfl
  have hvalues : Spells (value.toList ++ cs) (.name value :: ts) := .name hvalue hends h
  have hcolon : Spells (':' :: ' ' :: (value.toList ++ cs)) (.punct ':' :: .name value :: ts) :=
    .punct rfl (spells_space hvalues)
  have hline := spells_newline (spells_space (spells_space (.name hkey rfl hcolon)))
  simpa [entryChars] using hline

theorem spells_entries {α : Type} {key value : α → String} {entries : List α}
    (hnames : ∀ e ∈ entries, IsName (key e) ∧ IsName (value e)) (hcs : cs.head? = some '\n')
    (h : Spells cs ts) :
    Spells (entries.flatMap (fun e => entryChars (key e) (value e)) ++ cs)
      (entries.flatMap (fun e => [.name (key e), .punct ':', .name (value e)]) ++ ts) := by
  induction entries with
  | nil => exact h
  | cons e rest ih =>
      have hrest := ih fun e he => hnames e (List.mem_cons_of_mem _ he)
      obtain ⟨hkey, hvalue⟩ := hnames e List.mem_cons_self
      rw [List.flatMap_cons, List.append_assoc]
      refine spells_entry hkey hvalue ?_ hrest
      cases rest with
      | nil => exact hcs
      | cons e' rest => rfl

theorem spells_braced {entries : List Char} {spelled : List Token}
    (hentries : ∀ {cs ts}, cs.head? = some '\n' → Spells cs ts →
      Spells (entries ++ cs) (spelled ++ ts)) (h : Spells cs ts) :
    Spells (bracedChars entries ++ cs) (.punct '\x7b' :: (spelled ++ .punct '\x7d' :: ts)) := by
  have hclose : Spells ('\n' :: '\x7d' :: '\n' :: cs) (.punct '\x7d' :: ts) :=
    spells_newline (.punct rfl (spells_newline h))
  have hblock : Spells ('\x7b' :: (entries ++ '\n' :: '\x7d' :: '\n' :: cs))
      (.punct '\x7b' :: (spelled ++ .punct '\x7d' :: ts)) := .punct rfl (hentries rfl hclose)
  simpa [bracedChars] using hblock

theorem isName_word (op : Operation) : IsName (Grammar.word op) := by
  cases op <;> exact ⟨by decide, by decide⟩

end

theorem Definition.Plain.spells {d : Definition} (h : d.Plain) (hnames : ∀ n ∈ d.names, IsName n)
    {cs : List Char} {ts : List Token} (hrest : Spells cs ts) :
    Spells (d.chars ++ cs) (d.tokens ++ ts) := by
  cases h with
  | @schema roots h =>
      have hroots : ∀ {cs ts}, cs.head? = some '\n' → Spells cs ts →
          Spells (roots.flatMap (fun r => entryChars (Grammar.word r.1) r.2) ++ cs)
            (roots.flatMap Grammar.rootTokens ++ ts) := fun hcs h =>
        spells_entries (fun r hr => ⟨isName_word r.1, hnames r.2 (List.mem_map_of_mem hr)⟩) hcs h
      have hkeyword : IsName "schema" := ⟨by decide, by decide⟩
      have hdefinition := Spells.name hkeyword rfl (spells_space (spells_braced hroots hrest))
      simpa [chars_schema, tokens, Grammar.schemaTokens] using hdefinition
  | @object n fs h =>
      have hstring : IsName "String" := ⟨by decide, by decide⟩
      have hfields : ∀ {cs ts}, cs.head? = some '\n' → Spells cs ts →
          Spells (fs.flatMap (fun f => entryChars f "String") ++ cs)
            (fs.flatMap Grammar.fieldTokens ++ ts) := fun hcs h =>
        spells_entries (fun f hf => ⟨hnames f (List.mem_cons_of_mem _ hf), hstring⟩) hcs h
      have hkeyword : IsName "type" := ⟨by decide, by decide⟩
      have hnamed := Spells.name (hnames n List.mem_cons_self) rfl
        (spells_space (spells_braced hfields hrest))
      have hdefinition := Spells.name hkeyword rfl (spells_space hnamed)
      simpa [chars_type, tokens, Grammar.objectTokens, Grammar.blockTokens] using hdefinition

/-- The text of plain definitions spells their tokens, if their names are names. -/
theorem spells_print {ds : List Definition} (hplain : ∀ d ∈ ds, d.Plain)
    (hnames : ∀ d ∈ ds, ∀ n ∈ d.names, IsName n) :
    Spells (print ds).toList (ds.flatMap (·.tokens)) := by
  rw [print, String.toList_ofList]
  induction ds with
  | nil => exact .done
  | cons d rest ih =>
      have hrest := ih (fun d hd => hplain d (List.mem_cons_of_mem _ hd))
        fun d hd => hnames d (List.mem_cons_of_mem _ hd)
      exact (hplain d List.mem_cons_self).spells (hnames d List.mem_cons_self) hrest

end BatchedGateway.Sdl
