/- The URLs of batches: where a pattern has a place for the name or for the number of a surface, no
two batches of a build are served at the same URL. -/
import BatchedGateway.Proofs.Build.Calls
import BatchedGateway.Proofs.Text.Gaps

namespace BatchedGateway

/-- The place in a pattern for the name of a surface. -/
def namePlace : List Char := "\x7bsurface\x7d".toList

/-- The place in a pattern for the number of a surface. -/
def numberPlace : List Char := "\x7bbatch\x7d".toList

/-- A pattern that says of which surface a URL is. -/
def TellsApart (pattern : String) : Prop :=
  namePlace <:+: pattern.toList ∨ numberPlace <:+: pattern.toList

namespace Text
open Gapped

/-- Texts of digits, with names in some places that each end in the same digits after a dash. In
whatever way the places for numbers came about, the digits are in gaps of one and the same text: no
such place reaches over a dash or over digits. -/
theorem exists_gapped_names (project : List Char) (p : Gapped) (front : List Char) :
    ∃ q : Gapped, (none ∈ p → none ∈ q) ∧ ∀ digits, (∀ c ∈ digits, c.isDigit = true) →
      replaceAll numberPlace digits (front ++ p.fill (project ++ ("-batch".toList ++ digits))) =
        q.fill digits := by
  have hplace : numberPlace ≠ [] := by decide
  induction p generalizing front with
  | nil =>
      obtain ⟨q, -, hq⟩ := exists_gapped hplace front
      exact ⟨q, fun h => absurd h List.not_mem_nil, fun digits _ => by
        rw [fill_nil, List.append_nil, hq]⟩
  | cons place p ih =>
      cases place with
      | some c =>
          obtain ⟨q, hgap, hq⟩ := ih (front ++ [c])
          refine ⟨q, fun h => hgap (by simpa using h), fun digits hdigits => ?_⟩
          rw [← hq digits hdigits, fill_some, List.append_assoc]
          rfl
      | none =>
          obtain ⟨before, -, hbefore⟩ := exists_gapped hplace (front ++ project)
          obtain ⟨after, -, hafter⟩ := ih []
          refine ⟨before ++ ("-batch".toList.map some ++ none :: after), fun _ => by simp,
            fun digits hdigits => ?_⟩
          have hstays : ∀ c ∈ "-batch".toList ++ digits, numberPlace.head? ≠ some c := by
            intro c hc hhead
            obtain rfl : '\x7b' = c := Option.some.inj hhead
            rcases List.mem_append.mp hc with hc | hc
            · exact absurd hc (by decide)
            · exact absurd (hdigits _ hc) (by decide)
          have hrest : replaceAll numberPlace digits
              (fill (project ++ ("-batch".toList ++ digits)) p) = after.fill digits :=
            hafter digits hdigits
          rw [fill_none]
          generalize fill (project ++ ("-batch".toList ++ digits)) p = behind at hrest ⊢
          have hdash : ∀ c ∈ ("-batch".toList ++ digits ++ behind).head?, c ∉ numberPlace := by
            intro c hc
            cases hc
            decide
          calc replaceAll numberPlace digits
                (front ++ (project ++ ("-batch".toList ++ digits) ++ behind))
              = replaceAll numberPlace digits
                  (front ++ project ++ ("-batch".toList ++ digits ++ behind)) := by
                simp only [List.append_assoc]
            _ = before.fill digits ++ ("-batch".toList ++ digits ++ after.fill digits) := by
                rw [replaceAll_append hplace digits (front ++ project) hdash, hbefore,
                  replaceAll_stays digits hplace hstays, hrest]
            _ = fill digits (before ++ ("-batch".toList.map some ++ none :: after)) := by
                rw [fill_append, fill_append, fill_map_some, fill_none, List.append_assoc]

end Text

theorem toList_renderUrl (pattern name : String) (index : Nat) :
    (renderUrl pattern name index).toList =
      Text.replaceAll numberPlace (Text.decimal index).toList
        (Text.replaceAll namePlace name.toList pattern.toList) := by
  simp only [renderUrl, Text.replace, String.toList_ofList]
  rfl

/-- The URLs that a pattern gives for the batches of a project are one text, with the number of the
batch in its gaps. -/
theorem exists_gapped_renderUrl {pattern : String} (h : TellsApart pattern) (c : Config) :
    ∃ q : Text.Gapped, none ∈ q ∧
      ∀ i, (renderUrl pattern (c.surfaceName i) i).toList = q.fill (Text.decimal i).toList := by
  have hdigits : ∀ i, ∀ d ∈ (Text.decimal i).toList, d.isDigit = true := by
    intro i d hd
    rw [Text.decimal, String.toList_ofList] at hd
    exact Nat.isDigit_of_mem_toDigits (by decide) (by decide) hd
  have hplaces : namePlace ≠ [] ∧ numberPlace ≠ [] := by decide
  by_cases hname : namePlace <:+: pattern.toList
  · obtain ⟨p, hgap, hp⟩ := Text.exists_gapped hplaces.1 pattern.toList
    obtain ⟨q, hgap', hq⟩ := Text.exists_gapped_names c.project.name.toList p []
    refine ⟨q, hgap' (hgap hname), fun i => ?_⟩
    have hsurface : (c.surfaceName i).toList =
        c.project.name.toList ++ ("-batch".toList ++ (Text.decimal i).toList) := by
      simp only [Config.surfaceName, String.toList_append, List.append_assoc]
    rw [toList_renderUrl, hp, hsurface]
    exact hq _ (hdigits i)
  · -- without a place for the name all is decided by the places for the number
    obtain ⟨q, hgap, hq⟩ := Text.exists_gapped hplaces.2 pattern.toList
    refine ⟨q, hgap (h.resolve_left hname), fun i => ?_⟩
    rw [toList_renderUrl, Text.replaceAll_of_not_infix _ hname, hq]

theorem Text.decimal_inj {i j : Nat} (h : (decimal i).toList = (decimal j).toList) : i = j := by
  rw [decimal, decimal, String.toList_ofList, String.toList_ofList] at h
  rw [← @Nat.ofDigitChars_ten_toDigits i, h, Nat.ofDigitChars_ten_toDigits]

theorem renderUrl_surfaceName_inj {pattern : String} (h : TellsApart pattern) {c : Config}
    {i j : Nat}
    (hurl : renderUrl pattern (c.surfaceName i) i = renderUrl pattern (c.surfaceName j) j) :
    i = j := by
  obtain ⟨q, hgap, hq⟩ := exists_gapped_renderUrl h c
  have hfill : q.fill (Text.decimal i).toList = q.fill (Text.decimal j).toList := by
    rw [← hq i, ← hq j, hurl]
  exact Text.decimal_inj (Text.Gapped.fill_inj hgap hfill)

theorem Provisioner.ofPattern_eq_ok {pattern url : String} {n : Nat} {surface : Surface}
    (h : ofPattern pattern n surface = .ok url) :
    url = renderUrl pattern surface.name surface.index := by
  rw [ofPattern] at h
  split at h
  · cases h
    rfl
  · cases h

namespace Build
open Outcome

variable {z : Archive.Compressor} {c : Config} {inputs : Inputs} {isDirectory : String → Bool}
  {provision : Provisioner} {m : Manifest} {s : Progress} {ops : List IndexedOperation}
  {batches : List (Batch Operation)}

theorem Stages.name_of_mem_calls (r : Stages z c inputs isDirectory provision ops batches m s)
    {surface : Surface} (h : surface ∈ s.calls) : surface.name = c.surfaceName surface.index := by
  rw [r.built.calls_eq_surfaces, List.nil_append] at h
  obtain ⟨batch, -, rfl⟩ := List.mem_map.mp h
  rfl

/-- With a place for the name or the number of a surface in it, a pattern never gives one URL to two
batches of a project, so that a build with this pattern has no two equal endpoints. This holds of
every project, whatever its name is, even if that has such places in it. -/
theorem run_endpoints_differ (c : Config) (hplace : TellsApart c.endpointTemplate) :
    (∀ n n' (surface other : Surface) url url', surface.name = c.surfaceName surface.index →
      other.name = c.surfaceName other.index → surface.index ≠ other.index →
      Provisioner.ofPattern c.endpointTemplate n surface = .ok url →
      Provisioner.ofPattern c.endpointTemplate n' other = .ok url' → url ≠ url') ∧
    ∀ (z : Archive.Compressor) inputs isDirectory m s,
      run z c inputs isDirectory (.ofPattern c.endpointTemplate) = (.ok m, s) →
        ∀ b b' url url', m.tables.endpointFor b = some url →
          m.tables.endpointFor b' = some url' → b ≠ b' → url ≠ url' := by
  have hdiffer : ∀ n n' (surface other : Surface) url url',
      surface.name = c.surfaceName surface.index → other.name = c.surfaceName other.index →
      surface.index ≠ other.index →
      Provisioner.ofPattern c.endpointTemplate n surface = .ok url →
      Provisioner.ofPattern c.endpointTemplate n' other = .ok url' → url ≠ url' := by
    intro n n' surface other url url' hname hname' hne hurl hurl' heq
    rw [Provisioner.ofPattern_eq_ok hurl, Provisioner.ofPattern_eq_ok hurl', hname, hname'] at heq
    exact hne (renderUrl_surfaceName_inj hplace heq)
  refine ⟨hdiffer, fun z inputs isDirectory m s h b b' url url' hb hb' hne => ?_⟩
  obtain ⟨ops, batches, stages⟩ := run_eq_ok h
  obtain ⟨n, surface, hcall, rfl, hanswer⟩ := (stages.endpointFor_iff b url).mp hb
  obtain ⟨n', other, hcall', rfl, hanswer'⟩ := (stages.endpointFor_iff b' url').mp hb'
  exact hdiffer n n' surface other url url' (stages.name_of_mem_calls (List.mem_of_getElem? hcall))
    (stages.name_of_mem_calls (List.mem_of_getElem? hcall')) hne hanswer hanswer'

/-- A project with a place for a number in its name, and a pattern without one. -/
def numberInName : Config where
  project := { name := "\x7bbatch\x7d" }
  maxResources := 1
  endpointTemplate := "fn://h/\x7bsurface\x7d"

/-- The place in the name of the project is filled like one in the pattern. -/
theorem run_endpoints_differ_numberInName :
    ∃ m s, run .fixedCode numberInName
        { oneTemplate with templates := .ofList [("a", ⟨"", ""⟩), ("get b", ⟨"", ""⟩)] }
        (fun _ => false) (.ofPattern numberInName.endpointTemplate) = (.ok m, s) ∧
      m.tables.endpointFor 0 = some "fn://h/0-batch0" ∧
      m.tables.endpointFor 1 = some "fn://h/1-batch1" ∧ "fn://h/0-batch0" ≠ "fn://h/1-batch1" := by
  obtain ⟨m, h⟩ := exists_eq_ok (x := run .fixedCode numberInName
    { oneTemplate with templates := .ofList [("a", ⟨"", ""⟩), ("get b", ⟨"", ""⟩)] }
    (fun _ => false) (.ofPattern numberInName.endpointTemplate)) (by decide +kernel)
  have hurls : (run .fixedCode numberInName
      { oneTemplate with templates := .ofList [("a", ⟨"", ""⟩), ("get b", ⟨"", ""⟩)] }
      (fun _ => false) (.ofPattern numberInName.endpointTemplate)).1.toOption.map
        (fun m => (m.tables.endpointFor 0, m.tables.endpointFor 1)) =
      some (some "fn://h/0-batch0", some "fn://h/1-batch1") := by decide +kernel
  rw [h] at hurls
  obtain ⟨hfirst, hsecond⟩ := Prod.mk.inj (Option.some.inj hurls)
  have hplace : TellsApart numberInName.endpointTemplate :=
    .inl ⟨"fn://h/".toList, [], by decide⟩
  exact ⟨m, _, h, hfirst, hsecond, (run_endpoints_differ numberInName hplace).2 _ _ _ m _ h 0 1 _ _
    hfirst hsecond (by decide)⟩

end Build

end BatchedGateway
