/- The site of a URL, which is its scheme and its authority: a request goes to the site of the base
URL, whatever is in its path, and requests that differ have different targets. -/
import BatchedGateway.Proofs.Router.Carrying

namespace BatchedGateway

namespace Url

/-- The authority of a URL ends here. -/
def endsAuthority (c : Char) : Bool := c = '/' || isMark c

/-- A URL with a scheme and an authority, and what comes behind these. -/
structure HasSite (url : String) (scheme authority behind : List Char) : Prop where
  text : url.toList = scheme ++ "://".toList ++ authority ++ behind
  scheme_ne_nil : scheme ≠ []
  scheme_plain : ∀ c ∈ scheme, c ≠ ':' ∧ c ≠ '/'
  authority_ne_nil : authority ≠ []
  authority_plain : ∀ c ∈ authority, endsAuthority c = false
  behind_head : ∀ c ∈ behind.head?, endsAuthority c = true

variable {url : String} {scheme authority behind scheme' authority' behind' : List Char}

theorem HasSite.unique (h : HasSite url scheme authority behind)
    (h' : HasSite url scheme' authority' behind') :
    scheme = scheme' ∧ authority = authority' ∧ behind = behind' := by
  have htext := h.text.symm.trans h'.text
  simp only [List.append_assoc] at htext
  have hcolon : ∀ rest : List Char, ∀ c ∈ ("://".toList ++ rest).head?, (c == ':') = true := by
    intro rest c hc
    cases hc
    rfl
  obtain ⟨hscheme, hrest⟩ := Text.append_inj_of_mark htext
    (fun c hc => by simpa using (h.scheme_plain c hc).1) (hcolon _)
    (fun c hc => by simpa using (h'.scheme_plain c hc).1) (hcolon _)
  obtain ⟨hauthority, hbehind⟩ := Text.append_inj_of_mark (List.append_cancel_left hrest)
    h.authority_plain h.behind_head h'.authority_plain h'.behind_head
  exact ⟨hscheme, hauthority, hbehind⟩

end Url

open Url

/-- An authority ends with something else than a slash, and so nothing of it is dropped. -/
theorem Url.HasSite.exists_kept {url : String} {scheme authority behind : List Char}
    (h : HasSite url scheme authority behind) :
    ∃ kept, dropSlashes url = scheme ++ "://".toList ++ authority ++ kept ∧
      ∀ c ∈ kept.head?, endsAuthority c = true := by
  obtain ⟨front, last, rfl⟩ := (List.eq_nil_or_concat authority).resolve_left h.authority_ne_nil
  have hlast : last ≠ '/' := by
    rintro rfl
    have hplain := h.authority_plain '/' (by simp)
    cases hplain
  have htext : url.toList = (scheme ++ "://".toList ++ front) ++ last :: behind := by
    rw [h.text]
    simp
  obtain ⟨kept, hkept⟩ := dropSlashes_of_append htext hlast
  obtain ⟨count, hslashes⟩ := exists_slashes url
  rw [htext, hkept, List.append_assoc (scheme ++ "://".toList ++ front),
    List.append_right_inj] at hslashes
  have hbehind : behind = kept ++ List.replicate count '/' := (List.cons.inj hslashes).2
  refine ⟨kept, by simp [hkept], ?_⟩
  intro c hc
  apply h.behind_head
  rw [hbehind, List.head?_append, hc]
  rfl

theorem dropSlashes_append_slashes (base : String) (count : Nat) :
    dropSlashes (base ++ String.ofList (List.replicate count '/')) = dropSlashes base := by
  have hslashes : ∀ c ∈ List.replicate count '/', decide (c = '/') = true := by
    intro c hc
    simpa using List.eq_of_mem_replicate hc
  rw [dropSlashes, dropSlashes, String.toList_append, String.toList_ofList, List.reverse_append,
    List.reverse_replicate, List.dropWhile_append_of_pos hslashes]

theorem queryPart_inj {query query' : Option String} :
    queryPart query = queryPart query' ↔ query.filter (· ≠ "") = query'.filter (· ≠ "") := by
  constructor
  · intro h
    unfold queryPart at h
    cases hq : query.filter (· ≠ "") with
    | none =>
        cases hq' : query'.filter (· ≠ "") with
        | none => rfl
        | some q' =>
            rw [hq, hq'] at h
            cases h
    | some q =>
        cases hq' : query'.filter (· ≠ "") with
        | none =>
            rw [hq, hq'] at h
            cases h
        | some q' =>
            rw [hq, hq'] at h
            rw [String.toList_inj.mp (List.cons.inj h).2]
  · intro h
    rw [queryPart, h, queryPart]

theorem targetUrl_inj (base : String) {path path' : String} (query query' : Option String)
    (hpath : path.toList.head? = some '/') (hpath' : path'.toList.head? = some '/')
    (hplain : '?' ∉ path.toList) (hplain' : '?' ∉ path'.toList) :
    targetUrl base path query = targetUrl base path' query' ↔
      path = path' ∧ query.filter (· ≠ "") = query'.filter (· ≠ "") := by
  have hmark : ∀ {text : List Char}, '?' ∉ text → ∀ c ∈ text, (c == '?') = false := by
    intro text htext c hc
    apply beq_false_of_ne
    rintro rfl
    exact htext hc
  have hhead : ∀ query, ∀ c ∈ (queryPart query).head?, (c == '?') = true := by
    intro query c hc
    exact beq_iff_eq.mpr (head?_queryPart query c hc)
  rw [← String.toList_inj, targetUrl_eq base hpath, targetUrl_eq base hpath', List.append_assoc,
    List.append_assoc, List.append_right_inj, ← queryPart_inj]
  constructor
  · intro h
    obtain ⟨hsame, hquery⟩ := Text.append_inj_of_mark h (hmark hplain) (hhead query)
      (hmark hplain') (hhead query')
    exact ⟨String.toList_inj.mp hsame, hquery⟩
  · rintro ⟨rfl, hquery⟩
    rw [hquery]

/-- The target of a request has the site of the base URL, whatever the path, and slashes at the end
of the base URL change nothing. Two requests whose paths start with a slash and hold no question
mark have one target only if path and query are the same, an empty query counting for none. -/
theorem site_targetUrl {base : String} {scheme authority behind : List Char}
    (hbase : HasSite base scheme authority behind) :
    (∀ path query, ∃ rest, rest ≠ [] ∧
      HasSite (targetUrl base path query) scheme authority rest ∧
      ∀ scheme' authority' rest', HasSite (targetUrl base path query) scheme' authority' rest' →
        scheme' = scheme ∧ authority' = authority) ∧
    (∀ count path query,
      targetUrl (base ++ String.ofList (List.replicate count '/')) path query =
        targetUrl base path query) ∧
    ∀ path path' query query',
      path.toList.head? = some '/' → path'.toList.head? = some '/' →
      '?' ∉ path.toList → '?' ∉ path'.toList →
      (targetUrl base path query = targetUrl base path' query' ↔
        path = path' ∧ query.filter (· ≠ "") = query'.filter (· ≠ "")) := by
  refine ⟨?_, ?_, ?_⟩
  · intro path query
    obtain ⟨kept, hkept, hhead⟩ := hbase.exists_kept
    obtain ⟨more, hrooted⟩ := List.head?_eq_some_iff.mp (head?_rooted path)
    have hsite : HasSite (targetUrl base path query) scheme authority
        (kept ++ '/' :: (more ++ queryPart query)) := by
      refine { hbase with text := ?_, behind_head := ?_ }
      · rw [toList_targetUrl, hkept, hrooted]
        simp only [List.append_assoc, List.cons_append]
      · cases kept with
        | nil =>
            intro c hc
            cases hc
            rfl
        | cons first kept => exact hhead
    refine ⟨_, ?_, hsite, ?_⟩
    · exact List.append_ne_nil_of_right_ne_nil _ (List.cons_ne_nil _ _)
    · intro scheme' authority' rest' hother
      obtain ⟨hscheme, hauthority, -⟩ := hother.unique hsite
      exact ⟨hscheme, hauthority⟩
  · intro count path query
    rw [← String.toList_inj, toList_targetUrl, toList_targetUrl, dropSlashes_append_slashes]
  · intro path path' query query' hpath hpath' hplain hplain'
    exact targetUrl_inj base query query' hpath hpath' hplain hplain'

/-- Paths that look like another authority, or like more of this one. -/
theorem site_targetUrl_evil :
    let base := "https://me@h:1//"
    HasSite base "https".toList "me@h:1".toList "//".toList ∧
      (∃ rest, rest ≠ [] ∧
        HasSite (targetUrl base ".evil.example" (some "")) "https".toList "me@h:1".toList rest) ∧
      targetUrl (base ++ "/") "@evil.example" none = targetUrl base "@evil.example" none ∧
      targetUrl base "//evil.example" none ≠ targetUrl base "/evil.example" (some "") := by
  intro base
  have hbase : HasSite base "https".toList "me@h:1".toList "//".toList :=
    ⟨by decide, by decide, by simp, by decide, by simp [endsAuthority, isMark],
      by simp [endsAuthority]⟩
  obtain ⟨hsite, hslashes, htargets⟩ := site_targetUrl hbase
  obtain ⟨rest, hrest, htarget, -⟩ := hsite ".evil.example" (some "")
  refine ⟨hbase, ⟨rest, hrest, htarget⟩, hslashes 1 "@evil.example" none, ?_⟩
  intro hsame
  have hpaths := (htargets "//evil.example" "/evil.example" none (some "") (by decide) (by decide)
    (by decide) (by decide)).mp hsame
  exact absurd hpaths.1 (by decide)

end BatchedGateway
