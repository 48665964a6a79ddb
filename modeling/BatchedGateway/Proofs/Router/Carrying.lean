/- Where the path of a request stands in the URL that it is sent to: behind all of the base URL if
that has neither query nor fragment, else inside of these. -/
import BatchedGateway.Proofs.Router.Table
import BatchedGateway.Proofs.Router.Target
import BatchedGateway.Surface.Provision

namespace BatchedGateway

namespace Url

/-- The query of a URL starts here, or its fragment. -/
def isMark (c : Char) : Bool := c = '?' || c = '#'

/-- A URL without query and fragment. -/
def place (url : String) : List Char := url.toList.takeWhile (!isMark ·)

/-- Query and fragment of a URL, with their marks. -/
def details (url : String) : List Char := url.toList.dropWhile (!isMark ·)

/-- Neither a query nor a fragment. -/
def Bare (url : String) : Prop := ∀ c ∈ url.toList, isMark c = false

instance (url : String) : Decidable (Bare url) :=
  List.decidableBAll (fun c => isMark c = false) url.toList

variable {url : String} {front rest : List Char} {mark : Char}

theorem isMark_of_mem_place {c : Char} (h : c ∈ place url) : isMark c = false := by
  simpa using List.all_eq_true.mp (List.all_takeWhile (p := (!isMark ·))) c h

/-- A URL that is not bare has a first mark. -/
theorem exists_mark (h : ¬ Bare url) :
    ∃ mark rest, isMark mark = true ∧ url.toList = place url ++ mark :: rest := by
  have hsplit : url.toList = place url ++ details url := List.takeWhile_append_dropWhile.symm
  cases hdetails : details url with
  | nil =>
      rw [hdetails, List.append_nil] at hsplit
      refine absurd (fun c hc => ?_) h
      rw [hsplit] at hc
      exact isMark_of_mem_place hc
  | cons mark rest =>
      have hhead := List.head?_dropWhile_not (!isMark ·) url.toList
      rw [← details, hdetails] at hhead
      rw [hdetails] at hsplit
      exact ⟨mark, rest, by simpa using hhead, hsplit⟩

/-- A mark after characters that are none ends the place. -/
theorem place_of_mark (hurl : url.toList = front ++ mark :: rest)
    (hfront : ∀ c ∈ front, isMark c = false) (hmark : isMark mark = true) :
    place url = front ∧ details url = mark :: rest := by
  rw [place, details, hurl]
  apply Text.takeWhile_of_mark hfront
  intro c hc
  cases hc
  exact hmark

theorem place_of_bare (h : Bare url) : place url = url.toList ∧ details url = [] := by
  have hend : ∀ c ∈ ([] : List Char).head?, isMark c = true := by
    intro c hc
    cases hc
  have hcut := Text.takeWhile_of_mark h hend
  rw [List.append_nil] at hcut
  exact hcut

end Url

open Url

/-- The query of a request as it goes on to a backend: an empty one counts for nothing. -/
def queryPart (query : Option String) : List Char :=
  (query.filter (· ≠ "")).elim [] ('?' :: ·.toList)

theorem queryPart_some (q : String) :
    queryPart (some q) = if q = "" then [] else '?' :: q.toList := by
  by_cases hq : q = "" <;> simp [queryPart, Option.filter_some, hq]

/-- It starts with a question mark, if there is anything in it. -/
theorem head?_queryPart (query : Option String) : ∀ c ∈ (queryPart query).head?, c = '?' := by
  intro c hc
  cases query with
  | none => cases hc
  | some q =>
      rw [queryPart_some] at hc
      split at hc
      · cases hc
      · cases hc
        rfl

theorem isMark_of_queryPart {query : Option String} {c : Char} {rest : List Char}
    (h : queryPart query = c :: rest) : isMark c = true := by
  have hhead := head?_queryPart query c (by rw [h]; rfl)
  rw [hhead]
  rfl

/-- A path behind a slash, which is put in front if there is none. -/
def rooted (path : String) : List Char :=
  if path.toList.head? = some '/' then path.toList else '/' :: path.toList

theorem head?_rooted (path : String) : (rooted path).head? = some '/' := by
  unfold rooted
  split
  · assumption
  · rfl

theorem toList_targetUrl (base path : String) (query : Option String) :
    (targetUrl base path query).toList = dropSlashes base ++ rooted path ++ queryPart query := by
  have hrooted : dropSlashes base ++ (if path.toList.head? = some '/' then [] else ['/']) ++
      path.toList = dropSlashes base ++ rooted path := by
    rw [List.append_assoc, rooted]
    split
    · rfl
    · rfl
  cases query with
  | none =>
      rw [targetUrl, String.toList_ofList, hrooted]
      rfl
  | some q => rw [targetUrl, String.toList_ofList, hrooted, queryPart_some]

theorem targetUrl_eq (base : String) {path : String} (hpath : path.toList.head? = some '/')
    (query : Option String) :
    (targetUrl base path query).toList = dropSlashes base ++ path.toList ++ queryPart query := by
  rw [toList_targetUrl, rooted, if_pos hpath]

/-- What is dropped from the end of a URL. -/
theorem exists_slashes (base : String) :
    ∃ count, base.toList = dropSlashes base ++ List.replicate count '/' := by
  have hslashes : ∀ c ∈ base.toList.reverse.takeWhile (· = '/'), c = '/' := by
    intro c hc
    simpa using List.all_eq_true.mp List.all_takeWhile c hc
  refine ⟨(base.toList.reverse.takeWhile (· = '/')).length, List.reverse_inj.mp ?_⟩
  rw [dropSlashes, List.reverse_append, List.reverse_replicate, List.reverse_reverse,
    ← List.eq_replicate_of_mem hslashes]
  exact List.takeWhile_append_dropWhile.symm

/-- Slashes at the end are behind any other character. -/
theorem dropSlashes_of_append {base : String} {front rest : List Char} {c : Char}
    (hbase : base.toList = front ++ c :: rest) (hc : c ≠ '/') :
    ∃ kept, dropSlashes base = front ++ c :: kept := by
  refine ⟨(rest.reverse.dropWhile (· = '/')).reverse, ?_⟩
  rw [dropSlashes, hbase, List.reverse_append, List.reverse_cons, List.append_assoc,
    List.dropWhile_append]
  split
  · rename_i hnone
    simp [List.isEmpty_iff.mp hnone, hc]
  · simp

theorem mem_of_mem_dropSlashes {base : String} {c : Char} (h : c ∈ dropSlashes base) :
    c ∈ base.toList := by
  obtain ⟨count, hbase⟩ := exists_slashes base
  rw [hbase]
  exact List.mem_append_left _ h

/-- A bare base URL carries every path: the target is the base without its slashes at the end, the
path, and then the query of the request. Before the first mark of another base URL there is nothing
of the request, so that all requests go to one place. -/
theorem targetUrl_carries (base : String) {path : String} (hpath : path.toList.head? = some '/')
    (hbare : Bare path) (query : Option String) :
    (Bare base → place (targetUrl base path query) = dropSlashes base ++ path.toList ∧
      details (targetUrl base path query) = queryPart query) ∧
    (¬ Bare base → place (targetUrl base path query) = place base ∧
      place base ≠ dropSlashes base ++ path.toList) := by
  constructor
  · intro hbase
    have hfront : ∀ c ∈ dropSlashes base ++ path.toList, isMark c = false := by
      intro c hc
      rcases List.mem_append.mp hc with hc | hc
      · exact hbase c (mem_of_mem_dropSlashes hc)
      · exact hbare c hc
    have htarget := targetUrl_eq base hpath query
    cases hquery : queryPart query with
    | nil =>
        rw [hquery, List.append_nil] at htarget
        rw [← htarget] at hfront ⊢
        exact place_of_bare hfront
    | cons mark rest =>
        rw [hquery] at htarget
        exact place_of_mark htarget hfront (isMark_of_queryPart hquery)
  · intro hbase
    obtain ⟨mark, rest, hmark, hsplit⟩ := exists_mark hbase
    have hslash : mark ≠ '/' := by
      rintro rfl
      cases hmark
    obtain ⟨kept, hkept⟩ := dropSlashes_of_append hsplit hslash
    have htarget := targetUrl_eq base hpath query
    rw [hkept, List.append_assoc, List.append_assoc, List.cons_append] at htarget
    refine ⟨(place_of_mark htarget (fun c => isMark_of_mem_place) hmark).1, ?_⟩
    rw [hkept, List.append_assoc]
    intro heq
    exact absurd (List.append_right_eq_self.mp heq.symm) (List.cons_ne_nil _ _)

/-- A base URL with slashes at its end, and one with a fragment. -/
theorem targetUrl_carries_doubleSlash :
    place (targetUrl "https://h/v1//" "//a" (some "x=?")) = "https://h/v1//a".toList ∧
      details (targetUrl "https://h/v1//" "//a" (some "x=?")) = "?x=?".toList ∧
      place (targetUrl "https://h#v1/" "//a" none) = "https://h".toList := by
  have hpath : "//a".toList.head? = some '/' := by decide
  have hbare : Bare "//a" := by decide
  obtain ⟨hplace, hdetails⟩ := (targetUrl_carries "https://h/v1//" hpath hbare
    (some "x=?")).1 (by decide)
  have hmarked := (targetUrl_carries "https://h#v1/" hpath hbare none).2 (by decide)
  exact ⟨hplace.trans (by decide), hdetails.trans (by decide), hmarked.1.trans (by decide)⟩

/-- A base URL with a query is good enough for a routing table and for a pattern, but the path of a
request becomes a part of the query. -/
theorem accepted_query_takes_path :
    let base := "https://[::1]?v=1"
    let t := Tables.ofLists [("a", 0)] [(0, base)]
    RoutingTable.ofTables t = .ok ⟨t⟩ ∧
      Provisioner.ofPattern base 0 ⟨0, "", [], []⟩ = .ok base ∧
      targetUrl base "/a" none = "https://[::1]?v=1/a" ∧
      place (targetUrl base "/a" none) ≠ dropSlashes base ++ "/a".toList ∧
      details (targetUrl base "/a" none) ≠ queryPart none := by
  intro base t
  have hcheck : Url.check base = .ok () := by
    have hok : (Url.check base).isOk = true := by decide +kernel
    cases h : Url.check base with
    | ok => rfl
    | error e =>
        rw [h] at hok
        cases hok
  have htable : RoutingTable.ofTables t = .ok ⟨t⟩ := by
    refine RoutingTable.ofTables_eq_ok fun batch url hurl => ?_
    have hentries : t.endpoints.entries = [(0, base)] := by decide
    have hmem := SortedMap.mem_entries.mpr hurl
    rw [hentries, List.mem_singleton, Prod.mk.injEq] at hmem
    rw [hmem.2, hcheck]
  have hrender : renderUrl base "" 0 = base := by decide +kernel
  refine ⟨htable, ?_, by decide, by decide, by decide⟩
  simp only [Provisioner.ofPattern, hrender, hcheck]

end BatchedGateway
