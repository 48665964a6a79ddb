/- The key of a request: it is read off the first part of the path that is not empty, and an id is
found again in any path that it opens. -/
import BatchedGateway.Proofs.Text.Percent
import BatchedGateway.Proofs.Text.Pieces
import BatchedGateway.Router.Target

namespace BatchedGateway

/-- The first part of a path that is not empty: there are slashes in front of it, and one behind it
unless the path ends there. -/
structure Opens (path : String) (segment : List Char) : Prop where
  ne_nil : segment ≠ []
  notMem : '/' ∉ segment
  text : ∃ count rest, (rest = [] ∨ rest.head? = some '/') ∧
    path.toList = List.replicate count '/' ++ (segment ++ rest)

theorem exists_opens {path : String} (h : ∃ c ∈ path.toList, c ≠ '/') :
    ∃ segment, Opens path segment := by
  obtain ⟨count, segment, rest, hne, hmem, hrest, hpath⟩ := Text.exists_piece h
  exact ⟨segment, hne, hmem, count, rest, hrest, hpath⟩

/-- The key of a path depends on its first part alone: it is what this part is decoded to, or the
part itself. -/
theorem routingKey_of_opens {path : String} {segment : List Char} (h : Opens path segment) :
    routingKey path =
      some ((Text.ofBytes? (Text.percentDecode segment)).getD (String.ofList segment)) := by
  obtain ⟨count, rest, hrest, hpath⟩ := h.text
  rw [routingKey, hpath, Text.find?_pieces h.ne_nil h.notMem count hrest, Option.map_some]

/-- Whatever form an id is written in, it is the key of the path that starts with it. -/
theorem routingKey_of_percentForm {id : String} (hid : id ≠ "") {path : String} {count : Nat}
    {written rest : List Char} (hwritten : Text.PercentForm id.toList written)
    (hrest : rest = [] ∨ rest.head? = some '/')
    (hpath : path.toList = List.replicate count '/' ++ (written ++ rest)) :
    routingKey path = some id := by
  have hchars : id.toList ≠ [] := mt String.toList_eq_nil_iff.mp hid
  have hopens : Opens path written :=
    ⟨hwritten.ne_nil hchars, hwritten.notMem, count, rest, hrest, hpath⟩
  rw [routingKey_of_opens hopens, hwritten.percentDecode, Text.ofBytes?_toBytes,
    Option.getD_some, String.ofList_toList]

theorem routingKey_eq_none {path : String} :
    routingKey path = none ↔ ∀ c ∈ path.toList, c = '/' := by
  rw [routingKey, Option.map_eq_none_iff]
  exact Text.find?_pieces_eq_none

theorem routingKey_ne_empty (path : String) : routingKey path ≠ some "" := by
  intro h
  by_cases hpath : ∃ c ∈ path.toList, c ≠ '/'
  · obtain ⟨segment, hopens⟩ := exists_opens hpath
    rw [routingKey_of_opens hopens, Option.some.injEq] at h
    cases hdecoded : Text.ofBytes? (Text.percentDecode segment) with
    | none =>
        rw [hdecoded, Option.getD_none] at h
        have hnil := congrArg String.toList h
        rw [String.toList_ofList] at hnil
        exact hopens.ne_nil hnil
    | some text =>
        rw [hdecoded, Option.getD_some] at h
        cases h
        exact hopens.ne_nil (Text.percentDecode_eq_nil (Text.toBytes_ofBytes? hdecoded).symm)
  · rw [routingKey_eq_none.mpr (by simpa using hpath)] at h
    cases h

/-- An id is the key of every path that it opens, in whatever form it is written there. A path has a
key unless it is all slashes, and the key is never empty. It depends on the first part of the path
alone, and is this part as it stands if what that is decoded to is no text. -/
theorem routingKey_inverts (path : String) :
    (∀ id written count rest, id ≠ "" → Text.PercentForm id.toList written →
      (rest = [] ∨ rest.head? = some '/') →
      path.toList = List.replicate count '/' ++ (written ++ rest) → routingKey path = some id) ∧
    (routingKey path = none ↔ ∀ c ∈ path.toList, c = '/') ∧
    ((∃ c ∈ path.toList, c ≠ '/') → ∃ segment, Opens path segment) ∧
    routingKey path ≠ some "" ∧
    ∀ segment, Opens path segment →
      (∀ other, Opens other segment → routingKey other = routingKey path) ∧
      (Text.ofBytes? (Text.percentDecode segment) = none →
        routingKey path = some (String.ofList segment)) := by
  refine ⟨?_, routingKey_eq_none, exists_opens, routingKey_ne_empty path, ?_⟩
  · intro id written count rest hid hwritten hrest hpath
    exact routingKey_of_percentForm hid hwritten hrest hpath
  · intro segment hopens
    have hkey := routingKey_of_opens hopens
    refine ⟨fun other hother => ?_, fun hnone => ?_⟩
    · rw [hkey, routingKey_of_opens hother]
    · rw [hkey, hnone, Option.getD_none]

/-- A key written as escapes of single bytes, with digits in capitals and small letters. -/
theorem routingKey_inverts_escaped : routingKey "//%e2%82%ACa%2f/x" = some "€a/" := by
  have heuro : Text.Escapes (Text.toBytes (String.singleton '€')) "%e2%82%AC".toList :=
    .cons 0xE2 false false (.cons 0x82 false false (.cons 0xAC true true .nil))
  have hslash : Text.Escapes (Text.toBytes (String.singleton '/')) "%2f".toList :=
    .cons 0x2F false false .nil
  have hwritten : Text.PercentForm "€a/".toList "%e2%82%ACa%2f".toList :=
    .escaped heuro (.raw (by decide) (by decide) (.escaped hslash .nil))
  exact (routingKey_inverts "//%e2%82%ACa%2f/x").1 "€a/" _ 2 "/x".toList (by decide) hwritten
    (.inr rfl) rfl

theorem targetUrl_of_path {base path : String} (hpath : path.toList.head? = some '/') :
    targetUrl base path none = String.ofList (dropSlashes base) ++ path := by
  rw [targetUrl, if_pos hpath, ← String.toList_inj]
  simp

end BatchedGateway
