/- Which header fields cross the gateway. A name that a connection field lists stays behind if the
value of that field can be read, and what has crossed once crosses again. -/
import BatchedGateway.Proofs.Router.Dispatch
import BatchedGateway.Proofs.Text.Blank
import BatchedGateway.Proofs.Text.Pieces
import Mathlib

namespace BatchedGateway

namespace Headers

/-- Spaces and tabs. -/
def isPadding (c : Char) : Bool := c = ' ' || c = '\t'

/-- The bytes of a value as characters. -/
def chars (value : List UInt8) : List Char := value.map fun b => Char.ofNat b.toNat

/-- A value of tabs and printable ASCII. -/
def Readable (value : List UInt8) : Prop := ∀ b ∈ value, b = 9 ∨ (32 ≤ b ∧ b ≤ 126)

instance (value : List UInt8) : Decidable (Readable value) :=
  List.decidableBAll (fun b => b = 9 ∨ (32 ≤ b ∧ b ≤ 126)) value

/-- A value lists a name: it stands between commas, in any case and with spaces and tabs around
it. What other bytes the value has does not count. -/
def Lists (value : List UInt8) (name : String) : Prop :=
  ∃ piece token, Text.IsPiece ',' (chars value) piece ∧ Text.IsTrimmed isPadding piece token ∧
    token ≠ [] ∧ lower (String.ofList token) = lower name

/-- A name stays behind: it is one of those for a single connection, or that of the host if this is
left out, or a connection field that can be read lists it. -/
def Stopped (h : Headers) (stripHost : Bool) (name : String) : Prop :=
  lower name ∈ hopByHop ∨ (stripHost = true ∧ lower name = "host") ∨
    ∃ value ∈ h.values "connection", Readable value ∧ Lists value name

section Case

/-- One character, or the two cases of a letter. -/
def SameButCase (c d : Char) : Prop :=
  c = d ∨ (c.isUpper = true ∧ d.toNat = c.toNat + 32) ∨ (d.isUpper = true ∧ c.toNat = d.toNat + 32)

theorem isUpper_iff_toNat {c : Char} : c.isUpper = true ↔ 65 ≤ c.toNat ∧ c.toNat ≤ 90 := by
  rw [Char.isUpper, decide_eq_true_iff, ge_iff_le, UInt32.le_iff_toNat_le, UInt32.le_iff_toNat_le]
  rfl

theorem toNat_toLower (c : Char) :
    c.toLower.toNat = if c.isUpper then c.toNat + 32 else c.toNat := by
  by_cases h : c.isUpper = true
  · have hrange := isUpper_iff_toNat.mp h
    have hvalid : (c.toNat + 32).isValidChar := .inl (by omega)
    rw [if_pos h, Char.toLower_eq_of_isUpper h, Char.toNat_ofNat, if_pos hvalid]
  · rw [if_neg h, Char.toLower_eq_of_not_isUpper h]

theorem toLower_eq_toLower {c d : Char} : c.toLower = d.toLower ↔ SameButCase c d := by
  rw [← Char.toNat_inj, toNat_toLower, toNat_toLower, SameButCase, ← Char.toNat_inj]
  simp only [isUpper_iff_toNat]
  split <;> split <;> omega

/-- Texts are one in lower case if and only if they differ in the cases of letters alone. -/
theorem lower_eq_lower {s t : String} :
    lower s = lower t ↔ List.Forall₂ SameButCase s.toList t.toList := by
  rw [lower, lower, String.ofList_inj, ← List.forall₂_eq_eq_eq, List.forall₂_map_left_iff,
    List.forall₂_map_right_iff]
  simp only [toLower_eq_toLower]

theorem lower_lower (s : String) : lower (lower s) = lower s := by
  simp only [lower, String.toList_ofList, List.map_map, Function.comp_def,
    Char.toLower_toLower_eq_toLower]

theorem lower_of_no_capitals {s : String} (h : ∀ c ∈ s.toList, c.isUpper = false) :
    lower s = s := by
  have hsame : s.toList.map Char.toLower = s.toList.map id :=
    List.map_congr_left fun c hc => Char.toLower_eq_of_not_isUpper (by simp [h c hc])
  rw [lower, hsame, List.map_id, String.ofList_toList]

/-- A text in lower case is the one without capitals that differs in the cases of letters alone. -/
theorem lower_eq_iff {s t : String} : lower s = t ↔
    List.Forall₂ SameButCase s.toList t.toList ∧ ∀ c ∈ t.toList, c.isUpper = false := by
  constructor
  · rintro rfl
    refine ⟨lower_eq_lower.mp (lower_lower s).symm, fun c hc => ?_⟩
    rw [lower, String.toList_ofList] at hc
    obtain ⟨d, -, rfl⟩ := List.mem_map.mp hc
    exact Char.isUpper_toLower_eq_false d
  · rintro ⟨hsame, hcapitals⟩
    rw [lower_eq_lower.mpr hsame, lower_of_no_capitals hcapitals]

end Case

section Tokens

variable {value : List UInt8} {name : String}

theorem lower_eq_empty {s : String} : lower s = "" ↔ s = "" := by
  rw [lower, String.ofList_eq_empty_iff, List.map_eq_nil_iff, String.toList_eq_nil_iff]

theorem text?_eq_some {s : String} :
    text? value = some s ↔ Readable value ∧ s = String.ofList (chars value) := by
  have hreadable : (value.all fun b => b = 9 || (32 ≤ b && b < 127)) = true ↔ Readable value := by
    rw [List.all_eq_true, Readable]
    refine forall₂_congr fun b _ => ?_
    have hbound : b < 127 ↔ b ≤ 126 := by
      rw [UInt8.lt_iff_toNat_lt, UInt8.le_iff_toNat_le]
      exact Nat.lt_succ_iff
    simp [hbound]
  rw [text?]
  by_cases h : Readable value
  · rw [if_pos (hreadable.mpr h), Option.some.injEq, and_iff_right h, eq_comm]
    rfl
  · rw [if_neg (mt hreadable.mp h)]
    exact iff_of_false nofun fun hboth => h hboth.1

/-- Of the characters that can be read only spaces and tabs are blank. -/
theorem isPadding_eq_isBlank (h : Readable value) :
    ∀ c ∈ chars value, isPadding c = Text.isBlank c := by
  have hall : ∀ n < 127, n = 9 ∨ 32 ≤ n →
      isPadding (Char.ofNat n) = Text.isBlank (Char.ofNat n) := by decide
  intro c hc
  obtain ⟨b, hb, rfl⟩ := List.mem_map.mp hc
  rcases h b hb with rfl | ⟨hlow, hhigh⟩
  · exact hall 9 (by decide) (.inl rfl)
  · exact hall b.toNat (Nat.lt_succ_of_le (UInt8.le_iff_toNat_le.mp hhigh))
      (.inr (UInt8.le_iff_toNat_le.mp hlow))

theorem mem_tokens {s : String} : name ∈ tokens s ↔
    name ≠ "" ∧ ∃ piece ∈ Text.pieces ',' s.toList,
      lower (Text.trim (String.ofList piece)) = name := by
  simp [tokens, and_comm]

/-- The tokens of a value that can be read are the names that it lists. -/
theorem lower_mem_tokens (h : Readable value) :
    lower name ∈ tokens (String.ofList (chars value)) ↔ Lists value name := by
  have hpadding : ∀ piece, Text.IsPiece ',' (chars value) piece →
      ∀ c ∈ piece, isPadding c = Text.isBlank c := by
    rintro piece ⟨-, front, back, htext, -, -⟩ c hc
    exact isPadding_eq_isBlank h c (by simp [htext, hc])
  rw [mem_tokens, String.toList_ofList]
  constructor
  · rintro ⟨hname, piece, hpiece, hlower⟩
    have hpiece := Text.mem_pieces.mp hpiece
    have htrimmed := Text.isTrimmed_trim (String.ofList piece)
    rw [String.toList_ofList] at htrimmed
    refine ⟨piece, _, hpiece, htrimmed.congr fun c hc => (hpadding piece hpiece c hc).symm, ?_, ?_⟩
    · rw [ne_eq, String.toList_eq_nil_iff]
      intro hempty
      rw [hempty] at hlower
      exact hname hlower.symm
    · rw [String.ofList_toList]
      exact hlower
  · rintro ⟨piece, token, hpiece, htrimmed, htoken, hlower⟩
    have htrim : Text.trim (String.ofList piece) = String.ofList token := by
      refine Text.IsTrimmed.trim_eq ?_
      rw [String.toList_ofList]
      exact htrimmed.congr (hpadding piece hpiece)
    refine ⟨?_, piece, Text.mem_pieces.mpr hpiece, by rw [htrim, hlower]⟩
    rw [← hlower, ne_eq, lower_eq_empty, String.ofList_eq_empty_iff]
    exact htoken

end Tokens

section Length

/-- Decimal digits of a number of 64 bits, perhaps after a plus sign. -/
def SaysLength (cs : List Char) (n : Nat) : Prop :=
  ∃ digits, (cs = digits ∨ cs = '+' :: digits) ∧ digits ≠ [] ∧ (∀ c ∈ digits, c.isDigit = true) ∧
    Nat.ofDigitChars 10 digits 0 = n ∧ n < UInt64.size

theorem lengthOf?_eq_some {s : String} {n : Nat} :
    lengthOf? s = some n ↔ SaysLength s.toList n := by
  have hdigits : ∀ digits, (if digits ≠ [] && digits.all Char.isDigit &&
      Nat.ofDigitChars 10 digits 0 < UInt64.size then some (Nat.ofDigitChars 10 digits 0)
        else none) = some n ↔ digits ≠ [] ∧ (∀ c ∈ digits, c.isDigit = true) ∧
          Nat.ofDigitChars 10 digits 0 = n ∧ n < UInt64.size := by
    intro digits
    simp only [Option.ite_none_right_eq_some, Bool.and_eq_true, decide_eq_true_eq, List.all_eq_true,
      Option.some.injEq, and_assoc]
    grind
  rw [lengthOf?]
  split
  · rename_i rest heq
    rw [hdigits, heq]
    constructor
    · exact fun h => ⟨rest, .inr rfl, h⟩
    · rintro ⟨digits, rfl | hplus, hne, hall, hvalue⟩
      · exact absurd (hall '+' List.mem_cons_self) (by decide)
      · cases hplus
        exact ⟨hne, hall, hvalue⟩
  · rename_i hplus
    rw [hdigits]
    constructor
    · exact fun h => ⟨_, .inl rfl, h⟩
    · rintro ⟨digits, rfl | heq, h⟩
      · exact h
      · exact absurd heq (hplus digits)

theorem SaysLength.readable {value : List UInt8} {n : Nat} (h : SaysLength (chars value) n) :
    Readable value := by
  have hrange : ∀ k < 256, (Char.ofNat k = '+' ∨ (Char.ofNat k).isDigit = true) →
      32 ≤ k ∧ k ≤ 126 := by decide +kernel
  obtain ⟨digits, hchars, -, hall, -⟩ := h
  intro b hb
  have hmem : Char.ofNat b.toNat ∈ chars value := List.mem_map_of_mem hb
  have hchar : Char.ofNat b.toNat = '+' ∨ (Char.ofNat b.toNat).isDigit = true := by
    rcases hchars with heq | heq
    · exact .inr (hall _ (heq ▸ hmem))
    · rw [heq, List.mem_cons] at hmem
      exact hmem.imp_right (hall _)
  obtain ⟨hlow, hhigh⟩ := hrange b.toNat b.toNat_lt hchar
  exact .inr ⟨UInt8.le_iff_toNat_le.mpr hlow, UInt8.le_iff_toNat_le.mpr hhigh⟩

/-- The declared length is what the first field for it says, if that is a number. -/
theorem declaredLength_eq_some {h : Headers} {n : Nat} : h.declaredLength = some n ↔
    ∃ front value back, h = front ++ ("content-length", value) :: back ∧
      (∀ f ∈ front, f.1 ≠ "content-length") ∧ SaysLength (chars value) n := by
  have hfirst : (h.values "content-length").head? =
      (h.find? (·.1 == "content-length")).map (·.2) := by
    rw [values, List.head?_map, List.head?_filter]
  simp only [declaredLength, hfirst, Option.bind_eq_bind, Option.bind_eq_some_iff,
    Option.map_eq_some_iff, List.find?_eq_some_iff_append]
  constructor
  · rintro ⟨value, ⟨⟨name, _⟩, ⟨hname, front, back, hh, hfront⟩, rfl⟩, s, htext, hlength⟩
    obtain ⟨-, rfl⟩ := text?_eq_some.mp htext
    rw [lengthOf?_eq_some, String.toList_ofList] at hlength
    obtain rfl : name = "content-length" := beq_iff_eq.mp hname
    exact ⟨front, _, back, hh, fun f hf => by simpa using hfront f hf, hlength⟩
  · rintro ⟨front, value, back, hh, hfront, hlength⟩
    refine ⟨value, ⟨("content-length", value), ⟨rfl, front, back, hh, ?_⟩, rfl⟩, _,
      text?_eq_some.mpr ⟨hlength.readable, rfl⟩, ?_⟩
    · exact fun f hf => by simpa using hfront f hf
    · rw [lengthOf?_eq_some, String.toList_ofList]
      exact hlength

/-- Of two fields the first counts. -/
example : declaredLength [("content-length", Text.toBytes "+12"),
    ("content-length", Text.toBytes "3")] = some 12 := by
  decide +kernel

end Length

section Filter

variable {h : Headers} {stripHost : Bool} {name : String}

/-- The names that connection fields list are those listed by the values that can be read. -/
theorem lower_mem_connectionNames : lower name ∈ h.connectionNames ↔
    ∃ value ∈ h.values "connection", Readable value ∧ Lists value name := by
  rw [connectionNames, List.mem_flatMap]
  constructor
  · rintro ⟨s, hs, hname⟩
    obtain ⟨value, hvalue, htext⟩ := List.mem_filterMap.mp hs
    obtain ⟨hreadable, rfl⟩ := text?_eq_some.mp htext
    exact ⟨value, hvalue, hreadable, (lower_mem_tokens hreadable).mp hname⟩
  · rintro ⟨value, hvalue, hreadable, hlists⟩
    have htext := text?_eq_some.mpr ⟨hreadable, rfl⟩
    exact ⟨_, List.mem_filterMap.mpr ⟨value, hvalue, htext⟩,
      (lower_mem_tokens hreadable).mpr hlists⟩

theorem isDropped_lower :
    h.isDropped stripHost (lower name) = true ↔ h.Stopped stripHost name := by
  simp [isDropped, Stopped, lower_mem_connectionNames, or_assoc]

/-- Of the values of a name all are left or none, and they keep their order. -/
theorem values_forwarded (h : Headers) (stripHost : Bool) (name : String) :
    (h.forwarded stripHost).values name =
      if h.isDropped stripHost name then [] else h.values name := by
  rw [values, forwarded, List.filter_filter]
  split
  · rename_i hdropped
    rw [List.map_eq_nil_iff, List.filter_eq_nil_iff]
    intro f _ hf
    obtain ⟨hname, hkept⟩ := Bool.and_eq_true_iff.mp hf
    rw [beq_iff_eq.mp hname, hdropped] at hkept
    cases hkept
  · rename_i hkept
    have hsame : ∀ f ∈ h, (f.1 == name && !h.isDropped stripHost f.1) = (f.1 == name) := by
      intro f _
      by_cases hname : f.1 = name
      · simp [hname, hkept]
      · simp [hname]
    rw [List.filter_congr hsame, values]

/-- What has crossed lists no names any more. -/
theorem connectionNames_forwarded (h : Headers) (stripHost : Bool) :
    (h.forwarded stripHost).connectionNames = [] := by
  have hdropped : h.isDropped stripHost "connection" = true := by
    rw [isDropped, Bool.or_assoc]
    rfl
  rw [connectionNames, values_forwarded, if_pos hdropped]
  rfl

theorem forwarded_forwarded (h : Headers) (stripHost again : Bool) :
    (h.forwarded stripHost).forwarded again = h.forwarded (stripHost || again) := by
  rw [forwarded, forwarded, List.filter_filter, forwarded]
  refine List.filter_congr fun f _ => ?_
  rw [isDropped, ← forwarded, connectionNames_forwarded, isDropped, isDropped]
  cases hopByHop.contains f.1 <;> cases f.1 == "host" <;> cases h.connectionNames.contains f.1 <;>
    cases stripHost <;> cases again <;> rfl

/-- The filter is exact. What crosses is a part of what there was, with all values of each name that
is not stopped and no value of one that is. To filter again only adds the name of the host, if it is
left out this time, and the key of the caller crosses unless a connection field lists it. -/
theorem forwarded_exact (h : Headers) (stripHost again : Bool) :
    let crossed := h.forwarded stripHost
    crossed.Sublist h ∧
      (∀ name, (h.Stopped stripHost name → crossed.values (lower name) = []) ∧
        (¬ h.Stopped stripHost name → crossed.values (lower name) = h.values (lower name))) ∧
      crossed.forwarded again = h.forwarded (stripHost || again) ∧
      crossed.forwarded stripHost = crossed ∧
      ((∀ value ∈ h.values "connection", ¬ Lists value "x-api-key") →
        crossed.values "x-api-key" = h.values "x-api-key") := by
  intro crossed
  have hvalues : ∀ name, (h.Stopped stripHost name → crossed.values (lower name) = []) ∧
      (¬ h.Stopped stripHost name → crossed.values (lower name) = h.values (lower name)) := by
    intro name
    rw [values_forwarded, ← isDropped_lower]
    exact ⟨fun hstopped => if_pos hstopped, fun hkept => if_neg hkept⟩
  refine ⟨List.filter_sublist, hvalues, forwarded_forwarded h stripHost again, ?_, fun hkey => ?_⟩
  · rw [forwarded_forwarded, Bool.or_self]
  · refine (hvalues "x-api-key").2 ?_
    rintro (hhop | ⟨-, hhost⟩ | ⟨value, hvalue, -, hlists⟩)
    · exact absurd hhop (by decide)
    · exact absurd hhost (by decide)
    · exact hkey value hvalue hlists

/-- Names in lower case, as all names of a header map are. -/
def Lowered (h : Headers) : Prop := ∀ f ∈ h, lower f.1 = f.1

theorem lowered_ofFields (fields : List (String × List UInt8)) : (ofFields fields).Lowered := by
  intro f hf
  obtain ⟨field, -, rfl⟩ := List.mem_map.mp hf
  exact lower_lower field.1

theorem mem_forwarded (hlowered : h.Lowered) {f : String × List UInt8} (hf : f ∈ h) :
    f ∈ h.forwarded stripHost ↔ ¬ h.Stopped stripHost f.1 := by
  rw [← isDropped_lower, hlowered f hf, forwarded, List.mem_filter, and_iff_right hf]
  simp

/-- A field crosses only if no value that can be read lists its name. -/
theorem not_lists_of_mem_forwarded (hlowered : h.Lowered) {f : String × List UInt8}
    (hf : f ∈ h.forwarded stripHost) {value : List UInt8} (hvalue : value ∈ h.values "connection")
    (hreadable : Readable value) : ¬ Lists value f.1 := by
  intro hlists
  have hstopped : h.Stopped stripHost f.1 := .inr (.inr ⟨value, hvalue, hreadable, hlists⟩)
  exact (mem_forwarded hlowered (List.mem_filter.mp hf).1).mp hf hstopped

end Filter

end Headers

/-- What is sent for a request has crossed the filter, and so has what comes back. -/
theorem headers_of_sent {table : Except InitError RoutingTable} {limit : Nat} {r : Request}
    {backend : ForwardRequest → Backend.Answer} {sent : ForwardRequest}
    (hsent : sent ∈ (handle table limit backend r).sent) :
    sent.headers = r.headers.forwarded true ∧
      ∀ answer, backend sent = .ok answer →
        (handle table limit backend r).response.headers = answer.headers.forwarded false := by
  rcases accept_cases table limit r with ⟨t, id, route, hdeliver⟩ | ⟨e, he, -⟩
  · rw [handle_of_deliverable backend hdeliver] at hsent ⊢
    obtain rfl : sent = r.sentTo route := by simpa using hsent
    refine ⟨rfl, fun answer hanswer => ?_⟩
    rw [hanswer]
    rfl
  · rw [handle_of_refuse backend he] at hsent
    simp at hsent

open Headers

/-- A field whose name a connection field lists does not cross if the value of that field can be
read, neither to a backend nor back from one. Whatever else the values say, the other fields cross,
but for those of a single connection and the host where it is left out. -/
theorem dispatch_withholds (s : RoutingState) (env : Environment) (limit : Nat)
    (backend : ForwardRequest → Backend.Answer) (r : Request) (hrequest : r.headers.Lowered)
    (hanswers : ∀ sent answer, backend sent = .ok answer → answer.headers.Lowered) :
    let handled := (s.dispatch env limit backend r).1
    (∀ h : Headers, h.Lowered → ∀ stripHost, ∀ f ∈ h, f ∈ h.forwarded stripHost ↔
      f.1 ∉ hopByHop ∧ ¬ (stripHost = true ∧ f.1 = "host") ∧
        ∀ value ∈ h.values "connection", Readable value → ¬ Lists value f.1) ∧
    ∀ sent ∈ handled.sent,
      (∀ f ∈ sent.headers, ∀ value ∈ r.headers.values "connection",
        Readable value → ¬ Lists value f.1) ∧
      ∀ answer, backend sent = .ok answer →
        ∀ f ∈ handled.response.headers, ∀ value ∈ answer.headers.values "connection",
          Readable value → ¬ Lists value f.1 := by
  intro handled
  refine ⟨fun h hlowered stripHost f hf => ?_, fun sent hsent => ?_⟩
  · rw [mem_forwarded hlowered hf, Stopped, hlowered f hf]
    simp only [not_or, not_exists, not_and]
  · have hhandled : handled = handle (s.get env).1 limit backend r := rfl
    rw [hhandled] at hsent ⊢
    obtain ⟨hheaders, hresponse⟩ := headers_of_sent hsent
    refine ⟨fun f hf value hvalue hreadable => ?_,
      fun answer hanswer f hf value hvalue hreadable => ?_⟩
    · rw [hheaders] at hf
      exact not_lists_of_mem_forwarded hrequest hf hvalue hreadable
    · rw [hresponse answer hanswer] at hf
      exact not_lists_of_mem_forwarded (hanswers sent answer hanswer) hf hvalue hreadable

/-- A gateway that serves one operation, at `fn://h`. -/
def oneRoute : RoutingState := ⟨.environment, some (.ok ⟨.ofLists [("a", 0)] [(0, "fn://h")]⟩)⟩

/-- Names listed in other cases and between blanks, there and back. The second connection field of
the request cannot be read, and what it lists crosses. -/
theorem dispatch_withholds_trace :
    let request : Headers := ofFields [("Connection", Text.toBytes "close,\tX-Trace "),
      ("connection", Text.toBytes "x-kept, é"), ("X-Trace", [49]), ("X-Kept", [50])]
    let answer : Response := ⟨200, ofFields [("Connection", Text.toBytes "X-Back"),
      ("x-back", [51])], []⟩
    let handled := (oneRoute.dispatch (fun _ => none) 0 (fun _ => .ok answer)
      ⟨"GET", ⟨"/a", none⟩, request, ⟨[], none⟩⟩).1
    ("x-kept", [50]) ∈ request.forwarded true ∧ handled.sent.size = 1 ∧
      ∀ sent ∈ handled.sent, (∀ f ∈ sent.headers, f.1 ≠ "x-trace") ∧
        ∀ f ∈ handled.response.headers, f.1 ≠ "x-back" := by
  intro request answer handled
  obtain ⟨hforwarded, hwithheld⟩ := dispatch_withholds oneRoute (fun _ => none) 0
    (fun _ => .ok answer) ⟨"GET", ⟨"/a", none⟩, request, ⟨[], none⟩⟩ (lowered_ofFields _)
    fun _ _ hanswer => by cases hanswer; exact lowered_ofFields _
  have htrace : Lists (Text.toBytes "close,\tX-Trace ") "x-trace" :=
    (lower_mem_tokens (by decide +kernel)).mp (by decide +kernel)
  have hback : Lists (Text.toBytes "X-Back") "x-back" :=
    (lower_mem_tokens (by decide +kernel)).mp (by decide +kernel)
  refine ⟨by decide +kernel, by decide +kernel, fun sent hsent => ?_⟩
  obtain ⟨hthere, hreturn⟩ := hwithheld sent hsent
  constructor
  · rintro f hf hname
    rw [← hname] at htrace
    exact hthere f hf _ (by decide +kernel) (by decide +kernel) htrace
  · rintro f hf hname
    rw [← hname] at hback
    exact hreturn answer rfl f hf _ (by decide +kernel) (by decide +kernel) hback

/-- A value that cannot be read withholds nothing: what it lists is sent to a backend and comes back
from one. -/
theorem unread_value_withholds_nothing :
    let h : Headers := ofFields [("Connection", Text.toBytes "x-a,é"), ("X-A", [49])]
    let handled := (oneRoute.dispatch (fun _ => none) 0 (fun _ => .ok ⟨200, h, []⟩)
      ⟨"GET", ⟨"/a", none⟩, h, ⟨[], none⟩⟩).1
    (∃ value ∈ h.values "connection", Lists value "x-a") ∧
      h.forwarded true = [("x-a", [49])] ∧ h.forwarded false = [("x-a", [49])] ∧
      handled.sent = #[⟨"GET", "fn://h/a", [("x-a", [49])], []⟩] ∧
      handled.response.headers = [("x-a", [49])] := by
  have hlists : Lists (Text.toBytes "x-a,é") "x-a" :=
    ⟨"x-a".toList, "x-a".toList,
      ⟨by decide, [], [',', Char.ofNat 0xC3, Char.ofNat 0xA9], by decide +kernel, .inl rfl,
        .inr rfl⟩,
      ⟨⟨[], [], by decide, nofun, nofun⟩, by simp [isPadding], by simp [isPadding]⟩, by decide,
      by decide⟩
  exact ⟨⟨_, by decide +kernel, hlists⟩, by decide +kernel, by decide +kernel, by decide +kernel,
    by decide +kernel⟩

end BatchedGateway
