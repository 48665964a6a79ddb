/- The tables as text: both texts have the form of the encoding, and blanks around them do not
keep them from being read back. -/
import BatchedGateway.Proofs.Archive.Base64
import BatchedGateway.Proofs.Archive.Gzip
import BatchedGateway.Proofs.Json.Decoding
import BatchedGateway.Proofs.Text.Blank
import BatchedGateway.Routes.Payload

namespace BatchedGateway

namespace Base64

/-- The form of an encoded text: characters of the alphabet, in groups of four. -/
structure IsText (text : String) : Prop where
  chars : ∀ c ∈ text.toList, isTextChar c = true
  groups : text.length % 4 = 0

theorem isText_encode (bytes : List UInt8) : IsText (encode bytes) where
  chars := by
    rw [encode, String.toList_ofList]
    exact isTextChar_encodeChars bytes
  groups := by
    rw [encode, String.length_ofList]
    exact length_encodeChars bytes

theorem toNat_of_isTextChar {c : Char} (h : isTextChar c = true) :
    43 ≤ c.toNat ∧ c.toNat ≤ 122 := by
  have hclasses : (((((c.isUpper || c.isLower) || c.isDigit) || c = '+') || c = '/') || c = '=') :=
    h
  simp only [Bool.or_eq_true, decide_eq_true_eq] at hclasses
  rcases hclasses with ((((hupper | hlower) | hdigit) | rfl) | rfl) | rfl
  · have hrange : 65 ≤ c.toNat ∧ c.toNat ≤ 90 := of_decide_eq_true hupper
    omega
  · obtain ⟨hlow, hhigh⟩ := Bool.and_eq_true_iff.mp hlower
    have hrange : 97 ≤ c.toNat ∧ c.toNat ≤ 122 :=
      ⟨of_decide_eq_true hlow, of_decide_eq_true hhigh⟩
    omega
  · have hrange : 48 ≤ c.toNat ∧ c.toNat ≤ 57 := Char.isDigit_iff_toNat.mp hdigit
    omega
  all_goals decide

theorem isBlank_of_isTextChar {c : Char} (h : isTextChar c = true) : Text.isBlank c = false := by
  obtain ⟨hlow, hhigh⟩ := toNat_of_isTextChar h
  simp only [Text.isBlank, Bool.or_eq_false_iff, Bool.and_eq_false_iff, decide_eq_false_iff_not,
    beq_eq_false_iff_ne]
  omega

end Base64

/-- The numbers of the batches are numbers of 64 bits. -/
structure Tables.Fits (t : Tables) : Prop where
  operations : ∀ e ∈ t.operations.entries, e.2 ≤ Json.maxNat64
  endpoints : ∀ e ∈ t.endpoints.entries, e.1 ≤ Json.maxNat64

namespace Tables

theorem integral_operationsJson (operations : SortedMap String Nat) :
    Json.Integral (operationsJson operations) := by
  rw [operationsJson, Json.Integral, Json.integralMembers_iff]
  intro m hm
  obtain ⟨e, -, rfl⟩ := List.mem_map.mp hm
  simp [Json.ofNat, Json.Integral]

theorem integral_endpointsJson (endpoints : SortedMap Nat String) :
    Json.Integral (endpointsJson endpoints) := by
  rw [endpointsJson, Json.Integral, Json.integralMembers_iff]
  intro m hm
  obtain ⟨e, -, rfl⟩ := List.mem_map.mp hm
  trivial

theorem decode_operationsJson {t : Tables} (h : t.Fits) :
    Json.decode operationsDecoder (operationsJson t.operations).compact = .ok t.operations := by
  rw [Json.decode_compact _ (integral_operationsJson t.operations)]
  exact Json.Decoder.tableByName_written fun e he => Json.Decoder.nat64_written (h.operations e he)

theorem decode_endpointsJson {t : Tables} (h : t.Fits) :
    Json.decode endpointsDecoder (endpointsJson t.endpoints).compact = .ok t.endpoints := by
  rw [Json.decode_compact _ (integral_endpointsJson t.endpoints)]
  exact Json.Decoder.tableByNumber_written (fun e _ => Json.Decoder.string_written e.2) h.endpoints

end Tables

namespace Payload

/-- A text has the form of the encoding and is unpacked to a JSON value, however it was packed. -/
structure Holds (text : String) (v : Json) : Prop where
  isText : Base64.IsText text
  unpacked : (Base64.decode text).bind Archive.gunzip = some (Text.toBytes v.compact)

/-- Each table is held by its text. -/
structure Packs (p : Payload) (t : Tables) : Prop where
  operations : Holds p.operations (Tables.operationsJson t.operations)
  endpoints : Holds p.endpoints (Tables.endpointsJson t.endpoints)

/-- To pack a value never fails. -/
theorem exists_encodeText (z : Archive.Compressor) (v : Json) :
    ∃ text, encodeText z v = .ok text ∧ Holds text v := by
  obtain ⟨packed, hpack, hback⟩ := z.readsBack (Text.toBytes v.compact)
  refine ⟨Base64.encode packed, ?_, Base64.isText_encode packed, ?_⟩
  · rw [encodeText, hpack, Outcome.mapError_ok]
    rfl
  · rw [Base64.decode_encode, Option.bind_some, hback]

theorem exists_encode (z : Archive.Compressor) (t : Tables) :
    ∃ p, encode z t = .ok p ∧ p.Packs t := by
  obtain ⟨operations, hoperations, hheldOperations⟩ :=
    exists_encodeText z (Tables.operationsJson t.operations)
  obtain ⟨endpoints, hendpoints, hheldEndpoints⟩ :=
    exists_encodeText z (Tables.endpointsJson t.endpoints)
  refine ⟨⟨operations, endpoints⟩, ?_, hheldOperations, hheldEndpoints⟩
  rw [encode, hoperations, Outcome.ok_bind, hendpoints, Outcome.ok_bind]

theorem packs_of_encode {z : Archive.Compressor} {t : Tables} {p : Payload}
    (h : encode z t = .ok p) : p.Packs t := by
  obtain ⟨p', hp', hpacks⟩ := exists_encode z t
  cases h.symm.trans hp'
  exact hpacks

section Reading

variable {v : Json} {text before after : String}

theorem decodeBytes_padded (h : Holds text v) (hbefore : Text.blank before = true)
    (hafter : Text.blank after = true) :
    decodeBytes (before ++ text ++ after) = .ok (Text.toBytes v.compact) := by
  have hink : ∀ c ∈ text.toList, Text.isBlank c = false :=
    fun c hc => Base64.isBlank_of_isTextChar (h.isText.chars c hc)
  obtain ⟨packed, hpacked, hback⟩ := Option.bind_eq_some_iff.mp h.unpacked
  rw [decodeBytes, Text.trim_padded hbefore hafter hink, hpacked]
  simp only [hback]

/-- What a decoder makes of the printed value is what it makes of a text that holds it. -/
theorem decodeText_padded {α : Type} (value : Json.Decoder α) (h : Holds text v)
    (hbefore : Text.blank before = true) (hafter : Text.blank after = true) :
    decodeText value (before ++ text ++ after) =
      (Json.decode value v.compact).mapError .content := by
  rw [decodeText, decodeBytes_padded h hbefore hafter, Outcome.ok_bind, Text.ofBytes?_toBytes]

theorem decodeText_of_holds {α : Type} (value : Json.Decoder α) (h : Holds text v) :
    decodeText value text = (Json.decode value v.compact).mapError .content := by
  have hpadded := decodeText_padded value h Text.blank_empty Text.blank_empty
  rwa [String.empty_append, String.append_empty] at hpadded

end Reading

namespace Packs

variable {p : Payload} {t : Tables}

theorem decodeText_operations (hp : p.Packs t) (ht : t.Fits) :
    decodeText Tables.operationsDecoder p.operations = .ok t.operations := by
  rw [decodeText_of_holds _ hp.operations, Tables.decode_operationsJson ht, Outcome.mapError_ok]

theorem decodeText_endpoints (hp : p.Packs t) (ht : t.Fits) :
    decodeText Tables.endpointsDecoder p.endpoints = .ok t.endpoints := by
  rw [decodeText_of_holds _ hp.endpoints, Tables.decode_endpointsJson ht, Outcome.mapError_ok]

/-- Tables that are packed can be unpacked. -/
theorem decode_eq (hp : p.Packs t) (ht : t.Fits) : decode p = .ok t := by
  rw [decode, hp.decodeText_operations ht, Outcome.ok_bind, hp.decodeText_endpoints ht,
    Outcome.ok_bind]

end Packs

/-- Whatever compresses them, tables survive their encoding, which does not fail and has a text form
that blanks around it cannot harm. -/
theorem decode_encode_padded (z : Archive.Compressor) {t : Tables} (h : t.Fits) :
    ∃ p, encode z t = .ok p ∧ Base64.IsText p.operations ∧ Base64.IsText p.endpoints ∧
      ∀ a b c d : String, Text.blank a = true → Text.blank b = true → Text.blank c = true →
        Text.blank d = true →
          decode ⟨a ++ p.operations ++ b, c ++ p.endpoints ++ d⟩ = .ok t := by
  obtain ⟨p, hencode, hpacks⟩ := exists_encode z t
  refine ⟨p, hencode, hpacks.operations.isText, hpacks.endpoints.isText, ?_⟩
  intro a b c d ha hb hc hd
  rw [decode, decodeText_padded _ hpacks.operations ha hb, Tables.decode_operationsJson h,
    decodeText_padded _ hpacks.endpoints hc hd, Tables.decode_endpointsJson h]
  rfl

/-- A compressor that packs one value to a given text. -/
def packingTo (z : Archive.Compressor) (v : Json) (text : String)
    (h : Archive.gunzip ((Base64.decode text).getD []) = some (Text.toBytes v.compact)) :
    Archive.Compressor :=
  z.withText (Text.toBytes v.compact) ((Base64.decode text).getD []) h

section Odd

/-- Empty, quoted and control texts, with the greatest number of a batch. -/
def oddTables : Tables := Tables.ofLists [("", 0), ("\"\\\n\x00", Json.maxNat64)]
  [(0, "fn://h0"), (Json.maxNat64, "fn://h1")]

/-- A block in the fixed code, where three zeros are copies of the one before them. -/
def oddOperations : String :=
  "H4sIAAAAAAAA/6tWUrIy0FGKUYqJicmLKTUAAiUrQwsTEzNzExMDc2NzA0tTU0MzQ9NaALvslFwqAAAA"

/-- A block that brings codes of its own, where the second URL is copied from the first. -/
def oddEndpoints : String :=
  "H4sIAAAAAAAA/z3KsQ0AIAgEwF2+NhHiA8pAxsoFjLvb2d+BIDF31roEBdpJD1KihQwzdbUPFPcBa+v3yjAAAAA="

def oddCompressor : Archive.Compressor :=
  packingTo
    (packingTo .fixedCode (Tables.operationsJson oddTables.operations) oddOperations
      (by decide +kernel))
    (Tables.endpointsJson oddTables.endpoints) oddEndpoints (by decide +kernel)

theorem encode_oddCompressor :
    encode oddCompressor oddTables = .ok ⟨oddOperations, oddEndpoints⟩ :=
  Outcome.toOption_eq_some.mp (by decide +kernel)

/-- Copies in both kinds of compressed blocks, with blanks around the texts. -/
theorem decode_encode_padded_odd :
    oddTables.Fits ∧ encode oddCompressor oddTables = .ok ⟨oddOperations, oddEndpoints⟩ ∧
      Base64.IsText oddOperations ∧ Base64.IsText oddEndpoints ∧
      decode ⟨" \n" ++ oddOperations ++ "\t", "" ++ oddEndpoints ++ "\u3000"⟩ = .ok oddTables := by
  have hfits : oddTables.Fits := ⟨by decide, by decide⟩
  obtain ⟨p, hp, hoperations, hendpoints, hdecode⟩ := decode_encode_padded oddCompressor hfits
  cases encode_oddCompressor.symm.trans hp
  exact ⟨hfits, hp, hoperations, hendpoints, hdecode " \n" "\t" "" "\u3000" (by decide)
    (by decide) (by decide) (by decide)⟩

end Odd

end Payload

end BatchedGateway
