/- Texts with some characters written as bytes: they are read back, and hold no slash. -/
import BatchedGateway.Text.Encoding

namespace BatchedGateway.Text

/-- The digit for a number below sixteen, in either case. -/
def hexChar (upper : Bool) (n : Nat) : Char :=
  (if upper then "0123456789ABCDEF" else "0123456789abcdef").toList.getD n '0'

/-- Bytes written as percent signs, each with two digits after it. -/
inductive Escapes : List UInt8 → List Char → Prop
  | nil : Escapes [] []
  | cons (b : UInt8) (high low : Bool) {bytes : List UInt8} {written : List Char}
      (h : Escapes bytes written) :
      Escapes (b :: bytes)
        ('%' :: hexChar high (b.toNat / 16) :: hexChar low (b.toNat % 16) :: written)

/-- A text and a way to write it: slashes and percent signs are escaped, any other character
is or stands for itself. -/
inductive PercentForm : List Char → List Char → Prop
  | nil : PercentForm [] []
  | raw {c : Char} {text written : List Char} (hslash : c ≠ '/') (hpercent : c ≠ '%')
      (h : PercentForm text written) : PercentForm (c :: text) (c :: written)
  | escaped {c : Char} {text escapes written : List Char}
      (hc : Escapes (toBytes (String.singleton c)) escapes) (h : PercentForm text written) :
      PercentForm (c :: text) (escapes ++ written)

section Bytes

theorem toBytes_append (s t : String) : toBytes (s ++ t) = toBytes s ++ toBytes t := by
  simp [toBytes]

theorem toBytes_ofList_cons (c : Char) (cs : List Char) :
    toBytes (String.ofList (c :: cs)) =
      toBytes (String.singleton c) ++ toBytes (String.ofList cs) := by
  rw [← toBytes_append, ← List.singleton_append, String.ofList_append]
  rfl

theorem toBytes_eq_nil {s : String} (h : toBytes s = []) : s = "" := by
  have hnone : ofBytes? [] = some "" := ofBytes?_toBytes ""
  rw [← h, ofBytes?_toBytes] at hnone
  exact Option.some.inj hnone

end Bytes

theorem hexValue?_hexChar : ∀ upper, ∀ n < 16, hexValue? (hexChar upper n) = some n := by decide

theorem hexChar_ne_slash : ∀ upper, ∀ n < 16, hexChar upper n ≠ '/' := by decide

theorem percentDecode_escape (b : UInt8) (high low : Bool) (rest : List Char) :
    percentDecode ('%' :: hexChar high (b.toNat / 16) :: hexChar low (b.toNat % 16) :: rest) =
      b :: percentDecode rest := by
  have hb := b.toNat_lt
  have hhigh := hexValue?_hexChar high (b.toNat / 16) (by omega)
  have hlow := hexValue?_hexChar low (b.toNat % 16) (by omega)
  have hsum : b.toNat / 16 * 16 + b.toNat % 16 = b.toNat := by omega
  have hbyte : hexByte? (hexChar high (b.toNat / 16)) (hexChar low (b.toNat % 16)) = some b := by
    rw [hexByte?, hhigh, hlow]
    simp only [Option.bind_eq_bind, Option.bind_some, hsum, UInt8.ofNat_toNat]
  rw [percentDecode, hbyte]

theorem percentDecode_raw {c : Char} (hc : c ≠ '%') (rest : List Char) :
    percentDecode (c :: rest) = toBytes (String.singleton c) ++ percentDecode rest := by
  rw [percentDecode]
  exact fun _ _ _ h => absurd h hc

/-- There are no characters that stand for no bytes. -/
theorem percentDecode_eq_nil {cs : List Char} (h : percentDecode cs = []) : cs = [] := by
  unfold percentDecode at h
  split at h
  · split at h
    · cases h
    · have hpercent := toBytes_eq_nil (List.append_eq_nil_iff.mp h).1
      exact absurd hpercent (by decide)
  · rename_i c rest _
    have hsingle := congrArg String.toList (toBytes_eq_nil (List.append_eq_nil_iff.mp h).1)
    exact absurd hsingle (by simp)
  · rfl

theorem Escapes.percentDecode {bytes : List UInt8} {escapes : List Char}
    (h : Escapes bytes escapes) (rest : List Char) :
    Text.percentDecode (escapes ++ rest) = bytes ++ Text.percentDecode rest := by
  induction h with
  | nil => rfl
  | cons b high low h ih =>
      rw [List.cons_append, List.cons_append, List.cons_append, percentDecode_escape, ih]
      rfl

theorem Escapes.notMem {bytes : List UInt8} {escapes : List Char} (h : Escapes bytes escapes) :
    '/' ∉ escapes := by
  induction h with
  | nil => exact List.not_mem_nil
  | cons b high low h ih =>
      have hb := b.toNat_lt
      have hhigh := hexChar_ne_slash high (b.toNat / 16) (by omega)
      have hlow := hexChar_ne_slash low (b.toNat % 16) (by omega)
      simp [ih, hhigh.symm, hlow.symm]

namespace PercentForm

variable {text written : List Char}

/-- What is read back from a text written in this way is the text. -/
theorem percentDecode (h : PercentForm text written) :
    Text.percentDecode written = toBytes (String.ofList text) := by
  induction h with
  | nil => rfl
  | raw hslash hpercent h ih => rw [percentDecode_raw hpercent, ih, toBytes_ofList_cons]
  | escaped hc h ih => rw [hc.percentDecode, ih, toBytes_ofList_cons]

theorem notMem (h : PercentForm text written) : '/' ∉ written := by
  induction h with
  | nil => exact List.not_mem_nil
  | raw hslash hpercent h ih => simp [ih, hslash.symm]
  | escaped hc h ih => simp [ih, hc.notMem]

theorem ne_nil (h : PercentForm text written) (htext : text ≠ []) : written ≠ [] := by
  rintro rfl
  have hempty := congrArg String.toList (toBytes_eq_nil h.percentDecode.symm)
  rw [String.toList_ofList] at hempty
  exact htext hempty

end PercentForm

/-- Characters that need no escape anywhere. -/
def isUnreserved (c : Char) : Bool := c.isAlphanum || c = '-' || c = '_' || c = '.' || c = '~'

/-- The form in which all other characters are escaped, in capitals. -/
def percentEncode (text : String) : String :=
  String.ofList (text.toList.flatMap fun c =>
    if isUnreserved c then [c]
    else (toBytes (String.singleton c)).flatMap fun b =>
      ['%', hexChar true (b.toNat / 16), hexChar true (b.toNat % 16)])

theorem escapes_flatMap (bytes : List UInt8) :
    Escapes bytes (bytes.flatMap fun b =>
      ['%', hexChar true (b.toNat / 16), hexChar true (b.toNat % 16)]) := by
  induction bytes with
  | nil => exact .nil
  | cons b bytes ih => exact .cons b true true ih

theorem percentForm_percentEncode (text : String) :
    PercentForm text.toList (percentEncode text).toList := by
  rw [percentEncode, String.toList_ofList]
  induction text.toList with
  | nil => exact .nil
  | cons c cs ih =>
      rw [List.flatMap_cons]
      by_cases hc : isUnreserved c = true
      · have hslash : c ≠ '/' := by
          rintro rfl
          exact absurd hc (by decide)
        have hpercent : c ≠ '%' := by
          rintro rfl
          exact absurd hc (by decide)
        rw [if_pos hc]
        exact .raw hslash hpercent ih
      · rw [if_neg hc]
        exact .escaped (escapes_flatMap _) ih

end BatchedGateway.Text
