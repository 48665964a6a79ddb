/- Base 64: what is written has the characters and the length of the format, and is read back. -/
import BatchedGateway.Archive.Base64

namespace BatchedGateway.Base64

/-- The characters of the format: letters, digits, two signs and the padding. -/
def isTextChar (c : Char) : Bool := c.isAlphanum || c = '+' || c = '/' || c = '='

theorem digit?_digitChar : ∀ n < 64, digit? (digitChar n) = some n := by decide

theorem digitChar_ne_pad : ∀ n < 64, digitChar n ≠ '=' := by decide

theorem isTextChar_digitChar : ∀ n < 64, isTextChar (digitChar n) = true := by decide

theorem isTextChar_pad : isTextChar '=' = true := by decide

theorem isTextChar_encodeChars (bytes : List UInt8) :
    ∀ c ∈ encodeChars bytes, isTextChar c = true := by
  fun_induction encodeChars bytes with
  | case1 => simp
  | case2 a n =>
      have ha := a.toNat_lt
      have hhigh := isTextChar_digitChar (n / 64) (by omega)
      have hlow := isTextChar_digitChar (n % 64) (by omega)
      simp [hhigh, hlow, isTextChar_pad]
  | case3 a b n =>
      have ha := a.toNat_lt
      have hb := b.toNat_lt
      have hhigh := isTextChar_digitChar (n / 4096) (by omega)
      have hmiddle := isTextChar_digitChar (n / 64 % 64) (by omega)
      have hlow := isTextChar_digitChar (n % 64) (by omega)
      simp [hhigh, hmiddle, hlow, isTextChar_pad]
  | case4 a b c rest n ih =>
      have ha := a.toNat_lt
      have hb := b.toNat_lt
      have hc := c.toNat_lt
      have hfirst := isTextChar_digitChar (n / 262144) (by omega)
      have hsecond := isTextChar_digitChar (n / 4096 % 64) (by omega)
      have hthird := isTextChar_digitChar (n / 64 % 64) (by omega)
      have hfourth := isTextChar_digitChar (n % 64) (by omega)
      simpa [hfirst, hsecond, hthird, hfourth] using ih

theorem length_encodeChars (bytes : List UInt8) : (encodeChars bytes).length % 4 = 0 := by
  fun_induction encodeChars bytes with
  | case1 => rfl
  | case2 => simp
  | case3 => simp
  | case4 a b c rest n ih =>
      simp only [List.length_cons]
      omega

theorem byte_ofNat {n : Nat} {b : UInt8} (h : n % 256 = b.toNat) : UInt8.ofNat n = b := by
  apply UInt8.toNat_inj.mp
  rw [UInt8.toNat_ofNat']
  exact h

/-- A group without padding stands for three bytes. -/
theorem decodeChars_group {p q r s : Nat} (hp : p < 64) (hq : q < 64) (hr : r < 64) (hs : s < 64)
    {rest : List Char} {bytes : List UInt8} (hrest : decodeChars rest = some bytes) :
    decodeChars (digitChar p :: digitChar q :: digitChar r :: digitChar s :: rest) =
      some (UInt8.ofNat ((((p * 64 + q) * 64 + r) * 64 + s) / 65536) ::
        UInt8.ofNat ((((p * 64 + q) * 64 + r) * 64 + s) / 256) ::
        UInt8.ofNat (((p * 64 + q) * 64 + r) * 64 + s) :: bytes) := by
  have hpad := digitChar_ne_pad s hs
  rw [decodeChars]
  · simp [digit?_digitChar, hp, hq, hr, hs, hrest]
  · exact fun _ h => absurd h hpad
  · exact fun h => absurd h hpad

theorem decodeChars_encodeChars (bytes : List UInt8) :
    decodeChars (encodeChars bytes) = some bytes := by
  fun_induction encodeChars bytes with
  | case1 => rfl
  | case2 a n =>
      have ha := a.toNat_lt
      have hhigh := digit?_digitChar (n / 64) (by omega)
      have hlow := digit?_digitChar (n % 64) (by omega)
      have hsum : n / 64 * 64 + n % 64 = n := by omega
      have hbits : n % 16 = 0 := by omega
      have hbyte : n / 16 = a.toNat := by omega
      simp [decodeChars, hhigh, hlow, hsum, hbits, hbyte]
  | case3 a b n =>
      have ha := a.toNat_lt
      have hb := b.toNat_lt
      have hfirst := digit?_digitChar (n / 4096) (by omega)
      have hsecond := digit?_digitChar (n / 64 % 64) (by omega)
      have hthird := digit?_digitChar (n % 64) (by omega)
      have hsum : (n / 4096 * 64 + n / 64 % 64) * 64 + n % 64 = n := by omega
      have hbits : n % 4 = 0 := by omega
      have hpad := digitChar_ne_pad (n % 64) (by omega)
      have hhigh : UInt8.ofNat (n / 1024) = a := byte_ofNat (by omega)
      have hlow : UInt8.ofNat (n / 4) = b := byte_ofNat (by omega)
      rw [decodeChars]
      · simp [hfirst, hsecond, hthird, hsum, hbits, hhigh, hlow]
      · exact fun h => absurd h hpad
  | case4 a b c rest n ih =>
      have ha := a.toNat_lt
      have hb := b.toNat_lt
      have hc := c.toNat_lt
      have hsum : ((n / 262144 * 64 + n / 4096 % 64) * 64 + n / 64 % 64) * 64 + n % 64 = n := by
        omega
      rw [decodeChars_group (by omega) (by omega) (by omega) (by omega) ih, hsum]
      have hfirst : UInt8.ofNat (n / 65536) = a := byte_ofNat (by omega)
      have hsecond : UInt8.ofNat (n / 256) = b := byte_ofNat (by omega)
      have hthird : UInt8.ofNat n = c := byte_ofNat (by omega)
      rw [hfirst, hsecond, hthird]

theorem decode_encode (bytes : List UInt8) : decode (encode bytes) = some bytes := by
  rw [decode, encode, String.toList_ofList, decodeChars_encodeChars]

end BatchedGateway.Base64
