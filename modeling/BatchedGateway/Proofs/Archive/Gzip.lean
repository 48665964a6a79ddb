/- Compressed bytes: the bits of a stream, the words of its symbols, its stored blocks and its frame,
read back as they were written. -/
import BatchedGateway.Archive.Gzip

namespace BatchedGateway.Archive

section Bits

@[simp] theorem length_bitsOfNat (count value : Nat) : (bitsOfNat count value).length = count := by
  induction count generalizing value with
  | zero => rfl
  | succ count ih => rw [bitsOfNat, List.length_cons, ih]

theorem toNat_lowBit (value : Nat) : (value % 2 == 1).toNat = value % 2 := by
  rcases Nat.mod_two_eq_zero_or_one value with h | h <;> simp [h]

theorem takeNumber_bitsOfNat (count value : Nat) (rest : List Bool) :
    takeNumber count (bitsOfNat count value ++ rest) = some (value % Nat.pow 2 count, rest) := by
  rw [Nat.pow_eq]
  induction count generalizing value with
  | zero => simp [bitsOfNat, takeNumber, Nat.mod_one]
  | succ count ih =>
      have hbit : 2 * (value / 2 % 2 ^ count) + (value % 2 == 1).toNat =
          value % 2 ^ (count + 1) := by
        rw [toNat_lowBit, Nat.pow_succ', Nat.mod_mul]
        omega
      rw [bitsOfNat, List.cons_append, takeNumber, ih]
      simp [hbit]

theorem bitsOfNat_mod (count value : Nat) :
    bitsOfNat count (value % Nat.pow 2 count) = bitsOfNat count value := by
  rw [Nat.pow_eq]
  induction count generalizing value with
  | zero => rfl
  | succ count ih =>
      have hhalf : value % 2 ^ (count + 1) / 2 = value / 2 % 2 ^ count := by
        rw [Nat.pow_succ', Nat.mod_mul_right_div_self]
      have hbit : value % 2 ^ (count + 1) % 2 = value % 2 := by
        rw [Nat.pow_succ', Nat.mod_mul_right_mod]
      rw [bitsOfNat, bitsOfNat, hhalf, hbit, ih]

theorem bitsOfNat_toNat (value : Nat) :
    bitsOfNat 8 (UInt8.ofNat value).toNat = bitsOfNat 8 value := by
  rw [UInt8.toNat_ofNat']
  exact bitsOfNat_mod 8 value

theorem bitsOf_cons (b : UInt8) (bytes : List UInt8) :
    bitsOf (b :: bytes) = bitsOfNat 8 b.toNat ++ bitsOf bytes := List.flatMap_cons

theorem bitsOf_append (bytes more : List UInt8) :
    bitsOf (bytes ++ more) = bitsOf bytes ++ bitsOf more := List.flatMap_append

theorem length_bitsOf (bytes : List UInt8) : (bitsOf bytes).length = 8 * bytes.length := by
  induction bytes with
  | nil => rfl
  | cons b bytes ih =>
      rw [bitsOf_cons, List.length_append, length_bitsOfNat, ih, List.length_cons]
      omega

/-- The bits of a byte that was begun are dropped, and no more. -/
theorem toByte_append (begun : List Bool) (h : begun.length < 8) (bytes : List UInt8) :
    toByte (begun ++ bitsOf bytes) = bitsOf bytes := by
  have hmod : (begun ++ bitsOf bytes).length % 8 = begun.length := by
    rw [List.length_append, length_bitsOf]
    omega
  rw [toByte, hmod, List.drop_left]

theorem bytesOf_bitsOf (bytes : List UInt8) : bytesOf (bitsOf bytes) = bytes := by
  induction bytes with
  | nil => rfl
  | cons b bytes ih =>
      have hb := b.toNat_lt
      rw [bitsOf_cons]
      simp only [bitsOfNat, List.cons_append, List.nil_append, bytesOf, toNat_lowBit, ih]
      refine congrArg (· :: bytes) (UInt8.toNat_inj.mp ?_)
      rw [UInt8.toNat_ofNat']
      omega

theorem bitsOfNat_toNat_add (b : Bool) (count value : Nat) :
    bitsOfNat (count + 1) (b.toNat + 2 * value) = b :: bitsOfNat count value := by
  have hb := b.toNat_lt
  have hbit : (b.toNat + 2 * value) % 2 = b.toNat := by omega
  have hhalf : (b.toNat + 2 * value) / 2 = value := by omega
  rw [bitsOfNat, hbit, hhalf]
  cases b <;> rfl

/-- Bits that fill whole bytes are the bits of those. -/
theorem bitsOf_bytesOf {bits : List Bool} (h : bits.length % 8 = 0) :
    bitsOf (bytesOf bits) = bits := by
  fun_induction bytesOf bits with
  | case1 a b c d e f g i rest ih =>
      have hrest : rest.length % 8 = 0 := by
        simp only [List.length_cons] at h
        omega
      rw [bitsOf_cons, bitsOfNat_toNat, ih hrest]
      have hlast : bitsOfNat 1 i.toNat = [i] := by cases i <;> rfl
      rw [bitsOfNat_toNat_add, bitsOfNat_toNat_add, bitsOfNat_toNat_add, bitsOfNat_toNat_add,
        bitsOfNat_toNat_add, bitsOfNat_toNat_add, bitsOfNat_toNat_add, hlast]
      rfl
  | case2 bits hshort =>
      match bits, h, hshort with
      | [], _, _ => rfl
      | a :: b :: c :: d :: e :: f :: g :: i :: rest, _, hshort =>
          exact absurd rfl (hshort a b c d e f g i rest)

end Bits

section Symbols

/-- What comes after a word is left. -/
theorem Tree.read_append {tree : Tree} {bits left : List Bool} {symbol : Nat}
    (h : tree.read bits = some (symbol, left)) (rest : List Bool) :
    tree.read (bits ++ rest) = some (symbol, left ++ rest) := by
  fun_induction Tree.read tree bits with
  | case1 symbol bits =>
      cases h
      rfl
  | case2 zero one bits ih => exact ih h
  | case3 zero one bits ih => exact ih h
  | case4 => cases h

/-- The tree of the fixed code has its words for all bytes and for the end of a block. -/
theorem exists_tree_fixedLiterals : ∃ tree, treeOf fixedLiterals = some tree ∧
    (∀ n < 256, tree.read (literalWord n) = some (n, [])) ∧
    tree.read endWord = some (256, []) := by
  have hall : ((treeOf fixedLiterals).any fun tree =>
      (List.range 256).all (fun n => tree.read (literalWord n) == some (n, [])) &&
        tree.read endWord == some (256, [])) = true := by decide +kernel
  obtain ⟨tree, htree, hwords⟩ := (Option.any_eq_true _ _).mp hall
  obtain ⟨hliterals, hend⟩ := Bool.and_eq_true_iff.mp hwords
  refine ⟨tree, htree, fun n hn => ?_, beq_iff_eq.mp hend⟩
  exact beq_iff_eq.mp (List.all_eq_true.mp hliterals n (List.mem_range.mpr hn))

/-- The words of bytes are read one after the other, up to the end of the block. -/
theorem readSymbols_words {tree : Tree}
    (hliterals : ∀ n < 256, tree.read (literalWord n) = some (n, []))
    (hend : tree.read endWord = some (256, [])) (distances : Tree) (bytes : List UInt8)
    (rest : List Bool) (out : Array UInt8) : ∀ fuel, bytes.length < fuel →
      readSymbols tree distances fuel
        (bytes.flatMap (fun b => literalWord b.toNat) ++ (endWord ++ rest)) out =
          some (rest, out ++ bytes.toArray) := by
  induction bytes generalizing out with
  | nil =>
      intro fuel hfuel
      obtain ⟨n, rfl⟩ : ∃ n, fuel = n + 1 := ⟨fuel - 1, by omega⟩
      rw [List.flatMap_nil, List.nil_append, readSymbols, Tree.read_append hend]
      simp
  | cons b bytes ih =>
      intro fuel hfuel
      obtain ⟨n, rfl⟩ : ∃ n, fuel = n + 1 := ⟨fuel - 1, by omega⟩
      have hb := b.toNat_lt
      have hn : bytes.length < n := Nat.lt_of_succ_lt_succ hfuel
      rw [List.flatMap_cons, List.append_assoc, readSymbols,
        Tree.read_append (hliterals b.toNat hb)]
      simp [hb, ih _ n hn]

theorem length_le_length_words (bytes : List UInt8) :
    bytes.length ≤ (bytes.flatMap fun b => literalWord b.toNat).length := by
  induction bytes with
  | nil => exact Nat.zero_le _
  | cons b bytes ih =>
      have hword : 8 ≤ (literalWord b.toNat).length := by
        rw [literalWord]
        split <;> simp [word]
      rw [List.flatMap_cons, List.length_append, List.length_cons]
      omega

/-- A block in the fixed code stands for the bytes whose words it holds. -/
theorem readBlock_words (bytes : List UInt8) (rest : List Bool) (out : Array UInt8) :
    readBlock 1 (bytes.flatMap (fun b => literalWord b.toNat) ++ (endWord ++ rest)) out =
      some (rest, out ++ bytes.toArray) := by
  obtain ⟨literals, hliterals, hwords, hend⟩ := exists_tree_fixedLiterals
  obtain ⟨distances, hdistances⟩ := Option.isSome_iff_exists.mp
    (show (treeOf fixedDistances).isSome = true by decide +kernel)
  have hlength := length_le_length_words bytes
  simp only [readBlock, hliterals, hdistances, Option.bind_eq_bind, Option.bind_some]
  refine readSymbols_words hwords hend distances bytes rest out _ ?_
  rw [List.length_append]
  omega

/-- A copy leaves what was written, and each byte after it is the one `distance` bytes before, which
may be of the copy itself. -/
theorem getElem?_copyBack {distance : Nat} (hpos : 0 < distance) (count : Nat) (out : Array UInt8)
    (hsize : distance ≤ out.size) : ∀ i < out.size + count,
      (copyBack distance count out)[i]? =
        if i < out.size then out[i]? else (copyBack distance count out)[i - distance]? := by
  induction count generalizing out with
  | zero =>
      intro i hi
      rw [copyBack, if_pos (by omega)]
  | succ count ih =>
      intro i hi
      rw [copyBack]
      have hstep := ih (out.push (out.getD (out.size - distance) 0))
        (by rw [Array.size_push]; omega)
      simp only [Array.size_push] at hstep
      by_cases hnew : i = out.size
      · -- the byte that is pushed is one of those that were there
        have hback : out.size - distance < out.size := by omega
        rw [hnew, if_neg (Nat.lt_irrefl _), hstep _ (by omega), hstep _ (by omega),
          if_pos (by omega), if_pos (by omega), Array.getElem?_push_size,
          Array.getElem?_push_lt hback, Array.getD_eq_getD_getElem?,
          Array.getElem?_eq_getElem hback, Option.getD_some]
      · rw [hstep i (by omega)]
        by_cases hold : i < out.size
        · rw [if_pos (by omega), if_pos hold, Array.getElem?_push_lt hold,
            Array.getElem?_eq_getElem hold]
        · rw [if_neg (by omega), if_neg hold]

end Symbols

section Stored

theorem bitsOfNat_add (m n value : Nat) :
    bitsOfNat (m + n) value = bitsOfNat m value ++ bitsOfNat n (value / Nat.pow 2 m) := by
  rw [Nat.pow_eq]
  induction m generalizing value with
  | zero => simp [bitsOfNat]
  | succ m ih =>
      rw [Nat.succ_add, bitsOfNat, bitsOfNat, ih, List.cons_append, Nat.div_div_eq_div_mul,
        ← Nat.pow_succ']

/-- A number of whole bytes, the lowest byte first, is its bits. -/
theorem bitsOf_littleEndian (count value : Nat) :
    bitsOf (littleEndian count value) = bitsOfNat (8 * count) value := by
  induction count generalizing value with
  | zero => rfl
  | succ count ih =>
      have hsize : 8 * (count + 1) = 8 + 8 * count := by omega
      have hsplit : bitsOfNat (8 + 8 * count) value =
          bitsOfNat 8 value ++ bitsOfNat (8 * count) (value / 256) := bitsOfNat_add 8 _ value
      rw [littleEndian, bitsOf_cons, bitsOfNat_toNat, ih, hsize, hsplit]

/-- The size of a stored block, and its complement. -/
theorem takeNumber_littleEndian {value : Nat} (h : value < 65536) (rest : List Bool) :
    takeNumber 16 (bitsOf (littleEndian 2 value) ++ rest) = some (value, rest) := by
  rw [bitsOf_littleEndian, takeNumber_bitsOfNat]
  exact congrArg (fun n => some (n, rest)) (Nat.mod_eq_of_lt h)

theorem takeBytes_bitsOf (bytes : List UInt8) (rest : List Bool) (out : Array UInt8) :
    takeBytes bytes.length (bitsOf bytes ++ rest) out = some (rest, out ++ bytes.toArray) := by
  induction bytes generalizing out with
  | nil => simp [takeBytes, bitsOf]
  | cons b bytes ih =>
      have hb : b.toNat % Nat.pow 2 8 = b.toNat := Nat.mod_eq_of_lt b.toNat_lt
      rw [bitsOf_cons, List.append_assoc, List.length_cons, takeBytes, takeNumber_bitsOfNat, hb]
      simp [ih]

/-- A stored block starts at the next whole byte, and stands for its bytes. -/
theorem readBlock_stored {bytes : List UInt8} (h : bytes.length ≤ 65535) (begun : List Bool)
    (hbegun : begun.length < 8) (rest : List UInt8) (out : Array UInt8) :
    readBlock 0 (begun ++ bitsOf (littleEndian 2 bytes.length ++
      (littleEndian 2 (65535 - bytes.length) ++ (bytes ++ rest)))) out =
        some (bitsOf rest, out ++ bytes.toArray) := by
  have hsum : bytes.length + (65535 - bytes.length) = 65535 := by omega
  rw [readBlock, readStored, toByte_append begun hbegun, bitsOf_append,
    takeNumber_littleEndian (by omega)]
  simp only [Option.bind_eq_bind, Option.bind_some]
  rw [bitsOf_append, takeNumber_littleEndian (by omega)]
  simp only [Option.bind_some]
  rw [if_pos hsum, bitsOf_append, takeBytes_bitsOf]

end Stored

theorem afterHeader_header (body : List UInt8) : afterHeader (header ++ body) = some body := by
  simp [afterHeader, header, flag]

@[simp] theorem length_littleEndian (count value : Nat) :
    (littleEndian count value).length = count := by
  induction count generalizing value with
  | zero => rfl
  | succ count ih => rw [littleEndian, List.length_cons, ih]

theorem length_trailer (bytes : List UInt8) : (trailer bytes).length = 8 := by
  simp [trailer]

theorem length_filled (bits : List Bool) : (filled bits).length % 8 = 0 := by
  rw [filled, List.length_append, List.length_replicate]
  omega

/-- What fills the last byte up is passed over with it. -/
theorem toByte_filled (bits : List Bool) (rest : List UInt8) :
    ∃ fill, filled bits = bits ++ fill ∧ toByte (fill ++ bitsOf rest) = bitsOf rest := by
  refine ⟨_, rfl, toByte_append _ ?_ rest⟩
  rw [List.length_replicate]
  exact Nat.mod_lt _ (by decide)

/-- A stream of one block in the fixed code stands for its bytes. -/
theorem inflate_deflate (bytes rest : List UInt8) :
    inflate (deflate bytes ++ rest) = some (bytes, rest) := by
  obtain ⟨fill, hfilled, hfill⟩ := toByte_filled (bitsOfNat 1 1 ++ (bitsOfNat 2 1 ++
    (bytes.flatMap (fun b => literalWord b.toNat) ++ endWord))) rest
  have hbits : bitsOf (deflate bytes ++ rest) = bitsOfNat 1 1 ++ (bitsOfNat 2 1 ++
      (bytes.flatMap (fun b => literalWord b.toNat) ++ (endWord ++ (fill ++ bitsOf rest)))) := by
    rw [bitsOf_append, deflate, bitsOf_bytesOf (length_filled _), hfilled]
    simp only [List.append_assoc]
  obtain ⟨fuel, hfuel⟩ : ∃ fuel, (bitsOf (deflate bytes ++ rest)).length = fuel + 1 := by
    refine Nat.exists_eq_add_one_of_ne_zero ?_
    rw [hbits, List.length_append, length_bitsOfNat]
    omega
  have hblocks : readBlocks (fuel + 1) (bitsOf (deflate bytes ++ rest)) #[] =
      some (fill ++ bitsOf rest, #[] ++ bytes.toArray) := by
    rw [hbits, readBlocks, takeNumber_bitsOfNat]
    simp only [Option.bind_eq_bind, Option.bind_some, takeNumber_bitsOfNat]
    simp [readBlock_words]
  rw [inflate, hfuel, hblocks]
  simp [hfill, bytesOf_bitsOf]

/-- What is compressed is found again. -/
theorem gunzip_gzip (bytes : List UInt8) : gunzip (gzip bytes) = some bytes := by
  have htrailer : takeExactly 8 (trailer bytes) = some (trailer bytes, []) := by
    rw [takeExactly, if_neg (by rw [length_trailer]; decide), ← length_trailer bytes,
      List.take_length, List.drop_length]
  rw [gunzip, gzip, List.append_assoc, afterHeader_header]
  simp [inflate_deflate, htrailer]

namespace Compressor

/-- Each text in one block in the fixed code. -/
def fixedCode : Compressor where
  pack bytes := .ok (gzip bytes)
  readsBack bytes := ⟨_, rfl, gunzip_gzip bytes⟩

/-- Packs one text in a way of its own. -/
def withText (z : Compressor) (bytes packed : List UInt8) (h : gunzip packed = some bytes) :
    Compressor where
  pack other := if other = bytes then .ok packed else z.pack other
  readsBack other := by
    split
    · rename_i heq
      rw [heq]
      exact ⟨packed, rfl, h⟩
    · exact z.readsBack other

end Compressor

end BatchedGateway.Archive
