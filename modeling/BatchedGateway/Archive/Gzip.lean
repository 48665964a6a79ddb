/- The gzip format: a deflate stream with a header, a checksum and a size. -/
import BatchedGateway.Archive.Inflate

namespace BatchedGateway.Archive

/-- One step of the checksum for each bit of a byte. -/
def crcStep : (bits : Nat) → UInt32 → UInt32
  | 0, c => c
  | bits + 1, c =>
      crcStep bits (if c &&& 1 = 1 then (0xEDB88320 : UInt32) ^^^ (c >>> 1) else c >>> 1)

def crcByte (c : UInt32) (b : UInt8) : UInt32 := crcStep 8 (c ^^^ b.toUInt32)

def crc32 (bytes : List UInt8) : UInt32 :=
  (bytes.foldl crcByte (0xFFFFFFFF : UInt32)) ^^^ (0xFFFFFFFF : UInt32)

def littleEndian (count value : Nat) : List UInt8 :=
  match count with
  | 0 => []
  | count + 1 => UInt8.ofNat value :: littleEndian count (value / 256)

def numberOf : List UInt8 → Nat
  | [] => 0
  | b :: rest => b.toNat + 256 * numberOf rest

def header : List UInt8 := [0x1F, 0x8B, 8, 0, 0, 0, 0, 0, 0, 255]

def trailer (bytes : List UInt8) : List UInt8 :=
  littleEndian 4 (crc32 bytes).toNat ++ littleEndian 4 (bytes.length % UInt32.size)

def takeExactly (count : Nat) (bytes : List UInt8) : Option (List UInt8 × List UInt8) :=
  if bytes.length < count then none else some (bytes.take count, bytes.drop count)

/-- The longest name or comment in a header. -/
def textLimit : Nat := 65535

/-- Drops a text that ends with a zero byte. -/
def dropText (bytes : List UInt8) : Option (List UInt8) :=
  match bytes.dropWhile (· ≠ 0) with
  | [] => none
  | _ :: rest =>
      if bytes.length ≤ rest.length + 1 + textLimit then some rest else none

def flag (flags : UInt8) (bit : Nat) : Bool := flags.toNat / Nat.pow 2 bit % 2 == 1

/-- What comes after the header. Extra fields, name and comment are passed over; a checksum
of the header is checked. -/
def afterHeader (bytes : List UInt8) : Option (List UInt8) :=
  match bytes with
  | 0x1F :: 0x8B :: 8 :: flags :: _ :: _ :: _ :: _ :: _ :: _ :: rest => do
      if 32 ≤ flags.toNat then none
      let rest ←
        if flag flags 2 then do
          let (size, rest) ← takeExactly 2 rest
          let (_, rest) ← takeExactly (numberOf size) rest
          some rest
        else some rest
      let rest ← if flag flags 3 then dropText rest else some rest
      let rest ← if flag flags 4 then dropText rest else some rest
      if flag flags 1 then do
        let (given, after) ← takeExactly 2 rest
        let whole := bytes.take (bytes.length - rest.length)
        if numberOf given = (crc32 whole).toNat % 65536 then some after else none
      else some rest
  | _ => none

/-- The bytes of the first member. What comes after it does not count. -/
def gunzip (bytes : List UInt8) : Option (List UInt8) := do
  let body ← afterHeader bytes
  let (content, rest) ← inflate body
  let (found, _) ← takeExactly 8 rest
  if found = trailer content then some content else none

/-- The word of a byte in the fixed code. -/
def literalWord (n : Nat) : List Bool := if n < 144 then word 8 (48 + n) else word 9 (256 + n)

/-- The word for the end of a block in the fixed code. -/
def endWord : List Bool := word 7 0

/-- Fills the last byte up. -/
def filled (bits : List Bool) : List Bool :=
  bits ++ List.replicate ((8 - bits.length % 8) % 8) false

/-- A deflate stream of one block in the fixed code that repeats nothing. -/
def deflate (bytes : List UInt8) : List UInt8 :=
  bytesOf (filled (bitsOfNat 1 1 ++ (bitsOfNat 2 1 ++
    (bytes.flatMap (fun b => literalWord b.toNat) ++ endWord))))

def gzip (bytes : List UInt8) : List UInt8 := header ++ deflate bytes ++ trailer bytes

/-- A way to write gzip streams to memory. How it cuts a text into blocks and codes is its own
affair, but it does not fail, and what it wrote can be read back. -/
structure Compressor where
  pack : List UInt8 → Except String (List UInt8)
  readsBack : ∀ bytes, ∃ packed, pack bytes = .ok packed ∧ gunzip packed = some bytes

end BatchedGateway.Archive
