/- The deflate format: a stream of bits, the lowest of each byte first, in blocks that are stored,
or compressed with fixed or own prefix codes. -/

namespace BatchedGateway.Archive

def bitsOfNat : (count value : Nat) → List Bool
  | 0, _ => []
  | count + 1, value => (value % 2 == 1) :: bitsOfNat count (value / 2)

def bitsOf (bytes : List UInt8) : List Bool := bytes.flatMap fun b => bitsOfNat 8 b.toNat

/-- A number of `count` bits, the lowest first, and what is left. -/
def takeNumber : (count : Nat) → List Bool → Option (Nat × List Bool)
  | 0, bits => some (0, bits)
  | _ + 1, [] => none
  | count + 1, b :: rest => do
      let (n, rest) ← takeNumber count rest
      some (2 * n + b.toNat, rest)

/-- Bytes to the end of the stream; fewer than eight bits at the end are dropped. -/
def bytesOf : List Bool → List UInt8
  | a :: b :: c :: d :: e :: f :: g :: h :: rest =>
      UInt8.ofNat (a.toNat + 2 * (b.toNat + 2 * (c.toNat + 2 * (d.toNat + 2 * (e.toNat +
        2 * (f.toNat + 2 * (g.toNat + 2 * h.toNat))))))) :: bytesOf rest
  | _ => []

/-- Drops the bits left of a byte that was begun. -/
def toByte (bits : List Bool) : List Bool := bits.drop (bits.length % 8)

inductive Tree
  | empty
  | leaf (symbol : Nat)
  | fork (zero one : Tree)
  deriving Repr

namespace Tree

def enter (symbol : Nat) : List Bool → Tree → Tree
  | [], _ => leaf symbol
  | false :: word, fork zero one => fork (enter symbol word zero) one
  | true :: word, fork zero one => fork zero (enter symbol word one)
  | false :: word, _ => fork (enter symbol word empty) empty
  | true :: word, _ => fork empty (enter symbol word empty)

/-- The symbol whose word comes next. -/
def read : Tree → List Bool → Option (Nat × List Bool)
  | leaf symbol, bits => some (symbol, bits)
  | fork zero _, false :: rest => read zero rest
  | fork _ one, true :: rest => read one rest
  | _, _ => none

end Tree

def maxLength : Nat := 15

def countOf (lengths : List Nat) (n : Nat) : Nat := lengths.count n

/-- The first word of each length from `n` on, as a number. -/
def firstWords (lengths : List Nat) (code : Nat) (n : Nat) : (fuel : Nat) → List Nat
  | 0 => []
  | fuel + 1 => code :: firstWords lengths ((code + countOf lengths n) * 2) (n + 1) fuel

/-- The highest bit first. -/
def word (length value : Nat) : List Bool :=
  (List.range length).map fun i => value / Nat.pow 2 (length - 1 - i) % 2 == 1

/-- Words of one length are given in the order of the symbols. -/
def enterAll (tree : Tree) (next : List Nat) (symbol : Nat) : List Nat → Tree
  | [] => tree
  | 0 :: rest => enterAll tree next (symbol + 1) rest
  | n :: rest =>
      let value := next.getD (n - 1) 0
      enterAll (tree.enter symbol (word n value)) (next.set (n - 1) (value + 1)) (symbol + 1) rest

/-- How much of the space of words the code takes, in words of the greatest length. -/
def spaceTaken : (lengths : List Nat) → Nat
  | [] => 0
  | n :: rest => (if n = 0 then 0 else Nat.pow 2 (maxLength - n)) + spaceTaken rest

/-- A code of more than one word has to take the whole space of words. -/
def treeOf (lengths : List Nat) : Option Tree :=
  if 1 < lengths.length - countOf lengths 0 ∧ spaceTaken lengths ≠ Nat.pow 2 maxLength then none
  else some (enterAll .empty (firstWords lengths 0 1 maxLength) 0 lengths)

/-- Base and number of extra bits of the length codes from 257 on. -/
def lengthCodes : List (Nat × Nat) := [
  (3, 0), (4, 0), (5, 0), (6, 0), (7, 0), (8, 0), (9, 0), (10, 0), (11, 1), (13, 1), (15, 1),
  (17, 1), (19, 2), (23, 2), (27, 2), (31, 2), (35, 3), (43, 3), (51, 3), (59, 3), (67, 4),
  (83, 4), (99, 4), (115, 4), (131, 5), (163, 5), (195, 5), (227, 5), (258, 0)]

def distanceCodes : List (Nat × Nat) := [
  (1, 0), (2, 0), (3, 0), (4, 0), (5, 1), (7, 1), (9, 2), (13, 2), (17, 3), (25, 3), (33, 4),
  (49, 4), (65, 5), (97, 5), (129, 6), (193, 6), (257, 7), (385, 7), (513, 8), (769, 8),
  (1025, 9), (1537, 9), (2049, 10), (3073, 10), (4097, 11), (6145, 11), (8193, 12), (12289, 12),
  (16385, 13), (24577, 13)]

def takeCoded (codes : List (Nat × Nat)) (n : Nat) (bits : List Bool) :
    Option (Nat × List Bool) := do
  let (base, extra) ← codes[n]?
  let (more, rest) ← takeNumber extra bits
  some (base + more, rest)

/-- Repeats what was written `distance` bytes before, which may reach into the copy itself. -/
def copyBack (distance : Nat) : (count : Nat) → Array UInt8 → Array UInt8
  | 0, out => out
  | count + 1, out =>
      copyBack distance count (out.push (out.getD (out.size - distance) 0))

/-- The symbols of a compressed block up to its end. -/
def readSymbols (literals distances : Tree) :
    (fuel : Nat) → List Bool → Array UInt8 → Option (List Bool × Array UInt8)
  | 0, _, _ => none
  | fuel + 1, bits, out => do
      let (symbol, rest) ← literals.read bits
      if symbol < 256 then readSymbols literals distances fuel rest (out.push (UInt8.ofNat symbol))
      else if symbol = 256 then some (rest, out)
      else
        let (count, rest) ← takeCoded lengthCodes (symbol - 257) rest
        let (code, rest) ← distances.read rest
        let (distance, rest) ← takeCoded distanceCodes code rest
        if out.size < distance then none
        else readSymbols literals distances fuel rest (copyBack distance count out)

def fixedLiterals : List Nat :=
  List.replicate 144 8 ++ List.replicate 112 9 ++ List.replicate 24 7 ++ List.replicate 8 8

def fixedDistances : List Nat := List.replicate 32 5

/-- The order in which the lengths of the code for lengths are written. -/
def lengthOrder : List Nat := [16, 17, 18, 0, 8, 7, 9, 6, 10, 5, 11, 4, 12, 3, 13, 2, 14, 1, 15]

def takeNumbers (size : Nat) : (count : Nat) → List Bool → Option (List Nat × List Bool)
  | 0, bits => some ([], bits)
  | count + 1, bits => do
      let (n, rest) ← takeNumber size bits
      let (ns, rest) ← takeNumbers size count rest
      some (n :: ns, rest)

/-- Lengths with their repetitions, the latest first; exactly `total` of them. -/
def readLengths (code : Tree) (total : Nat) :
    (fuel : Nat) → List Bool → List Nat → Option (List Nat × List Bool)
  | 0, _, _ => none
  | fuel + 1, bits, done =>
      if done.length = total then some (done.reverse, bits)
      else if total < done.length then none
      else do
        let (symbol, rest) ← code.read bits
        if symbol < 16 then readLengths code total fuel rest (symbol :: done)
        else if symbol = 16 then
          let last ← done.head?
          let (n, rest) ← takeNumber 2 rest
          readLengths code total fuel rest (List.replicate (n + 3) last ++ done)
        else if symbol = 17 then
          let (n, rest) ← takeNumber 3 rest
          readLengths code total fuel rest (List.replicate (n + 3) 0 ++ done)
        else
          let (n, rest) ← takeNumber 7 rest
          readLengths code total fuel rest (List.replicate (n + 11) 0 ++ done)

/-- The two codes in front of a block that has its own. -/
def readCodes (bits : List Bool) : Option (Tree × Tree × List Bool) := do
  let (literalCount, rest) ← takeNumber 5 bits
  let (distanceCount, rest) ← takeNumber 5 rest
  let (lengthCount, rest) ← takeNumber 4 rest
  let (given, rest) ← takeNumbers 3 (lengthCount + 4) rest
  let named := lengthOrder.zip given
  let code ← treeOf ((List.range 19).map fun i => (named.lookup i).getD 0)
  let total := literalCount + 257 + distanceCount + 1
  let (lengths, rest) ← readLengths code total (total + 1) rest []
  let literals ← treeOf (lengths.take (literalCount + 257))
  let distances ← treeOf (lengths.drop (literalCount + 257))
  some (literals, distances, rest)

def takeBytes : (count : Nat) → List Bool → Array UInt8 → Option (List Bool × Array UInt8)
  | 0, bits, out => some (bits, out)
  | count + 1, bits, out => do
      let (n, rest) ← takeNumber 8 bits
      takeBytes count rest (out.push (UInt8.ofNat n))

/-- A stored block: its length, the complement of it, and the bytes. -/
def readStored (bits : List Bool) (out : Array UInt8) : Option (List Bool × Array UInt8) := do
  let (size, rest) ← takeNumber 16 (toByte bits)
  let (complement, rest) ← takeNumber 16 rest
  if size + complement = 65535 then takeBytes size rest out else none

def readBlock (kind : Nat) (bits : List Bool) (out : Array UInt8) :
    Option (List Bool × Array UInt8) :=
  match kind with
  | 0 => readStored bits out
  | 1 => do
      let literals ← treeOf fixedLiterals
      let distances ← treeOf fixedDistances
      readSymbols literals distances (bits.length + 1) bits out
  | 2 => do
      let (literals, distances, rest) ← readCodes bits
      readSymbols literals distances (rest.length + 1) rest out
  | _ => none

/-- Blocks up to the one that is marked as the last. -/
def readBlocks : (fuel : Nat) → List Bool → Array UInt8 → Option (List Bool × Array UInt8)
  | 0, _, _ => none
  | fuel + 1, bits, out => do
      let (last, rest) ← takeNumber 1 bits
      let (kind, rest) ← takeNumber 2 rest
      let (rest, out) ← readBlock kind rest out
      if last = 1 then some (rest, out) else readBlocks fuel rest out

/-- The bytes that a stream stands for, and the bytes after it. -/
def inflate (bytes : List UInt8) : Option (List UInt8 × List UInt8) := do
  let bits := bitsOf bytes
  let (rest, out) ← readBlocks bits.length bits #[]
  some (out.toList, bytesOf (toByte rest))

end BatchedGateway.Archive
