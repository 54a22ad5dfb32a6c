/-!
# Unpacking compressed data

The compressed form of image data: blocks that are stored as they are, or written in two prefix
codes, one for bytes and lengths and one for distances. `inflate?` unpacks a whole stream.

* `Bits` reads a stream bit by bit, the lowest bit of a byte first.
* `Code` is a prefix code given by the lengths of its words.
* `unpackSymbols`, `unpackBlocks` run the stream; each step reads at least one bit, so the number
  of bits bounds their steps.
-/

namespace PageScan.Image

/-- A place in a stream of bits. -/
structure Bits where
  data : ByteArray
  /-- How many bits have been read. -/
  position : Nat

namespace Bits

/-- The next bit. -/
def bit? (b : Bits) : Option (Nat × Bits) :=
  (b.data[b.position / 8]?).map fun byte =>
    (byte.toNat / Nat.pow 2 (b.position % 8) % 2, ⟨b.data, b.position + 1⟩)

/-- The next `n` bits as a number, lowest bit first. -/
def number? (b : Bits) : Nat → Option (Nat × Bits)
  | 0 => some (0, b)
  | n + 1 => do
    let (low, b) ← b.bit?
    let (high, b) ← b.number? n
    return (low + 2 * high, b)

/-- The place at the beginning of the next whole byte. -/
def aligned (b : Bits) : Bits :=
  ⟨b.data, (b.position + 7) / 8 * 8⟩

end Bits

/-- A prefix code whose words are ordered by length, and by symbol within a length. -/
structure Code where
  /-- How many words there are of each length from 1 to 15. -/
  counts : List Nat
  /-- The symbols in the order of their words. -/
  symbols : Array Nat

namespace Code

/-- The words left over after giving out `counts`, shortest first, or nothing if there are too
few. -/
def spare? (left : Nat) : List Nat → Option Nat
  | [] => some left
  | n :: counts => if n ≤ 2 * left then spare? (2 * left - n) counts else none

/-- The code with the given word length for each symbol; zero stands for a symbol without a
word. -/
def ofLengths? (lengths : List Nat) : Option Code :=
  let numbered := lengths.zipIdx
  let counts := (List.range 15).map fun k => lengths.countP (· == k + 1)
  let symbols := (List.range 15).flatMap fun k =>
    (numbered.filter fun p => p.1 == k + 1).map (·.2)
  (spare? 1 counts).map fun _ => ⟨counts, symbols.toArray⟩

/-- Reads a word bit by bit. `word` is what has been read, `first` the first word of the current
length, and `index` the place of its symbol. -/
def readFrom (symbols : Array Nat) (b : Bits) (word first index : Nat) :
    List Nat → Option (Nat × Bits)
  | [] => none
  | count :: counts => do
    let (bit, b) ← b.bit?
    let word := 2 * word + bit
    let first := 2 * first
    if word < first + count then
      let symbol ← symbols[index + (word - first)]?
      return (symbol, b)
    else readFrom symbols b word (first + count) (index + count) counts

/-- The next symbol. -/
def read? (c : Code) (b : Bits) : Option (Nat × Bits) :=
  readFrom c.symbols b 0 0 0 c.counts

/-- The fixed code for bytes and lengths. -/
def fixedLiterals? : Option Code :=
  ofLengths? (List.replicate 144 8 ++ List.replicate 112 9 ++ List.replicate 24 7 ++
    List.replicate 8 8)

/-- The fixed code for distances. -/
def fixedDistances? : Option Code :=
  ofLengths? (List.replicate 30 5)

end Code

/-- The least length of each length symbol, and how many bits are added to it. -/
def lengthTable : Array (Nat × Nat) :=
  #[(3, 0), (4, 0), (5, 0), (6, 0), (7, 0), (8, 0), (9, 0), (10, 0), (11, 1), (13, 1), (15, 1),
    (17, 1), (19, 2), (23, 2), (27, 2), (31, 2), (35, 3), (43, 3), (51, 3), (59, 3), (67, 4),
    (83, 4), (99, 4), (115, 4), (131, 5), (163, 5), (195, 5), (227, 5), (258, 0)]

/-- The least distance of each distance symbol, and how many bits are added to it. -/
def distanceTable : Array (Nat × Nat) :=
  #[(1, 0), (2, 0), (3, 0), (4, 0), (5, 1), (7, 1), (9, 2), (13, 2), (17, 3), (25, 3), (33, 4),
    (49, 4), (65, 5), (97, 5), (129, 6), (193, 6), (257, 7), (385, 7), (513, 8), (769, 8),
    (1025, 9), (1537, 9), (2049, 10), (3073, 10), (4097, 11), (6145, 11), (8193, 12),
    (12289, 12), (16385, 13), (24577, 13)]

/-- Repeats `count` bytes that begin `distance` bytes before the end. -/
def repeatBytes (distance : Nat) (out : ByteArray) : Nat → ByteArray
  | 0 => out
  | count + 1 => repeatBytes distance (out.push (out[out.size - distance]?.getD 0)) count

/-- Reads a value from a table of ranges. -/
def ranged? (table : Array (Nat × Nat)) (symbol : Nat) (b : Bits) : Option (Nat × Bits) := do
  let (least, extra) ← table[symbol]?
  let (more, b) ← b.number? extra
  return (least + more, b)

/-- Unpacks symbols up to the end of a block, at most `steps` of them. -/
def unpackSymbols (literals distances : Code) :
    (steps : Nat) → Bits → ByteArray → Option (Bits × ByteArray)
  | 0, _, _ => none
  | steps + 1, b, out => do
    let (symbol, b) ← literals.read? b
    if symbol < 256 then unpackSymbols literals distances steps b (out.push symbol.toUInt8)
    else if symbol = 256 then return (b, out)
    else
      let (count, b) ← ranged? lengthTable (symbol - 257) b
      let (symbol, b) ← distances.read? b
      let (distance, b) ← ranged? distanceTable symbol b
      if out.size < distance then none
      else unpackSymbols literals distances steps b (repeatBytes distance out count)

/-- Copies `count` stored bytes. -/
def copyStored (b : Bits) (out : ByteArray) : Nat → Option (Bits × ByteArray)
  | 0 => some (b, out)
  | count + 1 => do
    let (byte, b) ← b.number? 8
    copyStored b (out.push byte.toUInt8) count

/-- Unpacks a stored block: its size, the complement of that, and the bytes. -/
def unpackStored (b : Bits) (out : ByteArray) : Option (Bits × ByteArray) := do
  let (size, b) ← b.aligned.number? 16
  let (check, b) ← b.number? 16
  if size + check = 65535 then copyStored b out size else none

/-- The order in which the lengths of the words for lengths are written. -/
def lengthOrder : List Nat :=
  [16, 17, 18, 0, 8, 7, 9, 6, 10, 5, 11, 4, 12, 3, 13, 2, 14, 1, 15]

/-- Reads `n` numbers of three bits. -/
def threeBits? (b : Bits) : Nat → Option (List Nat × Bits)
  | 0 => some ([], b)
  | n + 1 => do
    let (x, b) ← b.number? 3
    let (xs, b) ← threeBits? b n
    return (x :: xs, b)

/-- Reads word lengths up to `want` of them; `done` holds them, last first. -/
def readLengths (code : Code) (want : Nat) :
    (steps : Nat) → Bits → (done : List Nat) → Option (List Nat × Bits)
  | 0, _, _ => none
  | steps + 1, b, done =>
    if want < done.length then none
    else if done.length = want then some (done.reverse, b)
    else do
      let (symbol, b) ← code.read? b
      if symbol < 16 then readLengths code want steps b (symbol :: done)
      else if symbol = 16 then
        let last ← done.head?
        let (more, b) ← b.number? 2
        readLengths code want steps b (List.replicate (3 + more) last ++ done)
      else if symbol = 17 then
        let (more, b) ← b.number? 3
        readLengths code want steps b (List.replicate (3 + more) 0 ++ done)
      else
        let (more, b) ← b.number? 7
        readLengths code want steps b (List.replicate (11 + more) 0 ++ done)

/-- Reads the two codes of a block that brings its own. -/
def readCodes (b : Bits) : Option (Code × Code × Bits) := do
  let (literals, b) ← b.number? 5
  let (distances, b) ← b.number? 5
  let (lengths, b) ← b.number? 4
  let (words, b) ← threeBits? b (lengths + 4)
  let given := lengthOrder.zip words
  let code ← Code.ofLengths? ((List.range 19).map fun s => (given.lookup s).getD 0)
  let want := literals + 257 + (distances + 1)
  let (all, b) ← readLengths code want (want + 1) b []
  return (← Code.ofLengths? (all.take (literals + 257)),
    ← Code.ofLengths? (all.drop (literals + 257)), b)

/-- Unpacks blocks up to the last, at most `steps` of them. -/
def unpackBlocks : (steps : Nat) → Bits → ByteArray → Option ByteArray
  | 0, _, _ => none
  | steps + 1, b, out => do
    let bits := 8 * b.data.size
    let (last, b) ← b.bit?
    let (kind, b) ← b.number? 2
    let (b, out) ← match kind with
      | 0 => unpackStored b out
      | 1 => do unpackSymbols (← Code.fixedLiterals?) (← Code.fixedDistances?) bits b out
      | 2 => do
        let (literals, distances, b) ← readCodes b
        unpackSymbols literals distances bits b out
      | _ => none
    if last = 1 then return out else unpackBlocks steps b out

/-- Unpacks a stream with its two leading bytes. The checksum at its end is not looked at. -/
def inflate? (data : ByteArray) : Option ByteArray := do
  let method ← data[0]?
  let flags ← data[1]?
  if method.toNat % 16 = 8 ∧ method.toNat / 16 ≤ 7 ∧
      (256 * method.toNat + flags.toNat) % 31 = 0 ∧ flags.toNat / 32 % 2 = 0 then
    unpackBlocks (8 * data.size) ⟨data, 16⟩ ByteArray.empty
  else none

end PageScan.Image
