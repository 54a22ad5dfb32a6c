import PageScan.Image.Inflate

/-!
# PNG images

The size of a PNG image, with all the checks that reading its pixels makes: chunks with their
checksums, a sound header, and enough image data in rows that name a filter.
-/

namespace PageScan.Image.Png

/-- The number that four bytes stand for, highest byte first. -/
def word (bytes : List UInt8) : Nat :=
  bytes.foldl (fun n b => 256 * n + b.toNat) 0

/-- One bit of the checksum of a chunk. -/
def checksumBit (sum : UInt32) : UInt32 :=
  if sum &&& 1 = 1 then (sum >>> 1) ^^^ 0xedb88320 else sum >>> 1

/-- One byte of the checksum of a chunk. -/
def checksumByte (sum : UInt32) (b : UInt8) : UInt32 :=
  let s := sum ^^^ b.toUInt32
  checksumBit (checksumBit (checksumBit (checksumBit
    (checksumBit (checksumBit (checksumBit (checksumBit s)))))))

/-- The checksum of a chunk. -/
def checksum (bytes : List UInt8) : UInt32 :=
  (bytes.foldl checksumByte 0xffffffff) ^^^ 0xffffffff

/-- A chunk of an image file. -/
structure Chunk where
  name : List UInt8
  body : List UInt8
  /-- The checksum of the chunk is right. -/
  sound : Bool

/-- A chunk without which the image cannot be shown. -/
def Chunk.isCritical (c : Chunk) : Bool :=
  match c.name with
  | b :: _ => b.toNat / 32 % 2 == 0
  | [] => false

/-- The chunk has the given name. -/
def Chunk.isNamed (c : Chunk) (name : String) : Bool :=
  c.name == name.toUTF8.toList

/-- The whole chunks at the beginning of `bytes`, and whether the head of one more follows them. -/
def chunks (bytes : List UInt8) : List Chunk × Bool :=
  if bytes.length < 8 then ([], false)
  else
    let size := word (bytes.take 4)
    let rest := bytes.drop 8
    if rest.length < size + 4 then ([], true)
    else
      let name := (bytes.drop 4).take 4
      let body := rest.take size
      let sum := word ((rest.drop size).take 4)
      let (more, head) := chunks (rest.drop (size + 4))
      (⟨name, body, (checksum (name ++ body)).toNat == sum⟩ :: more, head)
termination_by bytes.length
decreasing_by
  simp only [List.length_drop]
  omega

/-- What the header of an image says. -/
structure Header where
  width : Nat
  height : Nat
  depth : Nat
  colorType : Nat
  interlaced : Bool

namespace Header

/-- The depths that a kind of pixel may have. -/
def depths : Nat → List Nat
  | 0 => [1, 2, 4, 8, 16]
  | 2 => [8, 16]
  | 3 => [1, 2, 4, 8]
  | 4 => [8, 16]
  | 6 => [8, 16]
  | _ => []

/-- How many samples make up a pixel. -/
def samples : Nat → Nat
  | 2 => 3
  | 4 => 2
  | 6 => 4
  | _ => 1

/-- Reads a header. -/
def ofBody? (body : List UInt8) : Option Header :=
  match body.drop 8 with
  | [depth, colorType, 0, 0, interlace] =>
    let width := word (body.take 4)
    let height := word ((body.drop 4).take 4)
    if 0 < width ∧ 0 < height ∧ depth.toNat ∈ depths colorType.toNat ∧ interlace ≤ 1 then
      some ⟨width, height, depth.toNat, colorType.toNat, interlace == 1⟩
    else none
  | _ => none

/-- How many bytes a row of pixels takes, without the byte that names its filter. -/
def rowBytes (h : Header) (pixels : Nat) : Nat :=
  (pixels * samples h.colorType * h.depth + 7) / 8

/-- A pass over the image: the first column and row, and the steps between them. -/
structure Pass where
  column : Nat
  row : Nat
  columnStep : Nat
  rowStep : Nat

/-- The passes of an interlaced image. -/
def interlacedPasses : List Pass :=
  [⟨0, 0, 8, 8⟩, ⟨4, 0, 8, 8⟩, ⟨0, 4, 4, 8⟩, ⟨2, 0, 4, 4⟩, ⟨0, 2, 2, 4⟩, ⟨1, 0, 2, 2⟩,
    ⟨0, 1, 1, 2⟩]

/-- How many of `total` places a pass visits. -/
def visited (total first step : Nat) : Nat :=
  (total - first + step - 1) / step

/-- For each pass, how many rows it has and how many bytes each of them takes. -/
def passes (h : Header) : List (Nat × Nat) :=
  if h.interlaced then
    (interlacedPasses.map fun p =>
      (visited h.height p.row p.rowStep, visited h.width p.column p.columnStep)).filterMap
      fun (rows, columns) =>
        if rows = 0 ∨ columns = 0 then none else some (rows, h.rowBytes columns)
  else [(h.height, h.rowBytes h.width)]

end Header

/-- `rows` rows of `size` bytes stand in the data from `start` on, each behind the number of a
filter. -/
def rowsFit (data : ByteArray) (start size rows : Nat) : Bool :=
  start + rows * (size + 1) ≤ data.size &&
    (List.range rows).all fun k => (data[start + k * (size + 1)]?).any (· ≤ 4)

/-- All passes stand in the data from `start` on. -/
def passesFit (data : ByteArray) (start : Nat) : List (Nat × Nat) → Bool
  | [] => true
  | (rows, size) :: rest =>
    rowsFit data start size rows && passesFit data (start + rows * (size + 1)) rest

/-- The size of the image, if its pixels can be read. -/
def size? (bytes : List UInt8) : Option (Nat × Nat) :=
  match chunks (bytes.drop 8) with
  | ([], _) => none
  | (first :: rest, head) => do
    let header ← if first.isNamed "IHDR" && first.sound then Header.ofBody? first.body else none
    let before := rest.takeWhile fun c => !c.isNamed "IDAT"
    let fromData := rest.dropWhile fun c => !c.isNamed "IDAT"
    let image := fromData.takeWhile fun c => c.isNamed "IDAT"
    let after := fromData.dropWhile fun c => c.isNamed "IDAT"
    let hasPalette := header.colorType ≠ 3 ∨ before.any fun c => c.isNamed "PLTE"
    let sound := before.all (fun c => c.sound || !c.isCritical) && image.all (·.sound)
    let ended := !after.isEmpty || head
    let data ← inflate? (image.flatMap (·.body)).toByteArray
    if hasPalette ∧ sound ∧ ended ∧ passesFit data 0 header.passes then
      some (header.width, header.height)
    else none

end PageScan.Image.Png
