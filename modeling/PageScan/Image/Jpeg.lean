/-!
# JPEG images

The size of a JPEG image, with the checks of its frame: segments of the announced length, one
sound frame header, quantisation tables, and a scan that runs to the end of the image.
-/

namespace PageScan.Image.Jpeg

/-- What has been seen of an image so far. -/
structure Seen where
  /-- The size in the frame header. -/
  frame : Option (Nat × Nat)
  /-- There is a table of quantisation. -/
  quantised : Bool
  /-- There is a scan. -/
  scanned : Bool

/-- A marker that opens a frame of a kind that is read: baseline, extended or progressive. -/
def isFrame (marker : UInt8) : Bool :=
  marker == 0xc0 || marker == 0xc1 || marker == 0xc2

/-- A marker that opens a frame of another kind. -/
def isForeignFrame (marker : UInt8) : Bool :=
  0xc3 ≤ marker && marker ≤ 0xcf && marker != 0xc4 && marker != 0xc8 && marker != 0xcc

/-- A marker that stands alone. -/
def standsAlone (marker : UInt8) : Bool :=
  marker == 0x01 || (0xd0 ≤ marker && marker ≤ 0xd7)

/-- The number that two bytes stand for. -/
def pair (high low : UInt8) : Nat :=
  256 * high.toNat + low.toNat

/-- The size in a frame header. -/
def frameSize? : List UInt8 → Option (Nat × Nat)
  | 8 :: h₁ :: h₀ :: w₁ :: w₀ :: count :: rest =>
    let width := pair w₁ w₀
    let height := pair h₁ h₀
    if 0 < width ∧ 0 < height ∧ (count = 1 ∨ count = 3 ∨ count = 4) ∧
        rest.length = 3 * count.toNat then
      some (width, height)
    else none
  | _ => none

/-- Takes a segment into account. -/
def Seen.add? (s : Seen) (marker : UInt8) (body : List UInt8) : Option Seen :=
  if isFrame marker then
    if s.frame.isSome then none
    else (frameSize? body).map fun size => { s with frame := some size }
  else if isForeignFrame marker then none
  else if marker = 0xdb then some { s with quantised := true }
  else if marker = 0xda then
    if s.frame.isSome && s.quantised then some { s with scanned := true } else none
  else some s

/-- What follows the coded data of a scan: the next marker that neither stands for a byte of the
data nor restarts it. -/
def skipScan : List UInt8 → List UInt8
  | 0xff :: marker :: rest =>
    if marker = 0 ∨ standsAlone marker then skipScan rest
    else if marker = 0xff then skipScan (marker :: rest)
    else 0xff :: marker :: rest
  | _ :: rest => skipScan rest
  | [] => []

theorem length_skipScan (bytes : List UInt8) : (skipScan bytes).length ≤ bytes.length := by
  fun_induction skipScan bytes <;> simp_all <;> omega

/-- Walks the segments up to the end of the image. -/
def walk (s : Seen) (bytes : List UInt8) : Option (Nat × Nat) :=
  match bytes with
  | 0xff :: marker :: rest =>
    if marker = 0xd9 then if s.scanned then s.frame else none
    else if marker = 0xff then walk s (marker :: rest)
    else if standsAlone marker then walk s rest
    else
      match rest with
      | high :: low :: body =>
        let size := pair high low - 2
        if pair high low < 2 ∨ body.length < size then none
        else
          match s.add? marker (body.take size) with
          | none => none
          | some s =>
            let next := body.drop size
            walk s (if marker = 0xda then skipScan next else next)
      | _ => none
  | _ => none
termination_by bytes.length
decreasing_by
  all_goals simp only [List.length_cons]
  all_goals try omega
  split
  · have := length_skipScan (body.drop (pair high low - 2))
    simp only [List.length_drop] at this
    omega
  · simp only [List.length_drop]
    omega

/-- The size of the image, if it can be read. -/
def size? (bytes : List UInt8) : Option (Nat × Nat) :=
  walk ⟨none, false, false⟩ (bytes.drop 2)

end PageScan.Image.Jpeg
