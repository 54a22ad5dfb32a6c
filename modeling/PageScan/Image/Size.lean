import PageScan.Image.Format
import PageScan.Image.Jpeg
import PageScan.Image.Png

/-!
# Sizes of encoded images

The size in pixels of an image that can be read, and its size after it is made to fit a box.
-/

namespace PageScan.Image

/-- A size in pixels. -/
structure Size where
  width : Nat
  height : Nat
  deriving DecidableEq, Repr

/-- Why an image has no size. -/
inductive Fault
  | unknownFormat
  | unreadable
  deriving DecidableEq, Repr

/-- The wording of a fault. -/
def Fault.message : Fault → String
  | .unknownFormat => "The image format could not be determined"
  | .unreadable => "..."

/-- The width and height of an image of a known format, if it can be read. -/
def readSize? (bytes : List UInt8) : Announced → Option (Nat × Nat)
  | .png => Png.size? bytes
  | .jpeg => Jpeg.size? bytes
  | .other => none

/-- The size of an encoded image. -/
def sizeOf (bytes : List UInt8) : Except Fault Size :=
  match announced? bytes with
  | none => .error .unknownFormat
  | some format =>
    match readSize? bytes format with
    | some (width, height) => .ok ⟨width, height⟩
    | none => .error .unreadable

namespace Size

/-- A side scaled by a ratio, and at least one pixel long. -/
def scaled (ratio : Float) (side : Nat) : Nat :=
  max (side.toFloat * ratio).round.toUInt64.toNat 1

/-- The size shrunk to fit a box, with its proportions kept. A size that fits stays. -/
def within (s box : Size) : Size :=
  if s.width ≤ box.width ∧ s.height ≤ box.height then s
  else
    let across := box.width.toFloat / s.width.toFloat
    let down := box.height.toFloat / s.height.toFloat
    let ratio := if across < down then across else down
    ⟨scaled ratio s.width, scaled ratio s.height⟩

end Size

end PageScan.Image
