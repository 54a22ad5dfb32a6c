import PageScan.Audit.Impact
import PageScan.Secondary.Result

/-!
# Colours

The colours of the exported document, in eight bits for each of red, green and blue.
-/

namespace PageScan

/-- A colour. -/
structure Color where
  red : UInt8
  green : UInt8
  blue : UInt8
  deriving DecidableEq

namespace Color

/-- The colour whose parts are the low three bytes of a number. -/
def ofHex (value : Nat) : Color :=
  ⟨(value / 65536).toUInt8, (value / 256).toUInt8, value.toUInt8⟩

/-- An amount held between nothing and all. What is no number stays none. -/
def clamped (amount : Float32) : Float32 :=
  if amount < 0 then 0 else if amount > 1 then 1 else amount

/-- A part moved towards full brightness. -/
def tintPart (amount : Float32) (part : UInt8) : UInt8 :=
  (part.toFloat32 + (255 - part.toFloat32) * clamped amount).round.toUInt8

/-- The colour blended with white: an amount of 0 keeps it, and 1 is white. -/
def tint (c : Color) (amount : Float32) : Color :=
  ⟨tintPart amount c.red, tintPart amount c.green, tintPart amount c.blue⟩

/-- The colour of the title. -/
def brand : Color := .ofHex 0x2563eb

/-- The colour of text. -/
def ink : Color := .ofHex 0x1f2937

/-- The colour of what stands back. -/
def muted : Color := .ofHex 0x6b7280

/-- The colour of good news. -/
def success : Color := .ofHex 0x10b981

end Color

/-- The colour of a tier. -/
def Impact.color : Impact → Color
  | .critical => .ofHex 0xdc2626
  | .serious => .ofHex 0xf59e0b
  | .moderate => .ofHex 0x3498db
  | .minor => .ofHex 0x64748b

/-- The colour of a category. -/
def AuditCategory.color : AuditCategory → Color
  | .performance => .ofHex 0x2563eb
  | .accessibility => .ofHex 0x10b981
  | .bestPractices => .ofHex 0xf59e0b
  | .seo => .ofHex 0x6366f1

end PageScan
