import PageScan.Decimal.Layout
import PageScan.Export.Color
import PageScan.Text.Hex

/-!
# Drawing on a page

Shapes in millimetres from the upper left corner of a page, and the operations that draw them.
Operations count in points from the lower left corner, in single precision, and every number is
written with the fewest digits that read back.

* `Shape` is what can be drawn, `Operation` one step of drawing.
* `Shape.operations` draws a shape.
* `Operation.text` is the written form of a step.
-/

namespace PageScan.Export

/-- The two faces of the type. -/
inductive Face
  | regular
  | bold
  deriving DecidableEq, Repr

/-- The name of a face among the resources of a page. -/
def Face.name : Face → String
  | .regular => "Helvetica"
  | .bold => "Helvetica-Bold"

/-- A line of text. -/
structure TextLine where
  face : Face
  /-- The size in points. -/
  size : Float32
  left : Float32
  baseline : Float32
  color : Color
  text : String

/-- Something that can be drawn, in millimetres from the upper left corner. -/
inductive Shape
  /-- A filled rectangle. -/
  | rectangle (left top width height : Float32) (color : Color)
  /-- A filled disc around a centre. -/
  | disc (x y radius : Float32) (color : Color)
  /-- A thin level line. -/
  | rule (left right top : Float32) (color : Color)
  | line (line : TextLine)
  /-- An image of so many pixels, scaled, with its lower left corner at a place. -/
  | image (width height : Nat) (left bottom scale : Float32)

/-- A point of a page, in points from the lower left corner. -/
structure PagePoint where
  x : Float32
  y : Float32

/-- One step of drawing. -/
inductive Operation
  /-- Marked content begins. -/
  | beginMarked
  | endMarked
  | save
  | restore
  | fillColor (c : Color)
  | lineColor (c : Color)
  | lineWidth (w : Float32)
  | moveTo (p : PagePoint)
  | lineTo (p : PagePoint)
  | curveTo (p q r : PagePoint)
  | fill
  | stroke
  | endPath
  | beginText
  | setFace (face : Face) (size : Float32)
  | moveText (p : PagePoint)
  | showText (codes : List UInt8)
  | endText
  /-- The unit square is mapped to a box. -/
  | transform (width height left bottom : Float32)
  | drawImage

/-! ## Encoding of text -/

/-- The characters outside ASCII with codes of their own, from the code 127 on. Where a code
stands for the bullet a second time, none is given. -/
def specialCodes : List (Char × UInt8) :=
  [('•', 0x7f), ('€', 0x80), ('‚', 0x82), ('ƒ', 0x83), ('„', 0x84), ('…', 0x85), ('†', 0x86),
    ('‡', 0x87), ('ˆ', 0x88), ('‰', 0x89), ('Š', 0x8a), ('‹', 0x8b), ('Œ', 0x8c), ('Ž', 0x8e),
    ('‘', 0x91), ('’', 0x92), ('“', 0x93), ('”', 0x94), ('–', 0x96), ('—', 0x97), ('˜', 0x98),
    ('™', 0x99), ('š', 0x9a), ('›', 0x9b), ('œ', 0x9c), ('ž', 0x9e), ('Ÿ', 0x9f)]

/-- The code of a character in the encoding of the type, if it has one. The space that does not
break and the hyphen that is not shown have none. -/
def code? (c : Char) : Option UInt8 :=
  let n := c.toNat
  if 0x20 ≤ n ∧ n ≤ 0x7e then some n.toUInt8
  else if 0xa1 ≤ n ∧ n ≤ 0xff ∧ n ≠ 0xad then some n.toUInt8
  else specialCodes.lookup c

/-- The codes of a text. Characters without a code are left out. -/
def encodeText (s : String) : List UInt8 :=
  s.toList.filterMap code?

/-! ## From millimetres to points -/

/-- How many points a millimetre has. -/
def pointsPerMm : Float32 := 2.834646

/-- Millimetres in points. -/
def points (mm : Float32) : Float32 :=
  mm * pointsPerMm

/-- The height of a page. -/
def pageHeightMm : Float32 := 297

/-- The width of a page. -/
def pageWidthMm : Float32 := 210

/-- The place at a distance from the left and from the top. -/
def pagePoint (left top : Float32) : PagePoint :=
  ⟨points left, points (pageHeightMm - top)⟩

/-! ## Drawing -/

/-- How far the handles of a quarter of a circle reach, for the radius 1. -/
def handle : Float32 := 0.551915024494

/-- The four quarters of a circle, each as its first point, its handles and its last point. -/
def quarters (centre : PagePoint) (r : Float32) :
    List (PagePoint × PagePoint × PagePoint × PagePoint) :=
  let h := handle * r
  let p (x y : Float32) : PagePoint := ⟨x + centre.x, y + centre.y⟩
  [(p 0 r, p h r, p r h, p r 0), (p r 0, p r (-h), p h (-r), p 0 (-r)),
    (p 0 (-r), p (-h) (-r), p (-r) (-h), p (-r) 0), (p (-r) 0, p (-r) h, p (-h) r, p 0 r)]

/-- The path around a circle. Each quarter is led to by a straight line of no length. -/
def circlePath (centre : PagePoint) (r : Float32) : List Operation :=
  match quarters centre r with
  | [] => []
  | (start, h₁, h₂, stop) :: rest =>
    .moveTo start :: .curveTo h₁ h₂ stop ::
      rest.flatMap fun (start, h₁, h₂, stop) => [.lineTo start, .curveTo h₁ h₂ stop]

/-- How wide a pixel is drawn without scaling, in millimetres. -/
def mmPerPixel : Float32 := 25.4 / 300

/-- The steps that draw a shape. -/
def Shape.operations : Shape → List Operation
  | .rectangle left top width height color =>
    [.fillColor color, .moveTo (pagePoint left top), .lineTo (pagePoint (left + width) top),
      .lineTo (pagePoint (left + width) (top + height)), .lineTo (pagePoint left (top + height)),
      .fill, .endPath]
  | .disc x y radius color =>
    .fillColor color :: circlePath (pagePoint x y) (points radius) ++ [.fill, .endPath]
  | .rule left right top color =>
    [.lineColor color, .lineWidth 0.5, .moveTo (pagePoint left top), .lineTo (pagePoint right top),
      .stroke]
  | .line l =>
    [.fillColor l.color, .beginText, .setFace l.face l.size,
      .moveText (pagePoint l.left l.baseline), .showText (encodeText l.text), .endText]
  | .image width height left bottom scale =>
    let corner := pagePoint left bottom
    [.save,
      .transform (points (width.toFloat32 * mmPerPixel) * scale)
        (points (height.toFloat32 * mmPerPixel) * scale) corner.x corner.y,
      .drawImage, .restore]

/-- The steps that draw a page. -/
def pageOperations (shapes : List Shape) : List Operation :=
  [.beginMarked, .save] ++ shapes.flatMap Shape.operations ++ [.restore, .endMarked]

/-! ## The written form -/

/-- Numbers are written in full, with the fewest digits that read back. -/
def numberLayout : Decimal.Layout :=
  ⟨fun _ => true, false, false, .up, "NaN", "inf"⟩

/-- The text of a number. -/
def number (x : Float32) : String :=
  numberLayout.float32 x

/-- The text of a colour: its parts between 0 and 1. -/
def Color.text (c : Color) : String :=
  let part (x : UInt8) : String := number (x.toFloat32 / 255)
  part c.red ++ " " ++ part c.green ++ " " ++ part c.blue

/-- The text of a point. -/
def PagePoint.text (p : PagePoint) : String :=
  number p.x ++ " " ++ number p.y

/-- The text of a step: its operands, and its name behind them. -/
def Operation.text : Operation → String
  | .beginMarked => "/OC /MC0 BDC"
  | .endMarked => "EMC"
  | .save => "q"
  | .restore => "Q"
  | .fillColor c => Color.text c ++ " rg"
  | .lineColor c => Color.text c ++ " RG"
  | .lineWidth w => number w ++ " w"
  | .moveTo p => p.text ++ " m"
  | .lineTo p => p.text ++ " l"
  | .curveTo p q r => p.text ++ " " ++ q.text ++ " " ++ r.text ++ " c"
  | .fill => "f"
  | .stroke => "S"
  | .endPath => "n"
  | .beginText => "BT"
  | .setFace face size => "/" ++ face.name ++ " " ++ number size ++ " Tf"
  | .moveText p => p.text ++ " Td"
  | .showText codes => "<" ++ Text.hexBytes codes ++ "> Tj"
  | .endText => "ET"
  | .transform width height left bottom =>
    number width ++ " 0 0 " ++ number height ++ " " ++ number left ++ " " ++ number bottom ++ " cm"
  | .drawImage => "/X0 Do"

end PageScan.Export
