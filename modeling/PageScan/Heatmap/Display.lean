import PageScan.Heatmap.Point

/-!
# Displaying a heatmap

The boxes of a heatmap are drawn over a screenshot that is shown at some size and zoom. Boxes are
scaled and rounded to whole pixels, and smaller elements lie above larger ones.
-/

namespace PageScan

/-- A zoom factor between 0.5 and 2, in tenths. -/
structure ZoomLevel where
  tenths : Nat
  deriving DecidableEq

namespace ZoomLevel

/-- The least zoom. -/
def least : Nat := 5

/-- The greatest zoom. -/
def greatest : Nat := 20

/-- The zoom at which nothing is scaled. -/
def natural : ZoomLevel := ⟨10⟩

/-- The zoom of so many tenths, if it is allowed. -/
def ofTenths (tenths : Nat) : Except String ZoomLevel :=
  if least ≤ tenths ∧ tenths ≤ greatest then .ok ⟨tenths⟩
  else .error ("zoom must be between " ++ toString least ++ " and " ++ toString greatest ++
    " tenths, got " ++ toString tenths)

/-- The factor of a zoom. -/
def factor (z : ZoomLevel) : Float :=
  z.tenths.toUInt64.toFloat / 10.0

/-- One step closer. -/
def zoomIn (z : ZoomLevel) : ZoomLevel :=
  ⟨min (z.tenths + 1) greatest⟩

/-- One step back. -/
def zoomOut (z : ZoomLevel) : ZoomLevel :=
  ⟨max (z.tenths - 1) least⟩

/-- Reads a zoom. -/
def decoder : Json.Decoder ZoomLevel :=
  .refine .u8 ofTenths

/-- The zoom as a document. -/
def toJson (z : ZoomLevel) : Json.Value :=
  .ofNat z.tenths

instance : Json.Document ZoomLevel := ⟨decoder, toJson⟩

end ZoomLevel

/-- A box to draw, in pixels of the display. -/
structure DisplayRect where
  left : Int
  top : Int
  width : Int
  height : Int
  /-- Boxes with a larger index lie above. -/
  zIndex : Int
  deriving DecidableEq

/-- The size of a screenshot, the size at which it is shown, and the zoom. -/
structure DisplayGeometry where
  naturalWidth : Float
  naturalHeight : Float
  renderedWidth : Float
  renderedHeight : Float
  zoom : ZoomLevel

namespace DisplayRect

/-- Reads a box. -/
def decoder : Json.Decoder DisplayRect :=
  .record "DisplayRect"
    (.cons (.required "left" .i64) <|
      .cons (.required "top" .i64) <|
      .cons (.required "width" .i64) <|
      .cons (.required "height" .i64) <|
      .cons (.required "zIndex" .i64) .nil)
    fun (left, top, width, height, zIndex, ()) => ⟨left, top, width, height, zIndex⟩

/-- The box as a document. -/
def toJson (r : DisplayRect) : Json.Value :=
  .object
    [("left", .ofInt r.left), ("top", .ofInt r.top), ("width", .ofInt r.width),
      ("height", .ofInt r.height), ("zIndex", .ofInt r.zIndex)]

instance : Json.Document DisplayRect := ⟨decoder, toJson⟩

end DisplayRect

namespace DisplayGeometry

/-- Reads a geometry. -/
def decoder : Json.Decoder DisplayGeometry :=
  .record "DisplayGeometry"
    (.cons (.required "naturalWidth" .float) <|
      .cons (.required "naturalHeight" .float) <|
      .cons (.required "renderedWidth" .float) <|
      .cons (.required "renderedHeight" .float) <|
      .cons (.required "zoom" ZoomLevel.decoder) .nil)
    fun (nw, nh, rw, rh, zoom, ()) => ⟨nw, nh, rw, rh, zoom⟩

/-- The geometry as a document. -/
def toJson (g : DisplayGeometry) : Json.Value :=
  .object
    [("naturalWidth", .ofFloat g.naturalWidth), ("naturalHeight", .ofFloat g.naturalHeight),
      ("renderedWidth", .ofFloat g.renderedWidth), ("renderedHeight", .ofFloat g.renderedHeight),
      ("zoom", g.zoom.toJson)]

/-- How much a length grows. A screenshot or display without extent shows nothing. -/
def ratio (rendered natural zoom : Float) : Float :=
  if natural ≤ 0.0 || rendered ≤ 0.0 then 0.0 else rendered * zoom / natural

/-- The horizontal scale. -/
def scaleX (g : DisplayGeometry) : Float :=
  ratio g.renderedWidth g.naturalWidth g.zoom.factor

/-- The vertical scale. -/
def scaleY (g : DisplayGeometry) : Float :=
  ratio g.renderedHeight g.naturalHeight g.zoom.factor

/-- Nothing can be seen. -/
def isDegenerate (g : DisplayGeometry) : Bool :=
  g.scaleX == 0.0 || g.scaleY == 0.0

/-- The nearest whole number, halves going away from zero; the nearest that fits in 64 bits, and
zero for what is no number. -/
def wholePixels (x : Float) : Int :=
  if x.isNaN then 0 else x.round.toInt64.toInt

/-- How far up an element of a given area lies: a thousand for no area, one less for each whole
hundred of square pixels, and at least one. -/
def stackingOrder (area : Float) : Int :=
  let area := if area > 0.0 then area else 0.0
  max (1000 - (area / 100.0).toUInt64.toNat) 1

/-- The box to draw for a point. -/
def rescale (g : DisplayGeometry) (p : HeatmapPoint) : DisplayRect where
  left := wholePixels (p.left * g.scaleX)
  top := wholePixels (p.top * g.scaleY)
  width := max (wholePixels (p.width * g.scaleX)) 1
  height := max (wholePixels (p.height * g.scaleY)) 1
  zIndex := stackingOrder (p.width * p.height)

instance : Json.Document DisplayGeometry := ⟨decoder, toJson⟩

end DisplayGeometry

end PageScan
