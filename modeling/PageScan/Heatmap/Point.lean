import PageScan.Audit.Impact

/-!
# Heatmap points

Where on the page an element of a violation lies, and how grave the violation is.
-/

namespace PageScan

/-- The box of an element in page pixels. -/
structure ElementGeometry where
  left : Float
  top : Float
  width : Float
  height : Float

/-- The box of an element that a violation concerns. -/
structure HeatmapPoint where
  /-- The position of the element among all elements of all violations. -/
  index : Nat
  left : Float
  top : Float
  width : Float
  height : Float
  impact : Impact
  description : String

namespace ElementGeometry

/-- Reads a box. -/
def decoder : Json.Decoder ElementGeometry :=
  .record "ElementGeometry"
    (.cons (.required "left" .float) <|
      .cons (.required "top" .float) <|
      .cons (.required "width" .float) <|
      .cons (.required "height" .float) .nil)
    fun (left, top, width, height, ()) => ⟨left, top, width, height⟩

/-- The box as a document. -/
def toJson (g : ElementGeometry) : Json.Value :=
  .object
    [("left", .ofFloat g.left), ("top", .ofFloat g.top), ("width", .ofFloat g.width),
      ("height", .ofFloat g.height)]

instance : Json.Document ElementGeometry := ⟨decoder, toJson⟩

end ElementGeometry

namespace HeatmapPoint

/-- Reads a point. -/
def decoder : Json.Decoder HeatmapPoint :=
  .record "HeatmapPoint"
    (.cons (.required "index" .count) <|
      .cons (.required "left" .float) <|
      .cons (.required "top" .float) <|
      .cons (.required "width" .float) <|
      .cons (.required "height" .float) <|
      .cons (.required "impact" Impact.decoder) <|
      .cons (.required "description" .string) .nil)
    fun (index, left, top, width, height, impact, description, ()) =>
      ⟨index, left, top, width, height, impact, description⟩

/-- The point as a document. -/
def toJson (p : HeatmapPoint) : Json.Value :=
  .object
    [("index", .ofNat p.index), ("left", .ofFloat p.left), ("top", .ofFloat p.top),
      ("width", .ofFloat p.width), ("height", .ofFloat p.height), ("impact", p.impact.toJson),
      ("description", .string p.description)]

instance : Json.Document HeatmapPoint := ⟨decoder, toJson⟩

end HeatmapPoint

end PageScan
