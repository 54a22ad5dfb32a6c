import PageScan.Report
import PageScan.Proofs.Audit.Documents
import PageScan.Proofs.Screenshot
import PageScan.Proofs.Secondary.Documents

/-!
# Reports are read back

A report is read back from its document field by field. What the second engine wrote is part of it,
two levels down, and is as deep as the engine liked; all else is shallow.

* `decoder_toJson`: the document is read as the report, unless what the engine wrote is too deep.
* `ofText_toJson`: the same of the text, in either form.
-/

namespace PageScan

open Json (depthLimit)
open Json.Decoder (readsBack_string readsBack_natural readsBack_float readsBack_parsed)
open Json.Fields (InOrder)
open Json.Value (legible_array legible_object legible_ofNat legible_ofFloat)

namespace HeatmapPoint

/-- The numbers of the box. -/
def coordinates (p : HeatmapPoint) : List Float :=
  [p.left, p.top, p.width, p.height]

theorem readsBack {p : HeatmapPoint} (hindex : p.index < Nat.pow 2 64)
    (hfinite : ∀ x ∈ p.coordinates, x.isFinite = true) : decoder.ReadsBack 1 p.toJson p := by
  have hbox {x : Float} (hx : x ∈ p.coordinates) :
      Json.Decoder.float.ReadsBack 0 (.ofFloat x) x := readsBack_float (hfinite x hx)
  have hleft := hbox (x := p.left) (by simp [coordinates])
  have htop := hbox (x := p.top) (by simp [coordinates])
  have hwidth := hbox (x := p.width) (by simp [coordinates])
  have hheight := hbox (x := p.height) (by simp [coordinates])
  rw [toJson, decoder]
  refine .record (p.index, p.left, p.top, p.width, p.height, p.impact, p.description, ()) rfl
    (fun src hsrc => ?_) (by decide)
  exact .field (readsBack_natural hindex src hsrc) <| .field (hleft src hsrc) <|
    .field (htop src hsrc) <| .field (hwidth src hsrc) <| .field (hheight src hsrc) <|
    .field (p.impact.readsBack src hsrc) <| .field (readsBack_string p.description src hsrc) .nil

theorem legible_toJson {p : HeatmapPoint} (hindex : p.index < Nat.pow 2 64)
    (hfloat : ∀ x ∈ p.coordinates, (Json.Number.float x).ReadsBack) : p.toJson.Legible := by
  have hbox {x : Float} (hx : x ∈ p.coordinates) : (Json.Value.ofFloat x).Legible :=
    legible_ofFloat (hfloat x hx)
  have hleft := hbox (x := p.left) (by simp [coordinates])
  have htop := hbox (x := p.top) (by simp [coordinates])
  have hwidth := hbox (x := p.width) (by simp [coordinates])
  have hheight := hbox (x := p.height) (by simp [coordinates])
  simp [toJson, legible_ofNat hindex, hleft, htop, hwidth, hheight]

end HeatmapPoint

namespace ScanReport

/-- What is in the report fits where it is written: numbers of pixels and positions are machine
words, and the second engine reported what engines report. -/
structure Sound (r : ScanReport) : Prop where
  pageWidth : r.pageWidth < Nat.pow 2 32
  pageHeight : r.pageHeight < Nat.pow 2 32
  index : ∀ p ∈ r.heatmap, p.index < Nat.pow 2 64
  secondaryAudit : r.secondaryAudit.Sound

/-- The floats in a report: where elements lie, and what the second engine measured. -/
def floats (r : ScanReport) : List Float :=
  r.heatmap.flatMap HeatmapPoint.coordinates ++ r.secondaryAudit.rawFloats

/-- The identifier, the time and each float in the report are read back as they were. -/
structure PartsReadBack (r : ScanReport) : Prop where
  scanId : ScanId.ofText r.scanId.text = .ok r.scanId
  timestamp : Timestamp.ofText r.timestamp.text = .ok r.timestamp
  floats : ∀ x ∈ r.floats, (Json.Number.float x).ReadsBack

variable {r : ScanReport}

theorem PartsReadBack.coordinate (h : r.PartsReadBack) {p : HeatmapPoint} (hp : p ∈ r.heatmap) :
    ∀ x ∈ p.coordinates, (Json.Number.float x).ReadsBack :=
  fun x hx => h.floats x (List.mem_append_left _ (List.mem_flatMap.2 ⟨p, hp, hx⟩))

theorem PartsReadBack.raw (h : r.PartsReadBack) :
    ∀ x ∈ r.secondaryAudit.rawFloats, (Json.Number.float x).ReadsBack :=
  fun x hx => h.floats x (List.mem_append_right _ hx)

/-- All fields but the last are read back, so that the last decides. -/
theorem decoder_toJson_of_last (h : r.Sound) (hparts : r.PartsReadBack)
    {src inner : Json.Source} (henter : src.enter = .ok inner) (hinner : inner.Admits 6)
    (last : Except Json.Error SecondaryResult)
    (hlast : InOrder inner (.cons (.required "secondaryAudit" SecondaryResult.decoder) .nil)
      [("secondaryAudit", r.secondaryAudit.toJson)] (last.map fun slice => (slice, ()))) :
    decoder src (.ofValue r.toJson) =
      last.map fun slice => { r with secondaryAudit := slice } := by
  have hscanId : ScanId.decoder.ReadsBack 6 r.scanId.toJson r.scanId :=
    readsBack_parsed (by rw [hparts.scanId]; rfl)
  have htimestamp : Timestamp.decoder.ReadsBack 6 r.timestamp.toJson r.timestamp :=
    readsBack_parsed (by rw [hparts.timestamp]; rfl)
  have hpoints : (Json.Decoder.list HeatmapPoint.decoder).ReadsBack 2
      (.array (r.heatmap.map HeatmapPoint.toJson)) r.heatmap :=
    .list fun p hp => HeatmapPoint.readsBack (h.index p hp)
      fun x hx => (hparts.coordinate hp x hx).isFinite
  have hwidth : Json.Decoder.u32.ReadsBack 6 (.ofNat r.pageWidth) r.pageWidth :=
    readsBack_natural h.pageWidth
  have hheight : Json.Decoder.u32.ReadsBack 6 (.ofNat r.pageHeight) r.pageHeight :=
    readsBack_natural h.pageHeight
  rw [toJson, decoder]
  refine (Json.Decoder.record_of_inOrder (r := ?row) henter ?_ (by decide)).trans ?_
  rotate_left
  · exact .required (hscanId inner hinner) <| .required (readsBack_string r.url inner hinner) <|
      .required (htimestamp inner hinner) <| .required (hwidth inner hinner) <|
      .required (hheight inner hinner) <|
      .required (r.screenshot.readsBack inner (hinner.mono (by decide))) <|
      .required (r.audit.readsBack inner hinner) <|
      .required (hpoints inner (hinner.mono (by decide))) hlast
  · cases last with
    | error e => rfl
    | ok slice => rfl

/-- The document of a report is read as the report, unless what the engine wrote nests so deep that
two levels more are too deep. -/
theorem decoder_toJson (h : r.Sound) (hparts : r.PartsReadBack) :
    decoder (.text depthLimit) (.ofValue r.toJson) =
      if r.secondaryAudit.rawDepth + 2 < depthLimit then .ok r else .error (.fault .tooDeep) := by
  have henter : (Json.Source.text depthLimit).enter = .ok (.text 127) := rfl
  have hslice : SecondaryResult.decoder (.text 127) (.ofValue r.secondaryAudit.toJson) =
      Json.Node.readTo (.text 126) r.secondaryAudit.rawDepth r.secondaryAudit :=
    SecondaryResult.decoder_toJson h.secondaryAudit rfl (by decide)
  have hadmits : (Json.Source.text 126).Admits r.secondaryAudit.rawDepth ↔
      r.secondaryAudit.rawDepth + 2 < depthLimit := by
    simp only [Json.Source.Admits, depthLimit]
    omega
  by_cases hdepth : r.secondaryAudit.rawDepth + 2 < depthLimit
  · rw [Json.Node.readTo_of_admits (hadmits.2 hdepth)] at hslice
    rw [if_pos hdepth]
    exact decoder_toJson_of_last h hparts henter (by decide) (.ok r.secondaryAudit)
      (.required hslice .nil)
  · rw [Json.Node.readTo_of_not_admits (mt hadmits.1 hdepth)] at hslice
    rw [if_neg hdepth]
    exact decoder_toJson_of_last h hparts henter (by decide) (.error (.fault .tooDeep))
      (.refused (f := .required "secondaryAudit" SecondaryResult.decoder) hslice (by simp))

theorem legible_toJson (h : r.Sound) (hparts : r.PartsReadBack) : r.toJson.Legible := by
  have hheatmap : (Json.Value.array (r.heatmap.map HeatmapPoint.toJson)).Legible := by
    rw [legible_array, List.forall_mem_map]
    exact fun p hp => HeatmapPoint.legible_toJson (h.index p hp) (hparts.coordinate hp)
  have hsecondary := SecondaryResult.legible_toJson h.secondaryAudit hparts.raw
  have hpixels {n : Nat} (hn : n < Nat.pow 2 32) : (Json.Value.ofNat n).Legible :=
    legible_ofNat (hn.trans (by decide))
  simp only [toJson, legible_object, List.forall_mem_cons]
  exact ⟨by simp [ScanId.toJson], by simp, by simp [Timestamp.toJson], hpixels h.pageWidth,
    hpixels h.pageHeight, r.screenshot.legible_toJson, r.audit.legible_toJson, hheatmap,
    hsecondary, List.forall_mem_nil _⟩

/-- A written report is read as it was, unless what the engine wrote nests too deep. -/
theorem ofText_toJson (h : r.Sound) (hparts : r.PartsReadBack) {text : String}
    (htext : text = r.toJson.compact ∨ text = r.toJson.indented) :
    ofText text = if r.secondaryAudit.rawDepth + 2 < depthLimit then .ok r
      else .error (.fault .tooDeep) := by
  have hlegible := legible_toJson h hparts
  have htree : Json.Node.ofText text = (.ofValue r.toJson, false) := by
    rcases htext with rfl | rfl
    · exact Json.Node.ofText_compact hlegible
    · exact Json.Node.ofText_indented hlegible
  rw [ofText, Json.Decoder.decodeText_of_ofText htree, decoder_toJson h hparts]

end ScanReport

end PageScan
