import PageScan.Export.Painting
import PageScan.Proofs.Decimal.Singles
import PageScan.Proofs.Export.Margins

/-!
# Lines inside their cards

How tall a card is follows from the numbers of its lines alone, by multiplication. Where each line is
drawn follows from the lines above it, by adding up in single precision. As long as all these
measures are multiples of a fraction that single precision has bits for, both come to the same: the
lines stand one below another on the ground of the card. On the pages of a report this is always so.

* `Ascending`, `ladder`: numbers one above another, and those that are one step apart.
* `CardLine.column_exact`, `Card.map_single?_lines`: the lines of a part and of a card stand where
  they should.
* `Card.DrawnAt`: what it means that a card is drawn as the layout has it.
* `lines_within_card`: the lines that are drawn of a card against the height that it takes up.
-/

namespace PageScan.Export

open Decimal

variable {a s start middle stop t : ℚ} {i n : ℕ}

/-! ## Numbers in order -/

/-- The numbers increase, from one on and up to below another. -/
structure Ascending (start stop : ℚ) (bs : List ℚ) : Prop where
  start_le : start ≤ stop
  pairwise : bs.Pairwise (· < ·)
  within : ∀ b ∈ bs, start ≤ b ∧ b < stop

theorem Ascending.append {bs more : List ℚ} (h : Ascending start middle bs)
    (h' : Ascending middle stop more) : Ascending start stop (bs ++ more) where
  start_le := h.start_le.trans h'.start_le
  pairwise := by
    refine List.pairwise_append.2 ⟨h.pairwise, h'.pairwise, fun b hb c hc => ?_⟩
    exact (h.within b hb).2.trans_le (h'.within c hc).1
  within := by
    intro b hb
    rcases List.mem_append.1 hb with hb | hb
    · exact ⟨(h.within b hb).1, (h.within b hb).2.trans_le h'.start_le⟩
    · exact ⟨h.start_le.trans (h'.within b hb).1, (h'.within b hb).2⟩

theorem ascending_singleton {b : ℚ} (hstart : start ≤ b) (hstop : b < stop) :
    Ascending start stop [b] where
  start_le := hstart.trans hstop.le
  pairwise := List.pairwise_singleton _ _
  within := List.forall_mem_singleton.2 ⟨hstart, hstop⟩

/-- So many numbers from `start` on, one step apart. -/
def ladder (start step : ℚ) : ℕ → List ℚ
  | 0 => []
  | n + 1 => start :: ladder (start + step) step n

theorem ascending_ladder (hs : 0 < s) (n : ℕ) : Ascending a (a + s * n) (ladder a s n) := by
  induction n generalizing a with
  | zero => exact ⟨by simp, .nil, nofun⟩
  | succ n ih =>
    have hfirst : Ascending a (a + s) [a] := ascending_singleton le_rfl (by linarith)
    have hstop : a + s + s * n = a + s * (n + 1 : ℕ) := by
      push_cast
      ring
    rw [← hstop]
    exact hfirst.append ih

/-! ## Columns -/

namespace CardLine

variable (part : CardPart) {step cursor : Float32} (texts : List String)

/-- A column holds its texts in order. -/
@[simp]
theorem map_text_column (step cursor : Float32) :
    (column part step cursor texts).1.map (·.text) = texts := by
  induction texts generalizing cursor with
  | nil => rfl
  | cons text rest ih => simp [column, ih]

/-- As long as nothing is rounded, the lines of a column are one step apart, and the next part begins
one step below the last. -/
theorem column_exact (hcursor : OnGrid i cursor a) (hstep : OnGrid i step s) (hs : 0 ≤ s)
    (hi : i ≤ 126) (hlt : a + s * texts.length < 2 ^ 24 / 2 ^ i) :
    (column part step cursor texts).1.map (fun l => single? l.baseline) =
        (ladder a s texts.length).map some ∧
      OnGrid i (column part step cursor texts).2 (a + s * texts.length) := by
  induction texts generalizing cursor a with
  | nil => exact ⟨rfl, by simpa [column] using hcursor⟩
  | cons text rest ih =>
    have hstop : a + s + s * rest.length = a + s * (rest.length + 1 : ℕ) := by
      push_cast
      ring
    rw [List.length_cons, ← hstop] at hlt ⊢
    have hrest : (0 : ℚ) ≤ s * rest.length := by positivity
    have hnext : OnGrid i (cursor + step) (a + s) := hcursor.add hstep hi (by linarith)
    obtain ⟨hlines, hbelow⟩ := ih hnext hlt
    exact ⟨congrArg₂ List.cons hcursor.single?_eq hlines, hbelow⟩

end CardLine

/-! ## Cards -/

namespace Card

variable (c : Card)

@[simp]
theorem length_numberedTitle : c.numberedTitle.length = c.title.length := by
  rcases h : c.title with _ | ⟨first, rest⟩ <;> simp [numberedTitle, h]

/-- The ordinal of a card stands in front of its first line only. -/
theorem numberedTitle_eq :
    c.numberedTitle = c.title.zipIdx.map fun p =>
      if p.2 = 0 then toString c.ordinal ++ ". " ++ p.1 else p.1 := by
  rcases h : c.title with _ | ⟨first, rest⟩
  · simp [numberedTitle, h]
  · have hrest : (rest.zipIdx 1).map (fun p =>
        if p.2 = 0 then toString c.ordinal ++ ". " ++ p.1 else p.1) =
        (rest.zipIdx 1).map Prod.fst := by
      refine List.map_congr_left fun p hp => if_neg ?_
      have hle := List.le_snd_of_mem_zipIdx hp
      omega
    rw [List.zipIdx_map_fst] at hrest
    rw [List.zipIdx_cons, List.map_cons, hrest, numberedTitle, h]
    rfl

theorem map_text_lines (top : Float32) :
    (c.lines top).map (·.text) = c.numberedTitle ++ c.description ++ c.detail ++ [c.countText] := by
  simp [lines]

theorem height_div_two : (c.height / 2 : ℚ) =
    14 + 5 * c.title.length + 4 * c.description.length + 7 / 2 * c.detail.length := by
  rw [height, frame, titleLine, descriptionLine, detailLine]
  push_cast
  ring

theorem frame_le_height : (14 : ℚ) ≤ c.height / 2 := by
  rw [height_div_two, add_assoc, add_assoc]
  exact le_add_of_nonneg_right (by positivity)

/-- Where the lines of a card stand that begins at `t`. -/
def baselines (t : ℚ) : List ℚ :=
  let description := t + 6 + 5 * c.title.length
  let detail := description + 4 * c.description.length
  ladder (t + 6) 5 c.title.length ++ ladder description 4 c.description.length ++
    ladder detail (7 / 2) c.detail.length ++ [t + c.height / 2 - 7]

/-- The parts of a card go on from one another, all on the ground of the card. -/
theorem ascending_baselines (t : ℚ) :
    Ascending (t + 6) (t + (c.height / 2 - 4)) (c.baselines t) := by
  have hdetail := ascending_ladder (a := t + 6 + 5 * c.title.length + 4 * c.description.length)
    (show (0 : ℚ) < 7 / 2 by norm_num) c.detail.length
  refine (((ascending_ladder (by norm_num) _).append
    (ascending_ladder (by norm_num) _)).append hdetail).append (ascending_singleton ?_ ?_)
  · rw [height_div_two]
    linarith
  · linarith

/-- As long as nothing is rounded, each line of a card is drawn where it should stand. -/
theorem map_single?_lines {top : Float32} (htop : OnGrid i top t) (hone : 1 ≤ i)
    (hi : i ≤ 126) (hlt : t + c.height / 2 < 2 ^ 24 / 2 ^ i) :
    (c.lines top).map (fun l => single? l.baseline) = (c.baselines t).map some := by
  have htitles : (0 : ℚ) ≤ c.title.length := Nat.cast_nonneg _
  have hdescriptions : (0 : ℚ) ≤ c.description.length := Nat.cast_nonneg _
  have hdetails : (0 : ℚ) ≤ c.detail.length := Nat.cast_nonneg _
  have hheight := c.height_div_two
  have hfirst : OnGrid i (top + 6) (t + 6) :=
    htop.add (onGrid_literal (by decide)) hi (by linarith)
  obtain ⟨htitle, hbelow⟩ := CardLine.column_exact .title c.numberedTitle hfirst
    (onGrid_literal (n := 5) (by decide)) (by norm_num) hi
    (by rw [length_numberedTitle]; linarith)
  rw [length_numberedTitle] at htitle hbelow
  obtain ⟨hdescription, hbelow⟩ := CardLine.column_exact .description c.description hbelow
    (onGrid_literal (n := 4) (by decide)) (by norm_num) hi (by linarith)
  obtain ⟨hdetail, hbelow⟩ := CardLine.column_exact .detail c.detail hbelow
    (onGrid_seven_halves.mono hone) (by norm_num) hi (by linarith)
  have hlast := hbelow.add onGrid_one hi (by linarith)
  have hcount : t + 6 + 5 * c.title.length + 4 * c.description.length +
      7 / 2 * c.detail.length + 1 = t + c.height / 2 - 7 := by
    rw [hheight]
    ring
  rw [hcount] at hlast
  simp only [lines, baselines, List.map_append, htitle, hdescription, hdetail, List.map_cons,
    hlast.single?_eq, List.map_nil]

end Card

/-! ## Measures in single precision -/

/-- Half a natural number of at most 23 bits is a number of single precision. -/
theorem onGrid_mm {h : HalfMm} (hh : h < 2 ^ 23) : OnGrid 1 (mm h) (h / 2) := by
  have hlt : (h * (1 / 2) : ℚ) < 2 ^ 24 / 2 ^ (0 + 1) := by
    have hh' : (h : ℚ) < 2 ^ 23 := by exact_mod_cast hh
    linarith
  rw [div_eq_mul_one_div]
  exact (onGrid_ofNat hh).mul onGrid_half (by decide) hlt

/-- The height of some lines, all equally high, comes out in single precision. -/
theorem onGrid_mm_mul {k : HalfMm} (hk : k < 2 ^ 23) (hs : (k / 2 : ℚ) = s) (hone : 1 ≤ i)
    (hi : i ≤ 126) (hn : (n : ℚ) < 2 ^ 24 / 2 ^ i) (h : s * n < 2 ^ 24 / 2 ^ i) :
    OnGrid i (mm k * n.toFloat32) (s * n) := by
  have hbits : (n : ℚ) < 2 ^ 23 := by
    calc (n : ℚ) < 2 ^ 24 / 2 ^ i := hn
      _ ≤ 2 ^ 24 / 2 ^ 1 := by
        gcongr
        norm_num
      _ = 2 ^ 23 := by norm_num
  subst hs
  exact ((onGrid_mm hk).mono hone).mul (onGrid_ofNat (by exact_mod_cast hbits)) hi h

namespace Card

variable (c : Card)

/-- As long as nothing is rounded, the height of a card comes out in single precision. -/
theorem onGrid_heightMm (hone : 1 ≤ i) (hi : i ≤ 126) (hlt : (c.height / 2 : ℚ) < 2 ^ 24 / 2 ^ i) :
    OnGrid i c.heightMm (c.height / 2) := by
  have htitles : (0 : ℚ) ≤ c.title.length := Nat.cast_nonneg _
  have hdescriptions : (0 : ℚ) ≤ c.description.length := Nat.cast_nonneg _
  have hdetails : (0 : ℚ) ≤ c.detail.length := Nat.cast_nonneg _
  rw [height_div_two] at hlt ⊢
  have hframe : OnGrid i (mm frame) 14 := by
    have hvalue : (frame / 2 : ℚ) = 14 := by norm_num [frame]
    rw [← hvalue]
    exact (onGrid_mm (by decide)).mono hone
  have htitle : OnGrid i (mm titleLine * c.title.length.toFloat32) (5 * c.title.length) :=
    onGrid_mm_mul (by decide) (by norm_num [titleLine]) hone hi (by linarith) (by linarith)
  have hdescription : OnGrid i (mm descriptionLine * c.description.length.toFloat32)
      (4 * c.description.length) :=
    onGrid_mm_mul (by decide) (by norm_num [descriptionLine]) hone hi (by linarith) (by linarith)
  have hdetail : OnGrid i (mm detailLine * c.detail.length.toFloat32) (7 / 2 * c.detail.length) :=
    onGrid_mm_mul (by decide) (by norm_num [detailLine]) hone hi (by linarith) (by linarith)
  exact ((hframe.add htitle hi (by linarith)).add hdescription hi (by linarith)).add hdetail hi
    (by linarith)

end Card

/-! ## What is drawn -/

/-- The text that a shape is, if it is one. -/
def Shape.textLine? : Shape → Option TextLine
  | .line l => some l
  | _ => none

theorem textLine?_written (face : Face) (size left baseline : Float32) (color : Color)
    (text : String) : (written face size left baseline color text).textLine? =
      some ⟨face, size, left, baseline, color, text⟩ :=
  rfl

namespace Card

variable (c : Card)

/-- A line of a card is drawn as a text at its baseline. -/
theorem textLine?_lineShape (l : CardLine) :
    ∃ face size color, (c.lineShape l).textLine? =
      some ⟨face, size, marginMm + 5, l.baseline, color, l.text⟩ := by
  cases h : l.part <;> simp [lineShape, h, textLine?_written]

theorem map_textLine?_lineShape (lines : List CardLine) :
    ((lines.map c.lineShape).filterMap Shape.textLine?).map (fun l => (l.baseline, l.text)) =
      lines.map fun l => (l.baseline, l.text) := by
  induction lines with
  | nil => rfl
  | cons l rest ih =>
    obtain ⟨face, size, color, hline⟩ := c.textLine?_lineShape l
    rw [List.map_cons, List.filterMap_cons_some hline, List.map_cons, ih, List.map_cons]

/-- All the text that is drawn of a card is its lines. The ground and the stripe at its edge are no
text. -/
theorem map_textLine?_shapes (top height : Float32) :
    ((c.shapes top height).filterMap Shape.textLine?).map (fun l => (l.baseline, l.text)) =
      (c.lines top).map fun l => (l.baseline, l.text) :=
  c.map_textLine?_lineShape (c.lines top)

theorem texts_shapes (top height : Float32) :
    ((c.shapes top height).filterMap Shape.textLine?).map (·.text) =
      c.numberedTitle ++ c.description ++ c.detail ++ [c.countText] := by
  have htexts := congrArg (List.map Prod.snd) (c.map_textLine?_shapes top height)
  rw [List.map_map, List.map_map] at htexts
  exact htexts.trans (c.map_text_lines top)

/-- The shapes of a card are where the layout has them, `t` millimetres from the upper edge of the
page. The ground begins there and is four millimetres less deep than the card is high. The lines
stand on the ground one below another, the last of them seven millimetres above the end of the
card. -/
structure DrawnAt (t : ℚ) (shapes : List Shape) (bs : List ℚ) : Prop where
  height : single? c.heightMm = some (c.height / 2 : ℚ)
  ground : ∃ top depth, single? top = some t ∧ single? depth = some (c.height / 2 - 4 : ℚ) ∧
    .rectangle marginMm top columnMm depth (c.impact.color.tint 0.9) ∈ shapes
  lines : (shapes.filterMap Shape.textLine?).map (fun l => single? l.baseline) = bs.map some
  increasing : bs.Pairwise (· < ·)
  within : ∀ b ∈ bs, t < b ∧ b < t + (c.height / 2 - 4)
  last : bs.getLast? = some (t + c.height / 2 - 7)

/-- As long as nothing is rounded, a card is drawn where it should be. -/
theorem drawnAt_baselines {top : Float32} (htop : OnGrid i top t) (hone : 1 ≤ i) (hi : i ≤ 126)
    (hlt : t + c.height / 2 < 2 ^ 24 / 2 ^ i) :
    c.DrawnAt t (c.shapes top c.heightMm) (c.baselines t) := by
  have ht : 0 ≤ t := htop.exact.nonneg
  have hheight : OnGrid i c.heightMm (c.height / 2) :=
    c.onGrid_heightMm hone hi (by linarith)
  have hframe := c.frame_le_height
  have hdepth : OnGrid i (c.heightMm - 4) (c.height / 2 - 4) :=
    hheight.sub (onGrid_literal (by decide)) hi (by linarith) (by linarith)
  have hascending := c.ascending_baselines t
  refine ⟨hheight.single?_eq, ⟨top, c.heightMm - 4, htop.single?_eq, hdepth.single?_eq, .head _⟩,
    ?_, hascending.pairwise, fun b hb => ?_, List.getLast?_concat⟩
  · have hlines := congrArg (List.map fun l => single? l.1)
      (c.map_textLine?_shapes top c.heightMm)
    rw [List.map_map, List.map_map] at hlines
    exact hlines.trans (c.map_single?_lines htop hone hi hlt)
  · obtain ⟨hstart, hstop⟩ := hascending.within b hb
    exact ⟨by linarith, hstop⟩

end Card

/-! ## Cards on their pages -/

/-- Blocks that are stacked are one below another. -/
theorem Stacked.pairwise {top foot : HalfMm} {page : List Placed} (h : Stacked top page foot) :
    page.Pairwise fun p q => p.foot ≤ q.top := by
  induction h with
  | nil top => exact .nil
  | cons h ih => exact .cons h.top_le ih

/-- A page with a card keeps its margins. -/
theorem foot_le_bottom_of_card {r : ScanReport} {page : List Placed} {p q : Placed} {c : Card}
    (hpage : page ∈ (Layout.ofReport r).pages) (hp : p ∈ page) (hcard : p.block = .card c)
    (hq : q ∈ page) : q.foot ≤ bottom := by
  obtain ⟨blocks, hblocks, hplace⟩ := mem_pages.1 hpage
  cases tidy_place (.nil _) (.within (by simp)) page hplace with
  | within h => exact h q hq
  | @alone b htall =>
    -- what is too tall for a page is a notice
    rw [List.mem_singleton.1 hp] at hcard
    have hb : b ∈ blocks := block_mem_of_mem_place hplace (List.mem_singleton_self _)
    obtain ⟨-, rfl⟩ := notice_of_body_lt hblocks hb htall
    cases hcard

/-- A block of such a page begins where single precision has it. -/
theorem onGrid_top {r : ScanReport} {page : List Placed} {p q : Placed} {c : Card}
    (hpage : page ∈ (Layout.ofReport r).pages) (hp : p ∈ page) (hcard : p.block = .card c)
    (hq : q ∈ page) : OnGrid 1 (mm q.top) (q.top / 2) := by
  have hfoot : q.top + q.block.height ≤ 554 := foot_le_bottom_of_card hpage hp hcard hq
  have htop : q.top ≤ 554 := Nat.le_trans (Nat.le_add_right _ _) hfoot
  exact onGrid_mm (Nat.lt_of_le_of_lt htop (by decide))

/-- Nothing is rounded where the layout puts a card. -/
theorem drawnAt_of_mem_page {r : ScanReport} {page : List Placed} {p : Placed} {c : Card}
    (hpage : page ∈ (Layout.ofReport r).pages) (hp : p ∈ page) (hcard : p.block = .card c) :
    c.DrawnAt (p.top / 2) (p.block.shapes p.top) (c.baselines (p.top / 2)) := by
  have hfoot : (p.top + c.height : ℚ) ≤ 554 := by
    have hle := foot_le_bottom_of_card hpage hp hcard hp
    rw [Placed.foot, hcard] at hle
    exact_mod_cast hle
  have htop := onGrid_top hpage hp hcard hp
  rw [hcard]
  exact c.drawnAt_baselines htop le_rfl (by decide) (by linarith)

/-- A block begins where the one above it ends. -/
theorem foot_le_top_of_below {r : ScanReport} {above below : List Placed} {p q : Placed}
    (hpage : above ++ p :: below ∈ (Layout.ofReport r).pages) (hq : q ∈ below) :
    p.foot ≤ q.top := by
  obtain ⟨blocks, -, hplace⟩ := mem_pages.1 hpage
  obtain ⟨-, foot, hstacked⟩ := isPage_place (.nil _) _ hplace
  exact List.rel_of_pairwise_cons (List.pairwise_append.1 hstacked.pairwise).2.1 hq

/-- What is painted of a card is its ground and a line of text for each line of its title, its
description and its detail and one for the number of elements. Where all its measures are multiples
of a fraction of a millimetre that single precision has bits for, the ground and the lines are where
the layout has them: the lines one below another on the ground, the last seven millimetres above the
end of the card. On a page of a report this is always so, and no line reaches a block below. -/
theorem lines_within_card (c : Card) :
    (∀ top : Float32,
      Shape.rectangle marginMm top columnMm (c.heightMm - 4) (c.impact.color.tint 0.9) ∈
          c.shapes top c.heightMm ∧
        ((c.shapes top c.heightMm).filterMap Shape.textLine?).map (·.text) =
          (c.title.zipIdx.map fun p =>
              if p.2 = 0 then toString c.ordinal ++ ". " ++ p.1 else p.1) ++
            c.description ++ c.detail ++
            [if c.nodes = 1 then "1 affected element"
              else toString c.nodes ++ " affected elements"] ∧
        ((c.shapes top c.heightMm).filterMap Shape.textLine?).length =
          c.title.length + c.description.length + c.detail.length + 1) ∧
      (∀ (top : Float32) (t : ℚ) (i : ℕ), single? top = some t → (∃ k : ℕ, t * 2 ^ i = k) →
        1 ≤ i → t + c.height / 2 < 2 ^ 24 / 2 ^ i →
          ∃ bs, c.DrawnAt t (c.shapes top c.heightMm) bs) ∧
      ∀ r : ScanReport, ∀ page ∈ (Layout.ofReport r).pages, ∀ above p below,
        page = above ++ p :: below → p.block = .card c →
          ∃ bs, c.DrawnAt (p.top / 2) (p.block.shapes p.top) bs ∧
            ∀ q ∈ below, single? (mm q.top) = some (q.top / 2 : ℚ) ∧
              ∀ b ∈ bs, b + 4 < q.top / 2 := by
  refine ⟨fun top => ⟨.head _, c.numberedTitle_eq ▸ c.texts_shapes top c.heightMm, ?_⟩,
    fun top t i htop hmultiple hone hlt => ?_, fun r page hpage above p below hsplit hcard => ?_⟩
  · simpa [Nat.add_assoc] using congrArg List.length (c.texts_shapes top c.heightMm)
  · -- a card is at least a millimetre high, so that the fraction is not too small
    have hframe := c.frame_le_height
    have ht : 0 ≤ t := by
      obtain ⟨k, hk⟩ := hmultiple
      exact nonneg_of_mul_nonneg_left (hk ▸ k.cast_nonneg) (by positivity)
    have hi : i ≤ 24 := by
      have hone' : (1 : ℚ) < 2 ^ 24 / 2 ^ i := by linarith
      rw [one_lt_div (by positivity), pow_lt_pow_iff_right₀ one_lt_two] at hone'
      exact hone'.le
    have hi' : i ≤ 126 := hi.trans (by decide)
    exact ⟨_, c.drawnAt_baselines (onGrid_of_single? htop hi' hmultiple) hone hi' hlt⟩
  · subst hsplit
    have hmem : p ∈ above ++ p :: below := List.mem_append_right _ List.mem_cons_self
    have hdrawn := drawnAt_of_mem_page hpage hmem hcard
    refine ⟨_, hdrawn, fun q hq => ⟨?_, fun b hb => ?_⟩⟩
    · have hq' : q ∈ above ++ p :: below := List.mem_append_right _ (List.mem_cons_of_mem _ hq)
      exact (onGrid_top hpage hmem hcard hq').single?_eq
    · have hbelow : (p.top + c.height : ℚ) ≤ q.top := by
        have hle := foot_le_top_of_below hpage hq
        rw [Placed.foot, hcard] at hle
        exact_mod_cast hle
      have hend := (hdrawn.within b hb).2
      linarith

end PageScan.Export
