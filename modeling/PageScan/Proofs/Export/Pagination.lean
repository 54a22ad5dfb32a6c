import Mathlib
import PageScan.Export.Layout

/-!
# Pages of the exported document

How `place` breaks a section into pages, and what this makes of the whole document.

* `blocks_place`: nothing is lost, doubled or moved.
* `isPage_place`: every page has blocks, the first of them at the margin and each below the one
  before it.
* `isChain_place`: a page ends only where the next block would reach into the margin.
* `ofReport_paginated`: the document as a whole.
-/

namespace PageScan.Export

/-- The lower end of a block at its place. -/
def Placed.foot (p : Placed) : HalfMm :=
  p.top + p.block.height

/-- Blocks below each other without gaps, from one height down to another. -/
inductive Stacked : HalfMm → List Placed → HalfMm → Prop
  | nil (top : HalfMm) : Stacked top [] top
  | cons {top foot : HalfMm} {b : Block} {rest : List Placed}
      (h : Stacked (top + b.height) rest foot) : Stacked top (⟨top, b⟩ :: rest) foot

theorem Stacked.concat {top foot : HalfMm} {page : List Placed} (h : Stacked top page foot)
    (b : Block) : Stacked top (page ++ [⟨foot, b⟩]) (foot + b.height) := by
  induction h with
  | nil top => exact .cons (.nil _)
  | cons _ ih => exact .cons ih

/-- A stack ends where its last block does. -/
theorem Stacked.foot_eq {top foot : HalfMm} {page : List Placed} (h : Stacked top page foot)
    {p : Placed} (hp : page.getLast? = some p) : p.foot = foot := by
  induction h with
  | nil top => cases hp
  | @cons top foot b rest h ih =>
    cases h with
    | nil =>
      cases hp
      rfl
    | cons h => exact ih (by simpa using hp)

/-- There are blocks on the page, the first at the margin and each below the one before it. -/
def IsPage (page : List Placed) : Prop :=
  page ≠ [] ∧ ∃ foot, Stacked paper.margin page foot

/-- The first block of the next page would have reached into the margin of this one. -/
def Full (page next : List Placed) : Prop :=
  ∃ p q, page.getLast? = some p ∧ next.head? = some q ∧ bottom < p.foot + q.block.height

/-! ## Filling pages -/

theorem blocks_place (page : List Placed) (top : HalfMm) (blocks : List Block) :
    (place page top blocks).flatMap (fun page => page.map (·.block)) =
      page.reverse.map (·.block) ++ blocks := by
  fun_induction place page top blocks with
  | case1 page top h => simp_all
  | case2 page top h => simp
  | case3 page top b rest h ih => simp [ih]
  | case4 page top b rest h ih => simp [ih]

/-- What is on the current page stays on the first page that is filled. -/
theorem exists_place_eq_cons (page : List Placed) (top : HalfMm) (blocks : List Block)
    (hpage : page ≠ []) :
    ∃ first rest, place page top blocks = first :: rest ∧ page.reverse <+: first := by
  fun_induction place page top blocks with
  | case1 page top h => simp_all
  | case2 page top h => exact ⟨page.reverse, [], rfl, List.prefix_rfl⟩
  | case3 page top b rest h ih => exact ⟨page.reverse, _, rfl, List.prefix_rfl⟩
  | case4 page top b rest h ih =>
    obtain ⟨first, others, heq, hprefix⟩ := ih (by simp)
    exact ⟨first, others, heq, List.IsPrefix.trans ⟨[⟨top, b⟩], by simp⟩ hprefix⟩

/-- The first block at the top of an empty page. -/
theorem stacked_singleton (b : Block) :
    Stacked paper.margin [⟨paper.margin, b⟩].reverse (paper.margin + b.height) :=
  .cons (.nil _)

theorem isPage_place {page : List Placed} {top : HalfMm} {blocks : List Block}
    (h : Stacked paper.margin page.reverse top) : ∀ p ∈ place page top blocks, IsPage p := by
  fun_induction place page top blocks with
  | case1 page top hpage => simp
  | case2 page top hpage =>
    intro p hp
    rw [List.mem_singleton.1 hp]
    exact ⟨by simpa using hpage, top, h⟩
  | case3 page top b rest hbreak ih =>
    refine List.forall_mem_cons.2 ⟨⟨by simpa using hbreak.2, top, h⟩, ih (stacked_singleton b)⟩
  | case4 page top b rest hstay ih =>
    refine ih ?_
    rw [List.reverse_cons]
    exact h.concat b

/-- Within a section a page ends only where the next block does not fit. -/
theorem isChain_place {page : List Placed} {top : HalfMm} {blocks : List Block}
    (h : Stacked paper.margin page.reverse top) : (place page top blocks).IsChain Full := by
  fun_induction place page top blocks with
  | case1 page top hpage => exact .nil
  | case2 page top hpage => exact .singleton _
  | case3 page top b rest hbreak ih =>
    obtain ⟨first, others, heq, hprefix⟩ :=
      exists_place_eq_cons [⟨paper.margin, b⟩] (paper.margin + b.height) rest (by simp)
    have hchain := ih (stacked_singleton b)
    rw [heq] at hchain ⊢
    refine .cons_cons ?_ hchain
    obtain ⟨p, hp⟩ := Option.ne_none_iff_exists'.1
      (mt List.getLast?_eq_none_iff.1 (by simpa using hbreak.2 : page.reverse ≠ []))
    obtain ⟨tail, rfl⟩ := hprefix
    refine ⟨p, ⟨paper.margin, b⟩, hp, rfl, ?_⟩
    rw [h.foot_eq hp]
    exact hbreak.1
  | case4 page top b rest hstay ih =>
    refine ih ?_
    rw [List.reverse_cons]
    exact h.concat b

/-- Blocks that fit below what is on the page stay on it. -/
theorem exists_place_eq_singleton {page : List Placed} {top : HalfMm} {blocks : List Block}
    (hfits : top + (blocks.map Block.height).sum ≤ bottom) (hsome : page ≠ [] ∨ blocks ≠ []) :
    ∃ p, place page top blocks = [p] := by
  fun_induction place page top blocks with
  | case1 page top hpage => simp_all
  | case2 page top hpage => exact ⟨page.reverse, rfl⟩
  | case3 page top b rest hbreak ih =>
    have hle : top + b.height ≤ top + ((b :: rest).map Block.height).sum :=
      Nat.add_le_add_left (by simp) top
    exact absurd hbreak.1 (Nat.not_lt.2 (Nat.le_trans hle hfits))
  | case4 page top b rest hstay ih =>
    refine ih ?_ (.inl (by simp))
    simpa [Nat.add_assoc] using hfits

/-- A section that fits between the margins is one page. -/
theorem place_of_fits {blocks : List Block}
    (hfits : (blocks.map Block.height).sum ≤ paper.body) (hblocks : blocks ≠ []) :
    ∃ page, place [] paper.margin blocks = [page] ∧ page.map (·.block) = blocks := by
  obtain ⟨page, hpage⟩ : ∃ page, place [] paper.margin blocks = [page] :=
    exists_place_eq_singleton (Nat.add_le_add_left hfits paper.margin) (.inr hblocks)
  refine ⟨page, hpage, ?_⟩
  have hplace := blocks_place [] paper.margin blocks
  simpa [hpage] using hplace

/-! ## The document -/

/-- What stands for the violations of an audit: a card for each, numbered from one on, or a block
that says that there are none. -/
inductive ShowsViolations (audit : AuditResult) : List Block → Prop
  | none (h : audit.violations = []) : ShowsViolations audit [.noViolations]
  | cards {cards : List Card} (h : audit.violations ≠ [])
      (hordinals : cards.map (·.ordinal) = List.range' 1 audit.violations.length)
      (hcards : ∀ i v, audit.violations[i]? = some v →
        cards[i]? = some (Card.ofViolation (i + 1) v)) :
      ShowsViolations audit (cards.map .card)

/-- What stands for the screenshot: the picture, or why there is none. -/
inductive ShowsPicture : Block → Prop
  | picture (size : Image.Size) : ShowsPicture (.screenshot size)
  | missing (reason : String) : ShowsPicture (.noScreenshot reason)

theorem ordinals_zipIdx (violations : List Violation) (n : Nat) :
    (violations.zipIdx n).map (fun (v, i) => (Card.ofViolation (i + 1) v).ordinal) =
      List.range' (n + 1) violations.length := by
  induction violations generalizing n with
  | nil => rfl
  | cons v rest ih => simpa [List.range'_succ] using ⟨rfl, ih (n + 1)⟩

theorem showsViolations_cardsOf (audit : AuditResult) : ShowsViolations audit (cardsOf audit) := by
  by_cases h : audit.violations = []
  · have hcards : cardsOf audit = [.noViolations] := by simp [cardsOf, AuditResult.isClean, h]
    rw [hcards]
    exact .none h
  · have hcards : cardsOf audit =
        (audit.violations.zipIdx.map fun (v, i) => Card.ofViolation (i + 1) v).map .card := by
      simp [cardsOf, AuditResult.isClean, h]
    rw [hcards]
    refine .cards h ?_ fun i v hv => by simp [List.getElem?_zipIdx, hv]
    rw [List.map_map]
    exact ordinals_zipIdx audit.violations 0

theorem showsPicture_ofScreenshot (shot : Screenshot) :
    ShowsPicture (Block.ofScreenshot shot) := by
  unfold Block.ofScreenshot
  split
  · exact .missing _
  · split
    · exact .picture _
    · exact .missing _

theorem ShowsPicture.height_le {b : Block} (h : ShowsPicture b) : b.height ≤ paper.body - 24 := by
  cases h with
  | picture size => exact Nat.le_refl _
  | missing reason => exact (by decide : 60 ≤ paper.body - 24)

/-- The heading and the picture share a page. -/
theorem picture_fits (r : ScanReport) :
    ((picture r).map Block.height).sum ≤ paper.body := by
  have hheight := (showsPicture_ofScreenshot r.screenshot).height_le
  calc
    ((picture r).map Block.height).sum = 20 + ((Block.ofScreenshot r.screenshot).height + 0) := rfl
    _ ≤ 20 + (paper.body - 24 + 0) := Nat.add_le_add_left (Nat.add_le_add_right hheight 0) 20
    _ ≤ paper.body := by decide

theorem findings_ne_nil (r : ScanReport) : findings r ≠ [] := by
  simp [findings]

/-- A section that holds something takes a page at least. -/
theorem place_ne_nil {blocks : List Block} (h : blocks ≠ []) :
    place [] paper.margin blocks ≠ [] := by
  intro hplace
  have hblocks := blocks_place [] paper.margin blocks
  simp [hplace] at hblocks
  exact h hblocks

/-- The document of a report: what it holds and in which order, and how it is broken into pages.
The picture of the page and the last words begin pages of their own; before them a page ends only
where the next block does not fit. -/
theorem ofReport_paginated (r : ScanReport) :
    ∃ (body : List Block) (shot : Block) (lines : List String) (front : List (List Placed))
      (shown last : List Placed),
      ShowsViolations r.audit body ∧ ShowsPicture shot ∧
      (Layout.ofReport r).blocks =
        [Block.title "UXABILITY" "Accessibility, performance and SEO report",
          .metadata r.url (dateLine r.timestamp), .separator, .dials (dialsOf r.secondaryAudit)] ++
        (if r.secondaryAudit.isDegraded then
          [Block.notice (Text.Wrap.wrap Card.detailWidth (Block.noticeText r.secondaryAudit))]
        else []) ++
        [Block.summary r.audit.impactCounts r.audit.nodeCount, .heading "Accessibility violations"] ++
        body ++ [Block.heading "Page screenshot", shot, .closing lines] ∧
      (Layout.ofReport r).pages = front ++ [shown, last] ∧
      (∀ page ∈ (Layout.ofReport r).pages, IsPage page) ∧
      front ≠ [] ∧ front.IsChain Full ∧
      shown.map (·.block) = [.heading "Page screenshot", shot] ∧
      last.map (·.block) = [.closing lines] := by
  obtain ⟨shown, hshown, hpicture⟩ := place_of_fits (picture_fits r) (by simp [picture])
  have hlow : ((closing r).map Block.height).sum ≤ paper.body :=
    (by decide : 24 + 12 * 3 + 0 ≤ paper.body)
  obtain ⟨last, hlast, hclosing⟩ := place_of_fits hlow (by simp [closing])
  have hpages : (Layout.ofReport r).pages =
      place [] paper.margin (findings r) ++ [shown, last] := by
    simp [Layout.ofReport, sections, hshown, hlast]
  have hstart : Stacked paper.margin [].reverse paper.margin := .nil _
  refine ⟨cardsOf r.audit, Block.ofScreenshot r.screenshot, _, place [] paper.margin (findings r),
    shown, last, showsViolations_cardsOf r.audit, showsPicture_ofScreenshot r.screenshot, ?_,
    hpages, ?_, place_ne_nil (findings_ne_nil r), isChain_place hstart, hpicture, hclosing⟩
  · rw [Layout.blocks, hpages, List.flatMap_append, blocks_place]
    simp [hpicture, hclosing, findings, noticeOf, picture, closing]
  · rw [hpages]
    refine List.forall_mem_append.2 ⟨isPage_place hstart, ?_⟩
    refine List.forall_mem_cons.2 ⟨?_, List.forall_mem_singleton.2 ?_⟩
    · exact isPage_place hstart shown (hshown ▸ List.mem_singleton_self shown)
    · exact isPage_place hstart last (hlast ▸ List.mem_singleton_self last)

end PageScan.Export
