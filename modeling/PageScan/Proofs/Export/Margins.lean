import PageScan.Proofs.Export.Cards
import PageScan.Proofs.Export.Pagination
import PageScan.Proofs.Text.Wrap

/-!
# Blocks between the margins

`place` does not ask whether a block fits an empty page, so a page is kept free of its margins only
by the heights of the blocks. Of all the blocks of a document a single one is unbounded: the notice
that says why there are no scores.

* `tidy_place`: a block too tall for a page has a page of its own, and all others lie between the
  margins.
* `notice_of_body_lt`: only a notice can be too tall.
* `ofReport_margins`: the document as a whole.
-/

namespace PageScan.Export

/-! ## Too tall for a page -/

/-- The blocks of a page lie between its margins, or there is only one, too tall for any page. -/
inductive Tidy : List Placed → Prop
  | within {page : List Placed} (h : ∀ p ∈ page, p.foot ≤ bottom) : Tidy page
  | alone {b : Block} (h : paper.body < b.height) : Tidy [⟨paper.margin, b⟩]

theorem tidy_singleton (b : Block) : Tidy [⟨paper.margin, b⟩] := by
  rcases Nat.lt_or_ge paper.body b.height with htall | hfits
  · exact .alone htall
  · exact .within (List.forall_mem_singleton.2 (Nat.add_le_add_left hfits paper.margin))

/-- A block that is too tall reaches into the margin wherever it stands. -/
theorem bottom_lt_foot {p : Placed} (htop : paper.margin ≤ p.top)
    (htall : paper.body < p.block.height) : bottom < p.foot :=
  calc bottom = paper.margin + paper.body := rfl
    _ < paper.margin + p.block.height := Nat.add_lt_add_left htall _
    _ ≤ p.foot := Nat.add_le_add_right htop _

theorem Stacked.top_le {top foot : HalfMm} {page : List Placed} (h : Stacked top page foot) :
    ∀ p ∈ page, top ≤ p.top := by
  induction h with
  | nil top => exact nofun
  | @cons top foot b rest h ih =>
    refine List.forall_mem_cons.2 ⟨Nat.le_refl _, fun p hp => ?_⟩
    exact Nat.le_trans (Nat.le_add_right _ _) (ih p hp)

/-- A block that is put below others on a page leaves it tidy. -/
theorem Tidy.concat {page : List Placed} {top : HalfMm} {b : Block} (h : Tidy page)
    (hstacked : Stacked paper.margin page top) (hfits : top + b.height ≤ bottom) :
    Tidy (page ++ [⟨top, b⟩]) := by
  cases h with
  | within h => exact .within (List.forall_mem_append.2 ⟨h, List.forall_mem_singleton.2 hfits⟩)
  | @alone tall htall =>
    -- below a block that is too tall nothing fits
    cases hstacked with
    | cons hrest =>
      cases hrest
      have hfoot : bottom < paper.margin + tall.height :=
        bottom_lt_foot (p := ⟨paper.margin, tall⟩) (Nat.le_refl _) htall
      exact absurd (Nat.le_trans (Nat.le_add_right _ _) hfits) (Nat.not_le.2 hfoot)

theorem tidy_place {page : List Placed} {top : HalfMm} {blocks : List Block}
    (h : Stacked paper.margin page.reverse top) (hpage : Tidy page.reverse) :
    ∀ p ∈ place page top blocks, Tidy p := by
  fun_induction place page top blocks with
  | case1 page top hempty => simp
  | case2 page top hsome => exact List.forall_mem_singleton.2 hpage
  | case3 page top b rest hbreak ih =>
    exact List.forall_mem_cons.2 ⟨hpage, ih (stacked_singleton b) (tidy_singleton b)⟩
  | case4 page top b rest hstay ih =>
    refine ih ?_ ?_
    · rw [List.reverse_cons]
      exact h.concat b
    · rw [List.reverse_cons]
      by_cases hempty : page = []
      · subst hempty
        cases h
        exact tidy_singleton b
      · have hfits : top + b.height ≤ bottom :=
          Nat.le_of_not_lt fun hlt => hstay ⟨hlt, hempty⟩
        exact hpage.concat h hfits

/-! ## Blocks of a section -/

theorem block_mem_of_mem_place {blocks : List Block} {page : List Placed} {p : Placed}
    (hpage : page ∈ place [] paper.margin blocks) (hp : p ∈ page) : p.block ∈ blocks := by
  have hmem : p.block ∈ (place [] paper.margin blocks).flatMap fun page => page.map (·.block) :=
    List.mem_flatMap.2 ⟨page, hpage, List.mem_map_of_mem hp⟩
  simpa [blocks_place] using hmem

theorem exists_mem_place {blocks : List Block} {b : Block} (hb : b ∈ blocks) :
    ∃ page ∈ place [] paper.margin blocks, ∃ p ∈ page, p.block = b := by
  have hmem : b ∈ (place [] paper.margin blocks).flatMap fun page => page.map (·.block) := by
    simpa [blocks_place] using hb
  obtain ⟨page, hpage, hblock⟩ := List.mem_flatMap.1 hmem
  obtain ⟨p, hp, rfl⟩ := List.mem_map.1 hblock
  exact ⟨page, hpage, p, hp, rfl⟩

/-- What the notice of a report says, in lines. -/
def noticeLines (r : ScanReport) : List String :=
  Text.Wrap.wrap Card.detailWidth (Block.noticeText r.secondaryAudit)

theorem mem_noticeOf {r : SecondaryResult} {b : Block} :
    b ∈ noticeOf r ↔ r.isDegraded = true ∧
      b = .notice (Text.Wrap.wrap Card.detailWidth (Block.noticeText r)) := by
  unfold noticeOf
  split
  · next h => simp [h]
  · next h => simp [h]

theorem height_le_of_mem_cardsOf {audit : AuditResult} {b : Block} (hb : b ∈ cardsOf audit) :
    b.height ≤ paper.body := by
  unfold cardsOf at hb
  split at hb
  · rw [List.mem_singleton.1 hb]
    exact (by decide : 40 ≤ paper.body)
  · obtain ⟨⟨v, i⟩, -, rfl⟩ := List.mem_map.1 hb
    exact Card.height_fitted_le _

/-- Of all blocks of a document only its notice can be too tall for a page. -/
theorem notice_of_body_lt {r : ScanReport} {blocks : List Block} {b : Block}
    (hblocks : blocks ∈ sections r) (hb : b ∈ blocks) (htall : paper.body < b.height) :
    r.secondaryAudit.isDegraded = true ∧ b = .notice (noticeLines r) := by
  have hshort (h : b.height ≤ paper.body) :
      r.secondaryAudit.isDegraded = true ∧ b = .notice (noticeLines r) :=
    absurd htall (Nat.not_lt.2 h)
  simp only [sections, List.mem_cons, List.not_mem_nil, or_false] at hblocks
  rcases hblocks with rfl | rfl | rfl
  · simp only [findings, List.mem_append, List.mem_cons, List.not_mem_nil, or_false] at hb
    obtain (((rfl | rfl | rfl | rfl) | hnotice) | (rfl | rfl)) | hcard := hb
    · exact hshort (by decide : 48 ≤ paper.body)
    · exact hshort (by decide : 28 ≤ paper.body)
    · exact hshort (by decide : 12 ≤ paper.body)
    · exact hshort (by decide : 88 ≤ paper.body)
    · exact mem_noticeOf.1 hnotice
    · exact hshort (by decide : 28 ≤ paper.body)
    · exact hshort (by decide : 20 ≤ paper.body)
    · exact hshort (height_le_of_mem_cardsOf hcard)
  · simp only [picture, List.mem_cons, List.not_mem_nil, or_false] at hb
    obtain rfl | rfl := hb
    · exact hshort (by decide : 20 ≤ paper.body)
    · have hheight := (showsPicture_ofScreenshot r.screenshot).height_le
      exact hshort (Nat.le_trans hheight (Nat.sub_le _ _))
  · rw [List.mem_singleton.1 hb] at hshort ⊢
    exact hshort (by decide : 24 + 12 * 3 ≤ paper.body)

/-- A notice of 64 lines is too tall, and one of 63 is not. -/
theorem body_lt_height_notice {lines : List String} :
    paper.body < (Block.notice lines).height ↔ 63 < lines.length := by
  show 514 < 8 + 8 * lines.length ↔ 63 < lines.length
  omega

theorem notice_mem_findings {r : ScanReport} (h : r.secondaryAudit.isDegraded = true) :
    Block.notice (noticeLines r) ∈ findings r := by
  simp only [findings, List.mem_append]
  exact .inl (.inl (.inr (mem_noticeOf.2 ⟨h, rfl⟩)))

/-! ## The document -/

theorem mem_pages {r : ScanReport} {page : List Placed} :
    page ∈ (Layout.ofReport r).pages ↔
      ∃ blocks ∈ sections r, page ∈ place [] paper.margin blocks :=
  List.mem_flatMap

theorem margin_le_top {r : ScanReport} {page : List Placed} {p : Placed}
    (hpage : page ∈ (Layout.ofReport r).pages) (hp : p ∈ page) : paper.margin ≤ p.top := by
  obtain ⟨blocks, -, hplace⟩ := mem_pages.1 hpage
  obtain ⟨-, foot, hstacked⟩ := isPage_place (.nil _) page hplace
  exact hstacked.top_le p hp

/-- A notice of more than 63 lines reaches into the margin. -/
theorem exists_bottom_lt_foot {r : ScanReport} (hdegraded : r.secondaryAudit.isDegraded = true)
    (hlong : 63 < (noticeLines r).length) :
    ∃ page ∈ (Layout.ofReport r).pages, ∃ p ∈ page, bottom < p.foot := by
  obtain ⟨page, hplace, p, hp, hblock⟩ := exists_mem_place (notice_mem_findings hdegraded)
  have hpage : page ∈ (Layout.ofReport r).pages :=
    mem_pages.2 ⟨findings r, List.mem_cons_self, hplace⟩
  refine ⟨page, hpage, p, hp, bottom_lt_foot (margin_le_top hpage hp) ?_⟩
  rw [hblock]
  exact body_lt_height_notice.2 hlong

/-- Every block of a document lies between the margins of its page, but for a notice of more than
63 lines, which begins at the margin and has a page of its own. A document keeps its margins exactly
if it has no such notice. -/
theorem ofReport_margins (r : ScanReport) :
    (∀ page ∈ (Layout.ofReport r).pages, ∀ p ∈ page, paper.margin ≤ p.top ∧
      (p.foot ≤ bottom ∨ page = [⟨paper.margin, .notice (noticeLines r)⟩] ∧
        r.secondaryAudit.isDegraded = true ∧ 63 < (noticeLines r).length)) ∧
    ((∀ page ∈ (Layout.ofReport r).pages, ∀ p ∈ page, paper.margin ≤ p.top ∧ p.foot ≤ bottom) ↔
      (r.secondaryAudit.isDegraded = true → (noticeLines r).length ≤ 63)) := by
  have hpages : ∀ page ∈ (Layout.ofReport r).pages, ∀ p ∈ page, paper.margin ≤ p.top ∧
      (p.foot ≤ bottom ∨ page = [⟨paper.margin, .notice (noticeLines r)⟩] ∧
        r.secondaryAudit.isDegraded = true ∧ 63 < (noticeLines r).length) := by
    intro page hpage p hp
    refine ⟨margin_le_top hpage hp, ?_⟩
    obtain ⟨blocks, hblocks, hplace⟩ := mem_pages.1 hpage
    cases tidy_place (.nil _) (.within (by simp)) page hplace with
    | within h => exact .inl (h p hp)
    | @alone b htall =>
      have hb : b ∈ blocks := block_mem_of_mem_place hplace (List.mem_singleton_self _)
      obtain ⟨hdegraded, rfl⟩ := notice_of_body_lt hblocks hb htall
      exact .inr ⟨rfl, hdegraded, body_lt_height_notice.1 htall⟩
  refine ⟨hpages, fun hwithin hdegraded => ?_, fun hshort page hpage p hp => ?_⟩
  · refine Nat.le_of_not_lt fun hlong => ?_
    obtain ⟨page, hpage, p, hp, hfoot⟩ := exists_bottom_lt_foot hdegraded hlong
    exact absurd (hwithin page hpage p hp).2 (Nat.not_le.2 hfoot)
  · obtain ⟨htop, hfoot | ⟨-, hdegraded, hlong⟩⟩ := hpages page hpage p hp
    · exact ⟨htop, hfoot⟩
    · exact absurd (hshort hdegraded) (Nat.not_le.2 hlong)

/-- A report on a page that the second engine could not score. Its error is one word of so many
letters. -/
def wordyReport (letters : Nat) : ScanReport where
  scanId := ⟨[0x5b, 0x1c, 0x2f, 0x5e, 0x7c, 0x1d, 0x4a, 0x57, 0x9a, 0x2a, 0x0c, 0x8e, 0, 0, 0, 1]⟩
  url := "https://shop.example.com/"
  timestamp := ⟨Calendar.dayNumber 2026 3 14, 34200, 0⟩
  pageWidth := 1280
  pageHeight := 2400
  screenshot := ⟨.jpeg, [0xff, 0xd8, 0xff, 0xd9]⟩
  audit := .empty
  heatmap := []
  secondaryAudit :=
    ⟨none, none, some (String.ofList (List.replicate letters 'x')), none, none⟩

/-- A word of so many letters takes up as many lines as it needs. -/
theorem le_length_wrap_replicate {width : Nat} (hwidth : 0 < width) (letters : Nat) :
    letters ≤
      width * (Text.Wrap.wrap width (String.ofList (List.replicate letters 'x'))).length := by
  have hblank : ∀ c ∈ (String.ofList (List.replicate letters 'x')).toList,
      Text.isBlank c = false := by
    intro c hc
    rw [String.toList_ofList] at hc
    rw [List.eq_of_mem_replicate hc]
    decide
  simpa using Text.Wrap.length_le_mul_length_wrap hwidth hblank

/-- The letters of the error need this many lines. -/
theorem le_length_noticeLines_wordyReport (letters : Nat) :
    letters ≤ 105 * (noticeLines (wordyReport letters)).length := by
  have htext : Block.noticeText (wordyReport letters).secondaryAudit =
      String.ofList (List.replicate letters 'x') := by
    simp [Block.noticeText, wordyReport]
  rw [noticeLines, htext]
  exact le_length_wrap_replicate (by decide) letters

/-- An error of 6720 letters takes up 64 lines, and its notice reaches into the lower margin. -/
theorem not_margins_wordyReport : ¬ ∀ page ∈ (Layout.ofReport (wordyReport 6720)).pages,
    ∀ p ∈ page, paper.margin ≤ p.top ∧ p.foot ≤ bottom := by
  intro hwithin
  have hlong : 63 < (noticeLines (wordyReport 6720)).length := by
    have hle := le_length_noticeLines_wordyReport 6720
    omega
  obtain ⟨page, hpage, p, hp, hfoot⟩ := exists_bottom_lt_foot (r := wordyReport 6720) rfl hlong
  exact absurd (hwithin page hpage p hp).2 (Nat.not_le.2 hfoot)

end PageScan.Export
