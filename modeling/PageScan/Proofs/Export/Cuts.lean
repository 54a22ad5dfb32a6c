import PageScan.Proofs.Export.Margins
import PageScan.Proofs.Export.Sections

/-!
# Cuts that can be seen

A section of a card that is cut ends in a mark. The mark stands on the last line that is kept, so a
section of which no line is kept cannot carry one. This happens to the detail of a card whenever the
description fills the page.

* `Visible`, `visible_cut_iff`: a cut shows unless it keeps nothing.
* `detailLine_le_belowDescription_iff`: when there is room for a line of the detail.
* `ofReport_cuts`: the cuts on all cards of a document.
-/

namespace PageScan.Export

namespace Card

variable {limit width : Nat} {lines : List String}

/-- If not all of the lines are kept, the last that is kept ends in the mark of a cut. -/
def Visible (lines kept : List String) : Prop :=
  kept.length < lines.length →
    ∃ last, kept.getLast? = some last ∧ ellipsis.toList <:+ last.toList

theorem suffix_marked (width : Nat) (line : String) :
    ellipsis.toList <:+ (marked width line).toList := by
  rw [marked, String.toList_append]
  exact List.suffix_append _ _

/-- A cut cannot be seen exactly if there are lines and none of them is kept. -/
theorem visible_cut_iff : Visible lines (cut limit width lines) ↔ (limit = 0 → lines = []) := by
  cases limit with
  | zero =>
    rw [cut_zero]
    simp [Visible, List.length_pos_iff]
  | succ n =>
    refine iff_of_true (fun hcut => ?_) nofun
    have hlong : n + 1 < lines.length := by
      rw [length_cut] at hcut
      omega
    exact ⟨marked width lines[n], by rw [cut_succ hlong, List.getLast?_concat], suffix_marked _ _⟩

/-! ## Room for the detail -/

/-- Whatever the title leaves of the page, what is left of that in the end is less than a line of
the detail once the description takes as many lines as it can get. -/
theorem room_below {titles : Nat} (htitles : titles ≤ 4) (lines : Nat) :
    7 ≤ 486 - 10 * titles - 8 * min lines ((486 - 10 * titles) / 8) ↔
      10 * titles + 8 * (lines + 1) ≤ 486 := by
  omega

/-- There is room for a line of the detail exactly if there is room for one more line of the
description. -/
theorem detailLine_le_belowDescription_iff (c : Card) :
    detailLine ≤ c.belowDescription ↔
      titleLine * c.fitted.title.length + descriptionLine * (c.description.length + 1) ≤
        paper.body - frame := by
  have htitles : c.fitted.title.length ≤ 4 := by
    rw [length_title_fitted]
    exact Nat.min_le_right _ _
  rw [belowDescription, length_description_fitted]
  exact room_below htitles c.description.length

/-- The card of a violation with all of its text. -/
def whole (ordinal : Nat) (v : Violation) : Card :=
  ⟨ordinal, v.impact, Text.Wrap.wrap titleWidth (heading v),
    Text.Wrap.wrap descriptionWidth v.description, Text.Wrap.wrap detailWidth (advice v),
    v.nodes.length⟩

section Whole

variable (ordinal : Nat) (v : Violation)

theorem ofViolation_eq : ofViolation ordinal v = (whole ordinal v).fitted :=
  rfl

theorem title_whole : (whole ordinal v).title = Text.Wrap.wrap titleWidth (heading v) := by
  simp only [whole]

theorem description_whole :
    (whole ordinal v).description = Text.Wrap.wrap descriptionWidth v.description := by
  simp only [whole]

theorem detail_whole : (whole ordinal v).detail = Text.Wrap.wrap detailWidth (advice v) := by
  simp only [whole]

end Whole

theorem visible_title_fitted (c : Card) : Visible c.title c.fitted.title :=
  visible_cut_iff.2 fun h => absurd h (by decide)

/-- There is always room for a line of the description. -/
theorem visible_description_fitted (c : Card) : Visible c.description c.fitted.description := by
  refine visible_cut_iff.2 fun h => absurd h ?_
  have htitle :
      titleLine * (cut titleLimit titleWidth c.title).length ≤ titleLine * titleLimit := by
    rw [length_cut]
    exact Nat.mul_le_mul_left _ (Nat.min_le_right _ _)
  have hroom : descriptionLine ≤ paper.body - frame - titleLine * titleLimit := by decide
  exact (Nat.div_pos (hroom.trans (Nat.sub_le_sub_left htitle _)) (by decide)).ne'

theorem visible_detail_fitted_iff (c : Card) :
    Visible c.detail c.fitted.detail ↔ c.detail = [] ∨ detailLine ≤ c.belowDescription := by
  have hcut : Visible c.detail c.fitted.detail ↔
      (c.belowDescription / detailLine = 0 → c.detail = []) := visible_cut_iff
  rw [hcut, Nat.div_eq_zero_iff_lt (by decide), ← Nat.not_le, imp_iff_not_or, not_not]
  exact or_comm

theorem detail_fitted_eq_nil {c : Card} (h : c.belowDescription < detailLine) :
    c.fitted.detail = [] := by
  rw [← List.length_eq_zero_iff, length_detail_fitted, Nat.div_eq_of_lt h, Nat.min_zero]

end Card

/-! ## The document -/

theorem card_mem_blocks {r : ScanReport} {i : Nat} {v : Violation}
    (hv : r.audit.violations[i]? = some v) :
    Block.card (Card.ofViolation (i + 1) v) ∈ (Layout.ofReport r).blocks := by
  have hsome : r.audit.violations ≠ [] := by
    rintro hnil
    simp [hnil] at hv
  have hcards : Block.card (Card.ofViolation (i + 1) v) ∈ cardsOf r.audit := by
    rw [cardsOf, if_neg (by simpa [AuditResult.isClean] using hsome)]
    exact List.mem_map.2 ⟨(v, i), List.mem_zipIdx_iff_getElem?.2 hv, rfl⟩
  have hfindings : Block.card (Card.ofViolation (i + 1) v) ∈ findings r :=
    List.mem_append_right _ hcards
  obtain ⟨page, hplace, p, hp, hblock⟩ := exists_mem_place hfindings
  have hpage : page ∈ (Layout.ofReport r).pages :=
    mem_pages.2 ⟨findings r, List.mem_cons_self, hplace⟩
  exact List.mem_flatMap.2 ⟨page, hpage, hblock ▸ List.mem_map_of_mem hp⟩

/-- On the card of a violation every cut of the title and of the description can be seen. A cut of
the detail can be seen, too, as long as the whole description leaves room for one more line of its
own; otherwise the card has no detail, and nothing says so. -/
theorem ofReport_cuts {r : ScanReport} {i : Nat} {v : Violation}
    (hv : r.audit.violations[i]? = some v) :
    ∃ c : Card, Block.card c ∈ (Layout.ofReport r).blocks ∧ c.ordinal = i + 1 ∧
      Card.Visible (Card.whole (i + 1) v).title c.title ∧
      Card.Visible (Card.whole (i + 1) v).description c.description ∧
      (Card.Visible (Card.whole (i + 1) v).detail c.detail ↔
        (Card.whole (i + 1) v).detail = [] ∨
          Card.titleLine * c.title.length +
            Card.descriptionLine * ((Card.whole (i + 1) v).description.length + 1) ≤
              paper.body - Card.frame) ∧
      (¬Card.Visible (Card.whole (i + 1) v).detail c.detail → c.detail = []) := by
  have hcard := card_mem_blocks hv
  rw [Card.ofViolation_eq] at hcard
  have hdetail := (Card.whole (i + 1) v).visible_detail_fitted_iff
  refine ⟨_, hcard, rfl, Card.visible_title_fitted _, Card.visible_description_fitted _, ?_,
    fun hlost => ?_⟩
  · rwa [Card.detailLine_le_belowDescription_iff] at hdetail
  · obtain ⟨-, hroom⟩ := not_or.1 (mt hdetail.2 hlost)
    exact Card.detail_fitted_eq_nil (Nat.not_le.1 hroom)

/-- A violation with a description of so many full lines, in one word. -/
def crowdedViolation (lines : Nat) : Violation where
  id := "image-alt"
  impact := .serious
  description := String.ofList (List.replicate (Card.descriptionWidth * lines) 'x')
  help := "Images must have alternate text"
  helpUrl := none
  tags := []
  nodes := [⟨["img"], some "Add an alt attribute.", none⟩]

/-- A report on a page with that violation. -/
def crowdedReport (lines : Nat) : ScanReport :=
  { wordyReport 1 with audit := ⟨[crowdedViolation lines], [], []⟩ }

theorem heading_crowdedViolation (lines : Nat) :
    Card.heading (crowdedViolation lines) = "[SERIOUS] Images must have alternate text" := by
  have hhelp : Text.isBlankText "Images must have alternate text" = false := by decide
  have himpact : String.ofList (Impact.serious.name.toList.map Char.toUpper) = "SERIOUS" := by
    decide
  have hheadline : (crowdedViolation lines).headline = "Images must have alternate text" :=
    if_neg (by simp [crowdedViolation, hhelp])
  rw [Card.heading, hheadline]
  show "[" ++ String.ofList (Impact.serious.name.toList.map Char.toUpper) ++ "] " ++ _ = _
  rw [himpact]
  rfl

theorem le_length_description_crowdedViolation (lines : Nat) :
    lines ≤ (Card.whole 1 (crowdedViolation lines)).description.length := by
  have hwidth : 0 < Card.descriptionWidth := by decide
  rw [Card.description_whole]
  exact Nat.le_of_mul_le_mul_left
    (le_length_wrap_replicate hwidth (Card.descriptionWidth * lines)) hwidth

theorem detail_crowdedViolation (lines : Nat) :
    (Card.whole 1 (crowdedViolation lines)).detail = ["Add an alt attribute."] := by
  have hadvice : Text.Wrap.wrap 105 "Add an alt attribute." = ["Add an alt attribute."] := by cbv
  rw [Card.detail_whole, ← hadvice]
  rfl

/-- Below a title and so many lines of the description there is no room for one more. -/
theorem not_room_crowdedViolation {titles lines : Nat} (h : 486 < 10 * titles + 8 * (lines + 1)) :
    ¬Card.titleLine * titles + Card.descriptionLine *
      ((Card.whole 1 (crowdedViolation lines)).description.length + 1) ≤
        paper.body - Card.frame := by
  have hmore {all : Nat} (hall : lines ≤ all) : ¬10 * titles + 8 * (all + 1) ≤ 486 := by omega
  exact hmore (le_length_description_crowdedViolation lines)

theorem ofReport_cuts_crowded :
    (crowdedReport 60).audit.violations[0]? = some (crowdedViolation 60) ∧
      ∃ c : Card, Block.card c ∈ (Layout.ofReport (crowdedReport 60)).blocks ∧ c.ordinal = 1 ∧
        Card.Visible (Card.whole 1 (crowdedViolation 60)).title c.title ∧
        Card.Visible (Card.whole 1 (crowdedViolation 60)).description c.description ∧
        c.detail = [] := by
  have hfirst : (crowdedReport 60).audit.violations[0]? = some (crowdedViolation 60) := rfl
  have hcuts := ofReport_cuts hfirst
  rw [Nat.zero_add] at hcuts
  obtain ⟨c, hcard, hordinal, htitle, hdescription, hdetail, hlost⟩ := hcuts
  refine ⟨hfirst, c, hcard, hordinal, htitle, hdescription,
    hlost (mt hdetail.1 (not_or.2 ⟨?_, ?_⟩))⟩
  · rw [detail_crowdedViolation]
    exact List.cons_ne_nil _ _
  · exact not_room_crowdedViolation (by omega)

/-- Below a title of one line a description of 59 lines takes up all the room there is. What the
first element has to change is missing from the card, and no line of the card carries a mark. -/
theorem not_cuts_crowded : ¬∀ c : Card,
    Block.card c ∈ (Layout.ofReport (crowdedReport 59)).blocks →
      Card.Visible (Card.whole 1 (crowdedViolation 59)).detail c.detail := by
  intro hvisible
  have htitle : (Text.Wrap.wrap Card.titleWidth
      "[SERIOUS] Images must have alternate text").length = 1 := by cbv
  have hcard := hvisible _ (card_mem_blocks (r := crowdedReport 59) (i := 0) rfl)
  rw [Nat.zero_add, Card.ofViolation_eq, Card.visible_detail_fitted_iff, detail_crowdedViolation,
    Card.detailLine_le_belowDescription_iff, Card.length_title_fitted, Card.title_whole,
    heading_crowdedViolation, htitle] at hcard
  exact hcard.elim (List.cons_ne_nil _ _) (not_room_crowdedViolation (by decide))

end PageScan.Export
