import PageScan.Proofs.Export.Cards
import PageScan.Proofs.Text.Blank

/-!
# The sections of a card

A card that is cut to fit a page gives its title up to four lines, its description as many as fit
below the title, and its detail as many as fit below the description.

* `Shortened`: what is left of the lines of a section. `shortened_cut`: every cut is of that kind.
* `Holds`: how many lines a height has room for.
* `fitted_sections`: how a card divides the page up between its sections.
-/

namespace PageScan.Export.Card

variable {limit width : Nat} {lines : List String}

/-! ## Cuts -/

theorem cut_of_le (h : lines.length ≤ limit) : cut limit width lines = lines :=
  if_pos h

theorem cut_zero : cut 0 width lines = [] :=
  List.eq_nil_of_length_eq_zero (by rw [length_cut, Nat.min_zero])

/-- All lines but the last that is kept stay as they are. -/
theorem cut_succ {n : Nat} (h : n + 1 < lines.length) :
    cut (n + 1) width lines = lines.take n ++ [marked width lines[n]] := by
  have hkept : (lines.take (n + 1)).reverse = lines[n] :: (lines.take n).reverse := by
    rw [List.take_succ_eq_append_getElem (Nat.lt_of_succ_lt h), List.reverse_append]
    rfl
  rw [cut, if_neg (Nat.not_le.2 h), hkept]
  simp only [List.reverse_cons, List.reverse_reverse]

/-- The mark does not make a line too long. -/
theorem length_marked_le (hmark : ellipsis.length ≤ width) (line : String) :
    (marked width line).length ≤ width := by
  have hkept : (String.ofList (line.toList.take (width - ellipsis.length))).length ≤
      width - ellipsis.length := by
    rw [String.length_ofList]
    exact List.length_take_le _ _
  calc (marked width line).length
      = (Text.trimEnd (String.ofList (line.toList.take (width - ellipsis.length)))).length +
          ellipsis.length := String.length_append _ _
    _ ≤ (width - ellipsis.length) + ellipsis.length :=
        Nat.add_le_add_right ((Text.length_trimEnd_le _).trans hkept) _
    _ = width := Nat.sub_add_cancel hmark

/-- What is left of the lines of a section of which at most `limit` are kept. -/
structure Shortened (limit width : Nat) (lines kept : List String) : Prop where
  length_eq : kept.length = min lines.length limit
  unchanged : lines.length ≤ limit → kept = lines
  before_last : ∀ i, i + 1 < kept.length → kept[i]? = lines[i]?
  within : (∀ line ∈ lines, line.length ≤ width) → ∀ line ∈ kept, line.length ≤ width

theorem shortened_cut (hmark : ellipsis.length ≤ width) (limit : Nat) (lines : List String) :
    Shortened limit width lines (cut limit width lines) := by
  by_cases hle : lines.length ≤ limit
  · rw [cut_of_le hle]
    exact ⟨(Nat.min_eq_left hle).symm, fun _ => rfl, fun _ _ => rfl, fun h => h⟩
  cases limit with
  | zero =>
    rw [cut_zero]
    exact ⟨(Nat.min_zero _).symm, fun h => absurd h hle, by simp, by simp⟩
  | succ n =>
    have hlong : n + 1 < lines.length := Nat.not_le.1 hle
    rw [cut_succ hlong]
    have hlength : (lines.take n ++ [marked width lines[n]]).length = n + 1 := by
      rw [List.length_append, List.length_take_of_le (by omega), List.length_singleton]
    refine ⟨by omega, fun h => absurd h hle, fun i hi => ?_, fun hwithin line hline => ?_⟩
    · have hin : i < n := by omega
      rw [List.getElem?_append_left (by rw [List.length_take_of_le] <;> omega),
        List.getElem?_take_of_lt hin]
    · rcases List.mem_append.1 hline with hline | hline
      · exact hwithin line (List.mem_of_mem_take hline)
      · rw [List.mem_singleton.1 hline]
        exact length_marked_le hmark _

/-! ## The page -/

/-- A height has room for `n` lines, and not for one more. -/
def Holds (line room n : HalfMm) : Prop :=
  line * n ≤ room ∧ room < line * (n + 1)

theorem holds_div {line : HalfMm} (hline : 0 < line) (room : HalfMm) :
    Holds line room (room / line) :=
  ⟨Nat.mul_div_le room line, Nat.lt_mul_div_succ room hline⟩

/-- The title of a card that is cut to fit a page comes first, then the description, and the detail
gets what is left. None of them takes up more than there is, and none is cut without need. -/
theorem fitted_sections (c : Card) :
    c.fitted.height ≤ paper.body ∧
      titleLine * c.fitted.title.length + c.belowTitle = paper.body - frame ∧
      descriptionLine * c.fitted.description.length + c.belowDescription = c.belowTitle ∧
      Shortened titleLimit titleWidth c.title c.fitted.title ∧
      (∃ limit, Holds descriptionLine c.belowTitle limit ∧
        Shortened limit descriptionWidth c.description c.fitted.description) ∧
      ∃ limit, Holds detailLine c.belowDescription limit ∧
        Shortened limit detailWidth c.detail c.fitted.detail := by
  have hdescription : Shortened (c.belowTitle / descriptionLine) descriptionWidth c.description
      c.fitted.description := shortened_cut (by decide) _ _
  have hdetail : Shortened (c.belowDescription / detailLine) detailWidth c.detail
      c.fitted.detail := shortened_cut (by decide) _ _
  exact ⟨c.height_fitted_le, Nat.add_sub_of_le c.titleLine_mul_le,
    Nat.add_sub_of_le c.descriptionLine_mul_le, shortened_cut (by decide) titleLimit c.title,
    ⟨_, holds_div (by decide) _, hdescription⟩, ⟨_, holds_div (by decide) _, hdetail⟩⟩

/-- An empty page has 257 mm, of which 243 mm are for text. Lines of the description are 4 mm high,
and lines of the detail three and a half. -/
example : paper.body = 2 * 257 ∧ paper.body - frame = 2 * 243 ∧ titleLimit = 4 ∧
    descriptionLine = 2 * 4 ∧ detailLine = 2 * 3 + 1 := by decide

end PageScan.Export.Card
