import PageScan.Export.Card

/-!
# Cards that fit a page

* `length_cut`: how many lines a cut leaves.
* `length_description_fitted`, `length_detail_fitted`: what is left for the lower parts of a card.
* `height_fitted_le`: a card that is cut to fit a page does.
-/

namespace PageScan.Export.Card

@[simp]
theorem length_cut (limit width : Nat) (lines : List String) :
    (cut limit width lines).length = min lines.length limit := by
  unfold cut
  split
  · next hle => exact (Nat.min_eq_left hle).symm
  · next hlong =>
    split
    · next hnil =>
      have hlength := congrArg List.length hnil
      simp only [List.length_reverse, List.length_take, List.length_nil] at hlength
      rw [List.length_nil, Nat.min_comm, hlength]
    · next last before hcons =>
      have hlength := congrArg List.length hcons
      simp only [List.length_reverse, List.length_take, List.length_cons] at hlength ⊢
      rw [← hlength, Nat.min_comm]

variable (c : Card)

@[simp]
theorem length_title_fitted : c.fitted.title.length = min c.title.length titleLimit :=
  length_cut _ _ _

/-- The height of an empty page that a card has for its description. -/
def belowTitle : HalfMm :=
  paper.body - frame - titleLine * c.fitted.title.length

/-- The height of an empty page that a card has for its detail. -/
def belowDescription : HalfMm :=
  c.belowTitle - descriptionLine * c.fitted.description.length

theorem length_description_fitted :
    c.fitted.description.length = min c.description.length (c.belowTitle / descriptionLine) :=
  length_cut _ _ _

theorem length_detail_fitted :
    c.fitted.detail.length = min c.detail.length (c.belowDescription / detailLine) :=
  length_cut _ _ _

/-- The title takes up no more than there is. -/
theorem titleLine_mul_le : titleLine * c.fitted.title.length ≤ paper.body - frame :=
  calc titleLine * c.fitted.title.length ≤ titleLine * titleLimit := by
        rw [length_title_fitted]
        exact Nat.mul_le_mul_left _ (Nat.min_le_right _ _)
    _ ≤ paper.body - frame := by decide

/-- The description takes up no more than the title leaves. -/
theorem descriptionLine_mul_le :
    descriptionLine * c.fitted.description.length ≤ c.belowTitle :=
  calc descriptionLine * c.fitted.description.length
      ≤ descriptionLine * (c.belowTitle / descriptionLine) := by
        rw [length_description_fitted]
        exact Nat.mul_le_mul_left _ (Nat.min_le_right _ _)
    _ ≤ c.belowTitle := Nat.mul_div_le _ _

/-- The detail takes up no more than the description leaves. -/
theorem detailLine_mul_le : detailLine * c.fitted.detail.length ≤ c.belowDescription :=
  calc detailLine * c.fitted.detail.length
      ≤ detailLine * (c.belowDescription / detailLine) := by
        rw [length_detail_fitted]
        exact Nat.mul_le_mul_left _ (Nat.min_le_right _ _)
    _ ≤ c.belowDescription := Nat.mul_div_le _ _

theorem height_fitted_le : c.fitted.height ≤ paper.body := by
  have hframe : frame ≤ paper.body := by decide
  calc
    c.fitted.height
        ≤ frame + titleLine * c.fitted.title.length +
            descriptionLine * c.fitted.description.length + c.belowDescription :=
          Nat.add_le_add_left c.detailLine_mul_le _
    _ = frame + titleLine * c.fitted.title.length + c.belowTitle := by
        rw [belowDescription, Nat.add_assoc, Nat.add_sub_of_le c.descriptionLine_mul_le]
    _ = frame + (paper.body - frame) := by
        rw [belowTitle, Nat.add_assoc, Nat.add_sub_of_le c.titleLine_mul_le]
    _ = paper.body := Nat.add_sub_of_le hframe

end PageScan.Export.Card
