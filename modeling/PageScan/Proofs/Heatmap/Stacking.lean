import PageScan.Heatmap.Display
import PageScan.Proofs.Decimal.Arithmetic

/-!
# Which box lies above

Boxes lie above each other in the order of a number that falls with the area of the element, by one
for each whole hundred of square pixels, and that is at least one. So a smaller element never lies
below a larger one, but it need not lie above it.

* `HeatmapPoint.HasSize`: the size of an element in whole pixels.
* `stackingOrder_mul`: the number that an element of some size gets.
* `rescale_stacked`: which of two boxes lies above.
* `not_stacked_card`: a card and the banner that it lies in get the same number.
-/

namespace PageScan

open Decimal

namespace HeatmapPoint

/-- The element is so many whole pixels wide and high. -/
structure HasSize (p : HeatmapPoint) (w h : Nat) : Prop where
  width : number? p.width = some (w : ℚ)
  height : number? p.height = some (h : ℚ)

end HeatmapPoint

namespace DisplayGeometry

variable {area w h w' h' n : Nat} {a : ℚ} {x y : Float} {p q : HeatmapPoint}

/-! ## Whole hundreds -/

theorem holds_hundred : Holds 100.0 100 :=
  ⟨100 * 2 ^ 46, -46, by decide, rfl, by decide, by norm_num⟩

theorem rounds_div_hundred (hx : Holds x a) (h : 1 ≤ a) : Rounds (x / 100.0) (a / 100) := by
  refine div_rounds hx holds_hundred ?_
  calc (2 ^ (-1020 : Int) : ℚ) ≤ 2 ^ (-7 : Int) := zpow_le_zpow_right₀ one_le_two (by decide)
    _ ≤ 1 / 100 := by norm_num
    _ ≤ a / 100 := by gcongr

/-- The area of an element is a whole number, so its float is not below one. -/
theorem one_le_of_keepsSides (hpos : 0 < area) (h : KeepsSides area a) : 1 ≤ a := by
  have hfull : IsFull (1 : Nat) := isFull_natCast one_pos (by decide)
  exact_mod_cast h.ge _ hfull (by exact_mod_cast hpos)

theorem le_hundreds (hx : Rounds x area) (hpos : 0 < n) (hn : n ≤ 999) (hle : 100 * n ≤ area) :
    n ≤ (x / 100.0).toUInt64.toNat := by
  cases hx with
  | infinite hx _ =>
    rw [toUInt64_of_infinite (infinite_div hx holds_hundred)]
    omega
  | number a hx hsides =>
    have ha : ((100 * n : Nat) : ℚ) ≤ a :=
      hsides.ge _ (isFull_natCast (by omega) (by omega)) (by exact_mod_cast hle)
    have hquotient : (n : ℚ) ≤ a / 100 := by
      rw [le_div_iff₀ (by norm_num), mul_comm]
      exact_mod_cast ha
    exact (rounds_div_hundred hx (one_le_of_keepsSides (by omega) hsides)).le_toUInt64 hpos
      (by omega) hquotient

/-- The area keeps its bits, and the next multiple of an hundredth below a whole number has few. -/
theorem hundreds_lt (hx : Rounds x area) (hpos : 0 < area) (hn : n ≤ 999) (hlt : area < 100 * n) :
    (x / 100.0).toUInt64.toNat < n := by
  have hfull : IsFull area := isFull_natCast hpos (by omega)
  cases hx with
  | infinite hx hv =>
    have hlarge : (2 ^ (17 : Int) : ℚ) ≤ area :=
      (zpow_le_zpow_right₀ one_le_two (by decide)).trans hv
    have harea : 2 ^ 17 ≤ area := by exact_mod_cast hlarge
    omega
  | number a hx hsides =>
    have ha : a ≤ area := hsides.le _ hfull le_rfl
    have harea : (area : ℚ) + 1 ≤ 100 * n := by exact_mod_cast hlt
    -- a number of 53 bits between the quotient and the next whole number
    have hbetween : ((128 * n - 1 : Nat) * 2 ^ (-7 : Int) : ℚ) = n - 1 / 128 := by
      rw [Nat.cast_sub (by omega)]
      push_cast
      norm_num
      ring
    have hbits : IsFull ((128 * n - 1 : Nat) * 2 ^ (-7 : Int)) :=
      (isFull_natCast (by omega) (by omega)).mul_zpow _
    rw [hbetween] at hbits
    refine (rounds_div_hundred hx (one_le_of_keepsSides hpos hsides)).toUInt64_lt hbits ?_ ?_
      (by omega)
    · linarith
    · linarith

/-- The number that an element of some size gets. -/
theorem stackingOrder_mul (hx : number? x = some (w : ℚ)) (hy : number? y = some (h : ℚ)) :
    stackingOrder (x * y) = max (1000 - (w * h / 100 : Nat)) 1 := by
  rcases Nat.eq_zero_or_pos (w * h) with hzero | hpos
  · obtain ⟨s, hs⟩ := exists_zero_mul hx hy hzero
    rw [stackingOrder, if_neg (not_pos_of_zero hs), hzero]
    decide
  · have hproduct : Rounds (x * y) (w * h : Nat) := by
      rw [Nat.cast_mul]
      refine mul_rounds (holds_of_number? hx (Nat.pos_of_mul_pos_right hpos))
        (holds_of_number? hy (Nat.pos_of_mul_pos_left hpos)) ?_
      calc (2 ^ (-1022 : Int) : ℚ) ≤ 1 := zpow_le_one_of_nonpos₀ one_le_two (by decide)
        _ ≤ w * h := by exact_mod_cast hpos
    rw [stackingOrder, if_pos hproduct.pos]
    rcases Nat.lt_or_ge (w * h / 100) 999 with hlt | hge
    · have hnext : (x * y / 100.0).toUInt64.toNat < w * h / 100 + 1 :=
        hundreds_lt hproduct hpos (by omega) (by omega)
      rcases Nat.eq_zero_or_pos (w * h / 100) with hnone | hsome
      · omega
      · have hthis : w * h / 100 ≤ (x * y / 100.0).toUInt64.toNat :=
          le_hundreds hproduct hsome hlt.le (Nat.mul_div_le _ _)
        omega
    · have hlast : 999 ≤ (x * y / 100.0).toUInt64.toNat :=
        le_hundreds hproduct (by decide) le_rfl (by omega)
      omega

/-! ## Two boxes -/

/-- A smaller element never lies below a larger one. Both get the same number if their areas have as
many whole hundreds of square pixels or if both have at least 999 of them, and only then. -/
theorem rescale_stacked (g : DisplayGeometry) (hp : p.HasSize w h) (hq : q.HasSize w' h')
    (hlt : w * h < w' * h') :
    (g.rescale p).zIndex = max (1000 - (w * h / 100 : Nat)) 1 ∧
      (g.rescale q).zIndex ≤ (g.rescale p).zIndex ∧
      ((g.rescale q).zIndex = (g.rescale p).zIndex ↔
        w * h / 100 = w' * h' / 100 ∨ 99900 ≤ w * h) := by
  have hsmall : (g.rescale p).zIndex = max (1000 - (w * h / 100 : Nat)) 1 :=
    stackingOrder_mul hp.width hp.height
  have hlarge : (g.rescale q).zIndex = max (1000 - (w' * h' / 100 : Nat)) 1 :=
    stackingOrder_mul hq.width hq.height
  have hle : w * h / 100 ≤ w' * h' / 100 := Nat.div_le_div_right hlt.le
  refine ⟨hsmall, ?_, ?_⟩
  · omega
  · omega

/-! ## A banner, a card in it, and a button on the card -/

/-- An element at a place and of a size in whole pixels. -/
def elementAt (left top width height : Nat) : HeatmapPoint :=
  ⟨0, .ofNat left, .ofNat top, .ofNat width, .ofNat height, .minor, ""⟩

theorem hasSize_elementAt (left top : Nat) (hw : w < 2 ^ 53) (hh : h < 2 ^ 53) :
    (elementAt left top w h).HasSize w h :=
  ⟨number?_ofNat hw, number?_ofNat hh⟩

/-- A screenshot that is shown as large as it is. -/
def unscaled : DisplayGeometry :=
  ⟨1280, 2400, 1280, 2400, .natural⟩

/-- A button lies above its card. -/
theorem rescale_stacked_button :
    (elementAt 120 340 120 40).HasSize 120 40 ∧ (elementAt 100 100 400 300).HasSize 400 300 ∧
      120 * 40 < 400 * 300 ∧
      (unscaled.rescale (elementAt 120 340 120 40)).zIndex = 952 ∧
      (unscaled.rescale (elementAt 100 100 400 300)).zIndex <
        (unscaled.rescale (elementAt 120 340 120 40)).zIndex := by
  have hbutton : (elementAt 120 340 120 40).HasSize 120 40 :=
    hasSize_elementAt 120 340 (by decide) (by decide)
  have hcard : (elementAt 100 100 400 300).HasSize 400 300 :=
    hasSize_elementAt 100 100 (by decide) (by decide)
  obtain ⟨hindex, hle, heq⟩ := rescale_stacked unscaled hbutton hcard (by decide)
  exact ⟨hbutton, hcard, by decide, hindex, lt_of_le_of_ne hle (mt heq.1 (by decide))⟩

/-- A card in a banner gets the same number as the banner, although it is much smaller. -/
theorem not_stacked_card :
    (elementAt 100 100 400 300).HasSize 400 300 ∧ (elementAt 0 0 1280 800).HasSize 1280 800 ∧
      400 * 300 < 1280 * 800 ∧
      ¬(unscaled.rescale (elementAt 0 0 1280 800)).zIndex <
        (unscaled.rescale (elementAt 100 100 400 300)).zIndex := by
  have hcard : (elementAt 100 100 400 300).HasSize 400 300 :=
    hasSize_elementAt 100 100 (by decide) (by decide)
  have hbanner : (elementAt 0 0 1280 800).HasSize 1280 800 :=
    hasSize_elementAt 0 0 (by decide) (by decide)
  refine ⟨hcard, hbanner, by decide, ?_⟩
  have hcard' : (unscaled.rescale (elementAt 100 100 400 300)).zIndex = 1 :=
    stackingOrder_mul hcard.width hcard.height
  have hbanner' : (unscaled.rescale (elementAt 0 0 1280 800)).zIndex = 1 :=
    stackingOrder_mul hbanner.width hbanner.height
  omega

end DisplayGeometry

end PageScan
