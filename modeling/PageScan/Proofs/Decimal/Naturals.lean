import PageScan.Proofs.Decimal.Formats

/-!
# Natural numbers as floats

A natural number of at most 53 bits is a float without any rounding. So comparing it with a float
is comparing two exact numbers.

* `AtMost`: the number that a float stands for is at most a natural number.
* `ofNat_ge_iff`: what the comparison of floats comes to.
-/

namespace PageScan.Decimal

open Float.Model Float.Model.UnpackedFloat

variable {m m' n : Nat} {e e' : Int} {s : Sign}

/-- The number that a float stands for is at most `n`. What is not a number is at most nothing. -/
def AtMost (x : Float) (n : Nat) : Prop :=
  match x.toModel.unpack with
  | .notANumber => False
  | .infinity sign => sign = .negative
  | .zero _ => True
  | .finite .negative _ _ _ => True
  | .finite .positive m e _ => (m * 2 ^ e : ℚ) ≤ n

theorem exponentBias_binary64 : Format.binary64.exponentBias = 1023 := by decide

/-! ## Rounding -/

theorem targetExponent_binary64 (m : Nat) (e : Int) :
    Format.binary64.targetExponent (totalExponent m e) = max (m.log2 + e - 52) (-1074) :=
  targetExponent_eq .binary64 m e

/-- A mantissa of 53 bits loses nothing but the zeros behind it. -/
theorem shiftToTargetExponent_exact (hlo : 2 ^ 52 ≤ m) (hhi : m < 2 ^ 53) (he : -1074 ≤ e)
    (j : Nat) :
    shiftToTargetExponent .binary64 (m * 2 ^ j) (e - j) .exact = (⟨m, false, false⟩, e) :=
  shiftToTargetExponent_full ⟨hlo, hhi⟩ he j

theorem roundWithAccuracy_exact (hlo : 2 ^ 52 ≤ m) (hhi : m < 2 ^ 53) (he : -1074 ≤ e) (j : Nat) :
    roundWithAccuracy .binary64 s (m * 2 ^ j) (e - j) .exact = .finite s m e (by omega) :=
  roundWithAccuracy_full ⟨hlo, hhi⟩ he j

/-! ## Packing -/

/-- A normal number survives being packed. -/
theorem unpack_pack_of_normal (hlo : 2 ^ 52 ≤ m) (hhi : m < 2 ^ 53) (hmin : -1074 ≤ e)
    (hmax : e ≤ 971) :
    (Float.Model.pack (.finite s m e (by omega))).unpack = .finite s m e (by omega) :=
  unpack_pack_full ⟨hlo, hhi⟩ hmin hmax

/-! ## Small natural numbers -/

/-- Zeros fill a number up to 53 bits. -/
theorem normal_filled (hpos : 0 < n) (hn : n < 2 ^ 53) :
    2 ^ 52 ≤ n * 2 ^ (52 - n.log2) ∧ n * 2 ^ (52 - n.log2) < 2 ^ 53 :=
  have hfull : Full .binary64 _ := full_shifted hpos hn
  ⟨hfull.le, hfull.lt⟩

theorem unpack_ofUInt64 (hpos : 0 < n) (hn : n < 2 ^ 53) :
    (Float.Model.ofUInt64 n.toUInt64).unpack =
      .finite .positive (n * 2 ^ (52 - n.log2)) (-(52 - n.log2 : Nat)) (by positivity) := by
  obtain ⟨hlo, hhi⟩ := normal_filled hpos hn
  have hword : n.toUInt64.toNat = n := Nat.mod_eq_of_lt (by omega)
  have hsign : compare (n : Int) 0 = .gt := Int.compare_eq_gt.2 (by omega)
  have hround : UnpackedFloat.ofUInt64 .binary64 n.toUInt64 =
      .finite .positive (n * 2 ^ (52 - n.log2)) (-(52 - n.log2 : Nat)) (by positivity) := by
    rw [UnpackedFloat.ofUInt64, hword, UnpackedFloat.ofNat, UnpackedFloat.ofInt,
      UnpackedFloat.normalize, hsign]
    refine round_full (full_shifted (f := .binary64) hpos hn) ?_ ?_
    · show -1074 ≤ _
      omega
    · rw [zpow_zero, mul_one]
      exact (value_filled n (52 - n.log2)).symm
  rw [Float.Model.ofUInt64, hround, unpack_pack_of_normal hlo hhi (by omega) (by omega)]

/-- A natural number of at most 53 bits has all of them in its float. -/
theorem unpack_ofNat (hpos : 0 < n) (hn : n < 2 ^ 53) :
    (Float.ofNat n).toModel.unpack =
      .finite .positive (n * 2 ^ (52 - n.log2)) (-(52 - n.log2 : Nat)) (by positivity) := by
  have hone : (Float.Model.ofBits 0x3FF0000000000000).unpack =
      .finite .positive (2 ^ 52) (-52) (by decide) := rfl
  -- a float is made from a natural number by way of a product with one
  have hproduct : (Float.ofNat n).toModel =
      (Float.Model.ofUInt64 n.toUInt64).mul (.ofBits 0x3FF0000000000000) := by
    show (Float.ofScientific n false 0).toModel = _
    rw [Float.ofScientific, dif_pos ⟨hn, by decide⟩]
    rfl
  obtain ⟨hlo, hhi⟩ := normal_filled hpos hn
  rw [hproduct, Float.Model.mul, unpack_ofUInt64 hpos hn, hone]
  show (Float.Model.pack (roundWithAccuracy .binary64 .positive _
    (-(52 - n.log2 : Nat) - (52 : Nat)) .exact)).unpack = _
  rw [roundWithAccuracy_exact hlo hhi (by omega),
    unpack_pack_of_normal hlo hhi (by omega) (by omega)]

/-! ## Comparing -/

/-- A mantissa and an exponent as they stand in a float: the mantissa has all its 53 bits, unless
the exponent is the smallest there is. -/
structure Canonical (m : Nat) (e : Int) : Prop where
  mantissa_lt : m < 2 ^ 53
  exponent_le : -1074 ≤ e
  normal : 2 ^ 52 ≤ m ∨ e = -1074

theorem canonical_of_unpack {x : Float.Model} {h : 0 < m} (hx : x.unpack = .finite s m e h) :
    Canonical m e := by
  obtain ⟨hfull, hmin, -⟩ | ⟨hlt, he⟩ := full_or_small_of_unpack hx
  · exact ⟨hfull.lt, hmin, .inl hfull.le⟩
  · exact ⟨hlt.trans (by decide), he.ge, .inr he⟩

/-- A number with a smaller exponent than a normal one is smaller. -/
theorem value_lt_of_exponent_lt (hm : m < 2 ^ 53) (hm' : 2 ^ 52 ≤ m') (h : e < e') :
    (m * 2 ^ e : ℚ) < m' * 2 ^ e' := by
  calc (m * 2 ^ e : ℚ) < 2 ^ 53 * 2 ^ e := by
        gcongr
        exact_mod_cast hm
    _ = 2 ^ 52 * 2 ^ (e + 1) := by rw [zpow_add₀ two_ne_zero]; ring
    _ ≤ m' * 2 ^ e' := by
        gcongr
        · exact_mod_cast hm'
        · norm_num
        · omega

/-- Comparing exponents first, then mantissas, compares the numbers. -/
theorem isLE_iff_value_le (h : Canonical m e) (h' : Canonical m' e') (hm' : 2 ^ 52 ≤ m') :
    ((compare e e').then (compare m m')).isLE ↔ (m * 2 ^ e : ℚ) ≤ m' * 2 ^ e' := by
  rcases Int.lt_trichotomy e e' with hlt | rfl | hgt
  · rw [Int.compare_eq_lt.2 hlt]
    simpa [Ordering.then] using (value_lt_of_exponent_lt h.mantissa_lt hm' hlt).le
  · have hpow : (0 : ℚ) < 2 ^ e := by positivity
    rw [mul_le_mul_iff_left₀ hpow, Nat.cast_le, Int.compare_eq_eq.2 rfl, Ordering.eq_then,
      Nat.isLE_compare]
  · have hnormal : 2 ^ 52 ≤ m := h.normal.resolve_right (by have := h'.exponent_le; omega)
    rw [Int.compare_eq_gt.2 hgt]
    simpa [Ordering.then] using value_lt_of_exponent_lt h'.mantissa_lt hnormal hgt

/-- A natural number of at most 53 bits compares with a float as the number that it is. -/
theorem ofNat_ge_iff (hn : n < 2 ^ 53) (x : Float) : Float.ofNat n ≥ x ↔ AtMost x n := by
  have hle : Float.ofNat n ≥ x ↔ x.toModel.unpack.le (Float.ofNat n).toModel.unpack = true :=
    decide_eq_true_iff
  rw [hle, AtMost]
  rcases Nat.eq_zero_or_pos n with rfl | hpos
  · have hzero : (Float.ofNat 0).toModel.unpack = .zero .positive := rfl
    rw [hzero]
    rcases x.toModel.unpack with (_ | _) | _ | _ | ⟨_ | _, m, e, h⟩
    case finite.positive =>
      have hpos : (0 : ℚ) < m * 2 ^ e := by positivity
      simpa [UnpackedFloat.le, UnpackedFloat.compare] using hpos
    all_goals simp [UnpackedFloat.le, UnpackedFloat.compare]
  · rw [unpack_ofNat hpos hn]
    rcases hx : x.toModel.unpack with (_ | _) | _ | _ | ⟨_ | _, m, e, h⟩
    case finite.positive =>
      obtain ⟨hlo, hhi⟩ := normal_filled hpos hn
      have hcanonical : Canonical (n * 2 ^ (52 - n.log2)) (-(52 - n.log2 : Nat)) :=
        ⟨hhi, by omega, .inl hlo⟩
      dsimp only
      rw [← value_filled n (52 - n.log2),
        ← isLE_iff_value_le (canonical_of_unpack hx) hcanonical hlo]
      rfl
    all_goals simp [UnpackedFloat.le, UnpackedFloat.compare]

/-- Between two natural numbers this is their order. -/
theorem atMost_ofNat (hm : m < 2 ^ 53) : AtMost (Float.ofNat m) n ↔ m ≤ n := by
  rw [AtMost]
  rcases Nat.eq_zero_or_pos m with rfl | hpos
  · have hzero : (Float.ofNat 0).toModel.unpack = .zero .positive := rfl
    rw [hzero]
    simp
  · rw [unpack_ofNat hpos hm]
    dsimp only
    rw [value_filled, Nat.cast_le]

end PageScan.Decimal
