import PageScan.Proofs.Decimal.Formats

/-!
# Multiples of a fraction in single precision

In single precision a number has 24 bits. So what is a multiple of one and the same fraction, and
small against it, is added, subtracted and multiplied without any rounding.

* `single?`: the number that a float in single precision stands for.
* `OnGrid`: a float is this multiple of a fraction. `OnGrid.add`, `OnGrid.sub` and `OnGrid.mul`
  compute with it.
* `onGrid_ofNat`, `onGrid_of_single?`: where such floats come from.
-/

namespace PageScan.Decimal

open Float.Model Float.Model.UnpackedFloat

variable {i n : ℕ} {x y : Float32} {a b v : ℚ} {z : UnpackedFloat}

/-- The number that a float in single precision stands for, if there is one. -/
def single? (x : Float32) : Option ℚ :=
  value? x.toModel.unpack

/-- A float in single precision is this number, a multiple of `1 / 2 ^ i`. -/
structure OnGrid (i : ℕ) (x : Float32) (v : ℚ) : Prop where
  exact : Exact .binary32 x.toModel.unpack v
  multiple : ∃ n : ℕ, v * 2 ^ i = n

theorem OnGrid.single?_eq (h : OnGrid i x v) : single? x = some v :=
  h.exact.value?_eq

/-- A multiple of the fraction with at most 24 bits is a number of single precision. -/
theorem exists_exact_of_multiple (hi : i ≤ 126) (h : ∃ n : ℕ, v * 2 ^ i = n)
    (hv : v < 2 ^ 24 / 2 ^ i) : ∃ z, Exact .binary32 z v := by
  obtain ⟨n, hn⟩ := h
  have hpow : (0 : ℚ) < 2 ^ i := by positivity
  have hbits : n < 2 ^ 24 := by
    rw [lt_div_iff₀ hpow, hn] at hv
    exact_mod_cast hv
  have hvalue : (n * 2 ^ (-(i : ℤ)) : ℚ) = v := by
    rw [← hn, zpow_neg, zpow_natCast, mul_assoc, mul_inv_cancel₀ hpow.ne', mul_one]
  rw [← hvalue]
  refine exists_exact (f := .binary32) hbits ?_ ?_
  · show -149 ≤ -(i : ℤ) - (23 : ℕ)
    omega
  · show -(i : ℤ) ≤ (127 : ℕ) - (23 : ℕ)
    omega

namespace OnGrid

theorem add (hx : OnGrid i x a) (hy : OnGrid i y b) (hi : i ≤ 126)
    (h : a + b < 2 ^ 24 / 2 ^ i) : OnGrid i (x + y) (a + b) := by
  obtain ⟨m, hm⟩ := hx.multiple
  obtain ⟨n, hn⟩ := hy.multiple
  have hmultiple : (a + b) * 2 ^ i = (m + n : ℕ) := by
    rw [add_mul, hm, hn, Nat.cast_add]
  obtain ⟨z, hz⟩ := exists_exact_of_multiple hi ⟨m + n, hmultiple⟩ h
  exact ⟨(hx.exact.add hy.exact hz).stored, m + n, hmultiple⟩

theorem sub (hx : OnGrid i x a) (hy : OnGrid i y b) (hi : i ≤ 126) (hle : b ≤ a)
    (h : a - b < 2 ^ 24 / 2 ^ i) : OnGrid i (x - y) (a - b) := by
  obtain ⟨m, hm⟩ := hx.multiple
  obtain ⟨n, hn⟩ := hy.multiple
  have hnm : n ≤ m := by
    have hscaled : b * 2 ^ i ≤ a * 2 ^ i := by gcongr
    rw [hm, hn] at hscaled
    exact_mod_cast hscaled
  have hmultiple : (a - b) * 2 ^ i = (m - n : ℕ) := by
    rw [sub_mul, hm, hn, Nat.cast_sub hnm]
  obtain ⟨z, hz⟩ := exists_exact_of_multiple hi ⟨m - n, hmultiple⟩ h
  exact ⟨(hx.exact.sub hy.exact hz).stored, m - n, hmultiple⟩

theorem mul {j : ℕ} (hx : OnGrid i x a) (hy : OnGrid j y b) (hij : i + j ≤ 126)
    (h : a * b < 2 ^ 24 / 2 ^ (i + j)) : OnGrid (i + j) (x * y) (a * b) := by
  obtain ⟨m, hm⟩ := hx.multiple
  obtain ⟨n, hn⟩ := hy.multiple
  have hmultiple : a * b * 2 ^ (i + j) = (m * n : ℕ) := by
    rw [pow_add, mul_mul_mul_comm, hm, hn, Nat.cast_mul]
  obtain ⟨z, hz⟩ := exists_exact_of_multiple hij ⟨m * n, hmultiple⟩ h
  exact ⟨(hx.exact.mul hy.exact hz).stored, m * n, hmultiple⟩

/-- A finer fraction has all these multiples too. -/
theorem mono {j : ℕ} (h : OnGrid i x v) (hij : i ≤ j) : OnGrid j x v := by
  obtain ⟨n, hn⟩ := h.multiple
  obtain ⟨k, rfl⟩ := Nat.exists_eq_add_of_le hij
  refine ⟨h.exact, n * 2 ^ k, ?_⟩
  rw [pow_add, ← mul_assoc, hn]
  push_cast
  ring

end OnGrid

/-! ## Floats on the grid -/

/-- A natural number of at most 23 bits is read as it stands. -/
theorem onGrid_ofNat (hn : n < 2 ^ 23) : OnGrid 0 (.ofNat n) n := by
  -- a float is made from a natural number by way of a product with one
  have hproduct : (Float32.ofNat n).toModel =
      (Float32.Model.ofUInt64 n.toUInt64).mul (.ofBits 0x3F800000) := by
    show (Float32.ofScientific n false 0).toModel = _
    rw [Float32.ofScientific, dif_pos ⟨hn, by decide⟩]
    rfl
  have hone : Exact .binary32 (Float32.Model.ofBits 0x3F800000).unpack 1 := by
    have hfull : Full .binary32 (2 ^ 23) := ⟨by decide, by decide⟩
    have hexact := Exact.full hfull (e := -23) (by decide) (by decide)
    norm_num at hexact
    exact hexact
  obtain ⟨z, hz⟩ := exists_exact (f := .binary32) (t := 0) (hn.trans (by decide)) (by decide)
    (by decide)
  rw [zpow_zero, mul_one] at hz
  have hword : Exact .binary32 (Float32.Model.ofUInt64 n.toUInt64).unpack n :=
    (hz.ofUInt64 (by omega)).stored
  refine ⟨?_, n, by rw [pow_zero, mul_one]⟩
  rw [← mul_one (n : ℚ)] at hz ⊢
  rw [hproduct]
  exact (hword.mul hone hz).stored

theorem onGrid_literal [n.AtLeastTwo] (hn : n < 2 ^ 23) :
    OnGrid i (OfNat.ofNat n) (OfNat.ofNat n) := by
  rw [← Nat.cast_ofNat]
  exact (onGrid_ofNat hn).mono (Nat.zero_le i)

theorem onGrid_one : OnGrid i 1 1 := by
  rw [← Nat.cast_one]
  exact (onGrid_ofNat (by decide)).mono (Nat.zero_le i)

theorem onGrid_half : OnGrid 1 0.5 (1 / 2) := by
  have hfull : Full .binary32 (2 ^ 23) := ⟨by decide, by decide⟩
  have hexact := Exact.full hfull (e := -24) (by decide) (by decide)
  norm_num at hexact
  exact ⟨hexact, 1, by norm_num⟩

theorem onGrid_seven_halves : OnGrid 1 3.5 (7 / 2) := by
  have hfull : Full .binary32 (7 * 2 ^ 21) := ⟨by decide, by decide⟩
  have hexact := Exact.full hfull (e := -22) (by decide) (by decide)
  norm_num at hexact
  exact ⟨hexact, 7, by norm_num⟩

/-- What is stored has all its bits, as far as multiples of the fraction are concerned. -/
theorem onGrid_of_single? (hx : single? x = some v) (hi : i ≤ 126) (h : ∃ n : ℕ, v * 2 ^ i = n) :
    OnGrid i x v := by
  refine ⟨exact_of_value? hx ?_, h⟩
  obtain ⟨n, hn⟩ := h
  have hpow : (0 : ℚ) < 2 ^ i := by positivity
  rcases Nat.eq_zero_or_pos n with rfl | hpos
  · rw [Nat.cast_zero] at hn
    exact .inl ((mul_eq_zero.1 hn).resolve_right hpow.ne')
  · right
    have hn' : (1 : ℚ) ≤ n := by exact_mod_cast hpos
    calc (2 ^ (-126 : ℤ) : ℚ) ≤ 2 ^ (-(i : ℤ)) := zpow_le_zpow_right₀ one_le_two (by omega)
      _ = 1 / 2 ^ i := by rw [zpow_neg, zpow_natCast, one_div]
      _ ≤ v := by rwa [div_le_iff₀ hpow, hn]

end PageScan.Decimal
