import Mathlib

/-!
# Numbers of a format

A number of a format has a mantissa with all the bits that the format gives it and an exponent
between two bounds. Rounding such a number changes nothing, and packing it loses nothing. So a sum,
a difference or a product that is a number of the format is computed as it is.

* `Full`, `round_full`, `unpack_pack_full`: a mantissa with all its bits, and why it is kept.
* `full_or_small_of_unpack`: what is stored has all its bits, unless it is very small.
* `Exact`: a float is this number. `Exact.add`, `Exact.sub` and `Exact.mul` compute with it.
* `exists_exact`: a multiple of a power of two is a number of the format if its factor is small.
-/

namespace PageScan.Decimal

open Float.Model Float.Model.UnpackedFloat

variable {f : Format} {m k n : Nat} {e t : Int} {s : Sign}

/-! ## Measures of a format -/

theorem targetExponent_eq (f : Format) (m : Nat) (e : Int) :
    f.targetExponent (totalExponent m e) =
      max (m.log2 + e - f.mantissaBitsWithoutImplicit) f.minExponent := by
  rw [Format.targetExponent, totalExponent, Format.mantissaBits]
  push_cast
  congr 1
  ring

theorem minExponent_eq (f : Format) :
    f.minExponent = 1 - (f.exponentBias : Int) - f.mantissaBitsWithoutImplicit := by
  have hpos : 1 ≤ 2 ^ (f.exponentBits - 1) := Nat.one_le_two_pow
  rw [Format.minExponent, Format.exponentBias, Format.mantissaBits, Nat.cast_sub hpos]
  push_cast
  ring

theorem two_pow_exponentBits (f : Format) : 2 ^ f.exponentBits = 2 * f.exponentBias + 2 := by
  have hpos : 1 ≤ 2 ^ (f.exponentBits - 1) := Nat.one_le_two_pow
  have hbits : f.exponentBits - 1 + 1 = f.exponentBits := Nat.sub_add_cancel f.he
  calc 2 ^ f.exponentBits = 2 ^ (f.exponentBits - 1) * 2 := by
        rw [← Nat.pow_succ, Nat.succ_eq_add_one, hbits]
    _ = 2 * f.exponentBias + 2 := by
      rw [Format.exponentBias]
      omega

theorem log2_mul_two_pow (hk : 0 < k) (j : Nat) : (k * 2 ^ j).log2 = k.log2 + j := by
  obtain ⟨hlo, hhi⟩ := (Nat.log2_eq_iff hk.ne').1 rfl
  refine (Nat.log2_eq_iff (Nat.mul_pos hk (Nat.two_pow_pos j)).ne').2 ⟨?_, ?_⟩
  · rw [Nat.pow_add]
    exact Nat.mul_le_mul_right _ hlo
  · rw [Nat.add_right_comm, Nat.pow_add]
    exact Nat.mul_lt_mul_of_pos_right hhi (Nat.two_pow_pos j)

/-- A mantissa with all the bits of the format. -/
structure Full (f : Format) (m : Nat) : Prop where
  le : 2 ^ f.mantissaBitsWithoutImplicit ≤ m
  lt : m < 2 ^ (f.mantissaBitsWithoutImplicit + 1)

namespace Full

theorem pos (h : Full f m) : 0 < m :=
  (Nat.two_pow_pos _).trans_le h.le

theorem log2_eq (h : Full f m) : m.log2 = f.mantissaBitsWithoutImplicit :=
  (Nat.log2_eq_iff h.pos.ne').2 ⟨h.le, h.lt⟩

end Full

/-- Zeros fill a number up to all its bits. -/
theorem full_shifted (hpos : 0 < n) (hn : n < 2 ^ (f.mantissaBitsWithoutImplicit + 1)) :
    Full f (n * 2 ^ (f.mantissaBitsWithoutImplicit - n.log2)) := by
  have hlog : n.log2 ≤ f.mantissaBitsWithoutImplicit :=
    Nat.le_of_lt_succ ((Nat.log2_lt hpos.ne').2 hn)
  obtain ⟨hlo, hhi⟩ := (Nat.log2_eq_iff hpos.ne').1 (rfl : n.log2 = n.log2)
  constructor
  · calc 2 ^ f.mantissaBitsWithoutImplicit =
          2 ^ n.log2 * 2 ^ (f.mantissaBitsWithoutImplicit - n.log2) := by
          rw [← Nat.pow_add, Nat.add_sub_cancel' hlog]
      _ ≤ n * 2 ^ (f.mantissaBitsWithoutImplicit - n.log2) := Nat.mul_le_mul_right _ hlo
  · calc n * 2 ^ (f.mantissaBitsWithoutImplicit - n.log2) <
          2 ^ (n.log2 + 1) * 2 ^ (f.mantissaBitsWithoutImplicit - n.log2) :=
          Nat.mul_lt_mul_of_pos_right hhi (Nat.two_pow_pos _)
      _ = 2 ^ (f.mantissaBitsWithoutImplicit + 1) := by
          rw [← Nat.pow_add, Nat.add_right_comm, Nat.add_sub_cancel' hlog]

/-! ## Rounding -/

/-- Zeros at the end of a mantissa are shifted out without a trace. -/
theorem shiftRight_exact (m j : Nat) :
    (ExtendedMantissa.mk (m * 2 ^ j) false false) >>> j = ⟨m, false, false⟩ := by
  show j.repeat ExtendedMantissa.shiftRightOne ⟨m * 2 ^ j, false, false⟩ = _
  induction j generalizing m with
  | zero => simp [Nat.repeat]
  | succ j ih =>
    have hdouble : m * 2 ^ (j + 1) = m * 2 * 2 ^ j := by ring
    rw [Nat.repeat, hdouble, ih]
    simp [ExtendedMantissa.shiftRightOne]

/-- A mantissa with all its bits loses nothing but the zeros behind it. -/
theorem shiftToTargetExponent_full (h : Full f m) (he : f.minExponent ≤ e) (j : Nat) :
    shiftToTargetExponent f (m * 2 ^ j) (e - j) .exact = (⟨m, false, false⟩, e) := by
  have htarget : f.targetExponent (totalExponent (m * 2 ^ j) (e - j)) = e := by
    rw [targetExponent_eq, log2_mul_two_pow h.pos, h.log2_eq]
    omega
  have hshift : (e - (e - j)).toNat = j := by omega
  rw [shiftToTargetExponent, htarget, shiftToExponent, hshift,
    ExtendedMantissa.ofMantissaAndAccuracy, shiftRight_exact, Int.sub_add_cancel]

theorem roundWithAccuracy_full (h : Full f m) (he : f.minExponent ≤ e) (j : Nat) :
    roundWithAccuracy f s (m * 2 ^ j) (e - j) .exact = .finite s m e h.pos := by
  have hkeep : shiftToTargetExponent f m e .exact = (⟨m, false, false⟩, e) := by
    simpa using shiftToTargetExponent_full h he 0
  have hround : ExtendedMantissa.roundedMantissa ⟨m, false, false⟩ = m := rfl
  simp only [roundWithAccuracy, shiftToTargetExponent_full h he j, hround, hkeep]
  rw [dif_neg h.pos.ne']

/-- Of two mantissas for one number, that with the greater exponent lacks zeros. -/
theorem eq_mul_two_pow {j : Nat} (h : (k * 2 ^ t : ℚ) = m * 2 ^ (t + j)) : k = m * 2 ^ j := by
  rw [zpow_add₀ two_ne_zero, zpow_natCast, mul_left_comm, mul_comm (k : ℚ)] at h
  exact_mod_cast mul_left_cancel₀ (zpow_ne_zero t two_ne_zero) h

/-- A number of the format is rounded to itself, whether zeros have to go from its mantissa or to
come to it. -/
theorem round_full (h : Full f m) (he : f.minExponent ≤ e) (hk : (k * 2 ^ t : ℚ) = m * 2 ^ e) :
    UnpackedFloat.round f s k t = .finite s m e h.pos := by
  rcases le_or_gt t e with hle | hlt
  · obtain ⟨j, rfl⟩ := Int.le.dest hle
    obtain rfl := eq_mul_two_pow hk
    have htarget : f.targetExponent (totalExponent (m * 2 ^ j) t) = t + j := by
      rw [targetExponent_eq, log2_mul_two_pow h.pos, h.log2_eq]
      omega
    have hshift : (t - (t + j)).toNat = 0 := by omega
    have hround := roundWithAccuracy_full (s := s) h he j
    rw [Int.add_sub_cancel] at hround
    simpa [UnpackedFloat.round, htarget, decreaseExponent, hshift] using hround
  · obtain ⟨j, rfl⟩ := Int.le.dest hlt.le
    obtain rfl := eq_mul_two_pow hk.symm
    have hpos : 0 < k := Nat.pos_of_mul_pos_right h.pos
    have hlog : k.log2 + j = f.mantissaBitsWithoutImplicit := by
      rw [← log2_mul_two_pow hpos, h.log2_eq]
    have htarget : f.targetExponent (totalExponent k (e + j)) = e := by
      rw [targetExponent_eq]
      omega
    have hshift : (e + j - e).toNat = j := by omega
    have hround := roundWithAccuracy_full (s := s) h he 0
    simpa [UnpackedFloat.round, htarget, decreaseExponent, hshift, Nat.shiftLeft_eq] using hround

/-! ## Packing -/

/-- The leading bit, which is not stored, comes back. -/
theorem toNat_append_ofNat (h : Full f m) :
    (1#1 ++ BitVec.ofNat f.mantissaBitsWithoutImplicit m).toNat = m := by
  have hle := h.le
  have hlt := h.lt
  rw [Nat.pow_succ] at hlt
  have hmod : m % 2 ^ f.mantissaBitsWithoutImplicit = m - 2 ^ f.mantissaBitsWithoutImplicit := by
    rw [Nat.mod_eq_sub_mod hle, Nat.mod_eq_of_lt (by omega)]
  rw [BitVec.toNat_append, BitVec.toNat_ofNat, BitVec.toNat_ofNat, Nat.shiftLeft_eq, Nat.or_comm]
  show m % 2 ^ f.mantissaBitsWithoutImplicit ||| 1 * 2 ^ f.mantissaBitsWithoutImplicit = m
  rw [Nat.one_mul, Nat.or_two_pow_eq_add_of_lt (Nat.mod_lt m (Nat.two_pow_pos _)), hmod]
  exact Nat.sub_add_cancel hle

theorem unpack_pack_full (h : Full f m) (hmin : f.minExponent ≤ e)
    (hmax : e ≤ f.exponentBias - f.mantissaBitsWithoutImplicit) :
    UnpackedFloat.unpack f (UnpackedFloat.pack f (.finite s m e h.pos)) =
      .finite s m e h.pos := by
  have hbits := two_pow_exponentBits f
  rw [minExponent_eq] at hmin
  obtain ⟨b, hb⟩ : ∃ b : Nat, e + f.exponentBias + f.mantissaBitsWithoutImplicit = b :=
    Int.eq_ofNat_of_zero_le (by omega)
  have hpack : UnpackedFloat.pack f (.finite s m e h.pos) =
      packComponents f s (.ofNat _ b) (.ofNat _ m) := by
    have hmantissa : m.log2 + 1 = f.mantissaBits := by
      rw [h.log2_eq, Format.mantissaBits, Nat.add_comm]
    simp only [UnpackedFloat.pack, hb, Int.toNat_natCast]
    rw [if_neg (by omega), if_pos hmantissa]
  have hexponent : (BitVec.ofNat f.exponentBits b).toNat = b := by
    rw [BitVec.toNat_ofNat, Nat.mod_eq_of_lt (by omega)]
  rw [hpack]
  simp only [UnpackedFloat.unpack, unpackMantissa_packComponents, unpackExponent_packComponents,
    unpackSign_packComponents, Sign.ofBitVec_toBitVec, hexponent, toNat_append_ofNat h]
  rw [if_neg, if_neg]
  · congr 1
    omega
  · rw [← BitVec.toNat_inj, hexponent, BitVec.toNat_ofNat, Nat.zero_mod]
    omega
  · rw [← BitVec.toNat_inj, hexponent, BitVec.neg_one_eq_allOnes, BitVec.toNat_allOnes]
    omega

theorem unpack_pack_zero (f : Format) (s : Sign) :
    UnpackedFloat.unpack f (UnpackedFloat.pack f (.zero s)) = .zero s := by
  have hbits := two_pow_exponentBits f
  have hzero : UnpackedFloat.pack f (.zero s) = packComponents f s (.ofNat _ 0) (.ofNat _ 0) := rfl
  rw [hzero]
  simp only [UnpackedFloat.unpack, unpackMantissa_packComponents, unpackExponent_packComponents,
    unpackSign_packComponents, Sign.ofBitVec_toBitVec]
  rw [if_neg, if_pos trivial, dif_pos trivial]
  rw [← BitVec.toNat_inj, BitVec.toNat_ofNat, BitVec.neg_one_eq_allOnes, BitVec.toNat_allOnes,
    Nat.zero_mod]
  omega

/-- What is stored has a mantissa with all its bits, or the smallest exponent. -/
theorem full_or_small_of_unpack {b : BitVec f.numBits} {h : 0 < m}
    (hb : UnpackedFloat.unpack f b = .finite s m e h) :
    (Full f m ∧ f.minExponent ≤ e ∧ e ≤ f.exponentBias - f.mantissaBitsWithoutImplicit) ∨
      m < 2 ^ f.mantissaBitsWithoutImplicit ∧ e = f.minExponent := by
  have hbits := two_pow_exponentBits f
  have hmin := minExponent_eq f
  simp only [UnpackedFloat.unpack] at hb
  split at hb
  · split at hb <;> cases hb
  · rename_i hfinite
    split at hb
    · -- a mantissa without its leading bit
      rename_i hzero
      split at hb
      · cases hb
      · cases hb
        rw [hzero, BitVec.toNat_ofNat, Nat.zero_mod]
        exact .inr ⟨BitVec.isLt _, by omega⟩
    · rename_i hne
      cases hb
      have hpos : (unpackExponent b).toNat ≠ 0 := fun heq =>
        hne (BitVec.eq_of_toNat_eq (by simpa using heq))
      have hlt : (unpackExponent b).toNat < 2 ^ f.exponentBits := BitVec.isLt _
      have hmax : (unpackExponent b).toNat ≠ 2 ^ f.exponentBits - 1 := by
        rw [← BitVec.toNat_allOnes, ← BitVec.neg_one_eq_allOnes]
        exact fun heq => hfinite (BitVec.eq_of_toNat_eq heq)
      refine .inl ⟨⟨?_, ?_⟩, by omega, by omega⟩
      · rw [BitVec.toNat_append, Nat.shiftLeft_eq]
        show 2 ^ f.mantissaBitsWithoutImplicit ≤ 1 * 2 ^ f.mantissaBitsWithoutImplicit ||| _
        rw [Nat.one_mul]
        exact Nat.left_le_or
      · calc (1#1 ++ unpackMantissa b).toNat < 2 ^ (1 + f.mantissaBitsWithoutImplicit) :=
              BitVec.isLt _
          _ = 2 ^ (f.mantissaBitsWithoutImplicit + 1) := by rw [Nat.add_comm]

/-! ## Exact numbers -/

/-- The number that a float stands for, if there is one. -/
def value? : UnpackedFloat → Option ℚ
  | .zero _ => some 0
  | .finite .positive m e _ => some (m * 2 ^ e)
  | .finite .negative m e _ => some (-(m * 2 ^ e))
  | _ => none

/-- A float is this number of the format, which is not negative. -/
inductive Exact (f : Format) : UnpackedFloat → ℚ → Prop
  | zero (s : Sign) : Exact f (.zero s) 0
  | full {m : Nat} {e : Int} (h : Full f m) (hmin : f.minExponent ≤ e)
    (hmax : e ≤ f.exponentBias - f.mantissaBitsWithoutImplicit) :
    Exact f (.finite .positive m e h.pos) (m * 2 ^ e)

variable {x y z : UnpackedFloat} {a b v : ℚ}

namespace Exact

theorem value?_eq (h : Exact f x v) : value? x = some v := by
  cases h <;> rfl

/-- A number of the format survives being packed. -/
theorem stored (h : Exact f x v) :
    Exact f (UnpackedFloat.unpack f (UnpackedFloat.pack f x)) v := by
  cases h with
  | zero s =>
    rw [unpack_pack_zero]
    exact .zero s
  | full h hmin hmax =>
    rw [unpack_pack_full h hmin hmax]
    exact .full h hmin hmax

/-- What is a number of the format is not rounded. -/
theorem normalize {i : Int} (h : Exact f z v) (hv : (i * 2 ^ t : ℚ) = v) :
    Exact f (UnpackedFloat.normalize f i t .positive) v := by
  have hpow : (0 : ℚ) < 2 ^ t := by positivity
  cases h with
  | zero =>
    obtain rfl : i = 0 := by simpa [hpow.ne'] using hv
    exact .zero .positive
  | @full m e h hmin hmax =>
    have hpos : (0 : ℚ) < m * 2 ^ e := by
      have := h.pos
      positivity
    have hi : 0 < i := by
      rw [← hv] at hpos
      exact_mod_cast pos_of_mul_pos_left hpos hpow.le
    obtain ⟨k, rfl⟩ := Int.eq_ofNat_of_zero_le hi.le
    rw [UnpackedFloat.normalize, Int.compare_eq_gt.2 hi]
    dsimp only
    rw [Int.toNat_natCast, round_full h hmin (by exact_mod_cast hv)]
    exact .full h hmin hmax

end Exact

/-- A mantissa takes on zeros for a smaller exponent. -/
theorem value_shiftLeft (h : t ≤ e) (m : Nat) :
    ((m <<< (e - t).toNat : Nat) * 2 ^ t : ℚ) = m * 2 ^ e := by
  obtain ⟨j, rfl⟩ := Int.le.dest h
  have hshift : (t + j - t).toNat = j := by omega
  rw [hshift, Nat.shiftLeft_eq, zpow_add₀ two_ne_zero, zpow_natCast]
  push_cast
  ring

namespace Exact

theorem nonneg (h : Exact f x v) : 0 ≤ v := by
  cases h with
  | zero => exact le_refl 0
  | full => positivity

theorem add (hx : Exact f x a) (hy : Exact f y b) (h : Exact f z (a + b)) :
    Exact f (UnpackedFloat.add f x y) (a + b) := by
  rcases hx with s | @⟨m, e, hm, hmin, hmax⟩ <;> rcases hy with s' | @⟨n, t, hn, hmin', hmax'⟩
  · rw [add_zero, UnpackedFloat.add]
    split <;> exact .zero _
  · rw [zero_add]
    exact .full hn hmin' hmax'
  · rw [add_zero]
    exact .full hm hmin hmax
  · refine h.normalize ?_
    simp only [Sign.apply, Int.cast_add, Int.cast_natCast]
    rw [add_mul, value_shiftLeft (min_le_left e t), value_shiftLeft (min_le_right e t)]

theorem sub (hx : Exact f x a) (hy : Exact f y b) (h : Exact f z (a - b)) :
    Exact f (UnpackedFloat.sub f x y) (a - b) := by
  rcases hx with s | @⟨m, e, hm, hmin, hmax⟩ <;> rcases hy with s' | @⟨n, t, hn, hmin', hmax'⟩
  · rw [sub_zero, UnpackedFloat.sub]
    split <;> exact .zero _
  · -- the difference would be negative
    have hpos : (0 : ℚ) < n * 2 ^ t := by
      have := hn.pos
      positivity
    have hnonneg := h.nonneg
    linarith
  · rw [sub_zero]
    exact .full hm hmin hmax
  · refine h.normalize ?_
    simp only [Sign.apply, Int.cast_sub, Int.cast_natCast]
    rw [sub_mul, value_shiftLeft (min_le_left e t), value_shiftLeft (min_le_right e t)]

theorem mul (hx : Exact f x a) (hy : Exact f y b) (h : Exact f z (a * b)) :
    Exact f (UnpackedFloat.mul f x y) (a * b) := by
  rcases hx with s | @⟨m, e, hm, hmin, hmax⟩ <;> rcases hy with s' | @⟨n, t, hn, hmin', hmax'⟩
  · rw [mul_zero]
    exact .zero _
  · rw [zero_mul]
    exact .zero _
  · rw [mul_zero]
    exact .zero _
  · have hmn : (m * 2 ^ e * (n * 2 ^ t) : ℚ) = (m * n : Nat) * 2 ^ (e + t) := by
      rw [zpow_add₀ two_ne_zero]
      push_cast
      ring
    rw [hmn] at h ⊢
    generalize hv : ((m * n : Nat) * 2 ^ (e + t) : ℚ) = v at h ⊢
    rcases h with _ | @⟨k, u, hk, hleast, hgreatest⟩
    · have hpos : (0 : ℚ) < (m * n : Nat) * 2 ^ (e + t) := by
        have := Nat.mul_pos hm.pos hn.pos
        positivity
      exact absurd hv hpos.ne'
    · -- the product of two full mantissas has more bits than a full one
      have hbits : k < m * n := by
        calc k < 2 ^ (f.mantissaBitsWithoutImplicit + 1) := hk.lt
          _ ≤ 2 ^ (f.mantissaBitsWithoutImplicit + f.mantissaBitsWithoutImplicit) :=
            Nat.pow_le_pow_right (by decide) (Nat.add_le_add_left f.hm _)
          _ ≤ m * n := by
            rw [Nat.pow_add]
            exact Nat.mul_le_mul hm.le hn.le
      have hle : e + t ≤ u := by
        by_contra hnot
        have hlt : (k * 2 ^ u : ℚ) < (m * n : Nat) * 2 ^ (e + t) := by
          have hpow : (2 ^ u : ℚ) ≤ 2 ^ (e + t) :=
            zpow_le_zpow_right₀ one_le_two (not_le.1 hnot).le
          calc (k * 2 ^ u : ℚ) < (m * n : Nat) * 2 ^ u := by gcongr
            _ ≤ (m * n : Nat) * 2 ^ (e + t) := by gcongr
        exact hlt.ne hv.symm
      obtain ⟨j, rfl⟩ := Int.le.dest hle
      have hround := roundWithAccuracy_full (s := .positive) hk hleast j
      rw [← eq_mul_two_pow hv, Int.add_sub_cancel] at hround
      have hproduct := Exact.full hk hleast hgreatest
      rw [← hround] at hproduct
      exact hproduct

end Exact

/-! ## Small numbers -/

/-- The zeros behind a mantissa make up for its exponent. -/
theorem value_filled (n k : Nat) : ((n * 2 ^ k : Nat) * 2 ^ (-(k : Int)) : ℚ) = n := by
  have hpow : (2 ^ k : ℚ) ≠ 0 := by positivity
  rw [Nat.cast_mul, Nat.cast_pow, Nat.cast_two, zpow_neg, zpow_natCast, mul_assoc,
    mul_inv_cancel₀ hpow, mul_one]

/-- A power of two times a natural number of no more bits than a mantissa has is a number of the
format. -/
theorem exists_exact (hn : n < 2 ^ (f.mantissaBitsWithoutImplicit + 1))
    (hmin : f.minExponent ≤ t - f.mantissaBitsWithoutImplicit)
    (hmax : t ≤ f.exponentBias - f.mantissaBitsWithoutImplicit) :
    ∃ z, Exact f z (n * 2 ^ t) := by
  rcases Nat.eq_zero_or_pos n with rfl | hpos
  · exact ⟨_, by simpa using Exact.zero .positive⟩
  · have hvalue : (n * 2 ^ t : ℚ) = (n * 2 ^ (f.mantissaBitsWithoutImplicit - n.log2) : Nat) *
        2 ^ (t - (f.mantissaBitsWithoutImplicit - n.log2 : Nat)) := by
      rw [sub_eq_neg_add, zpow_add₀ two_ne_zero, ← mul_assoc, value_filled]
    rw [hvalue]
    exact ⟨_, .full (full_shifted hpos hn) (by omega) (by omega)⟩

/-- A natural number that is one of the format is read as such. -/
theorem Exact.ofUInt64 (h : Exact f z n) (hn : n < 2 ^ 64) :
    Exact f (UnpackedFloat.ofUInt64 f n.toUInt64) n := by
  have hword : n.toUInt64.toNat = n := Nat.mod_eq_of_lt hn
  rw [UnpackedFloat.ofUInt64, hword, UnpackedFloat.ofNat, UnpackedFloat.ofInt]
  exact h.normalize (by simp)

/-- What is stored is exact, unless it is too small for a mantissa with all its bits. -/
theorem exact_of_value? {b : BitVec f.numBits} (hvalue : value? (UnpackedFloat.unpack f b) = some v)
    (hv : v = 0 ∨ 2 ^ (f.minExponent + f.mantissaBitsWithoutImplicit) ≤ v) :
    Exact f (UnpackedFloat.unpack f b) v := by
  rcases hb : UnpackedFloat.unpack f b with s | _ | s | ⟨_ | _, m, e, hm⟩
  all_goals simp only [hb, value?, Option.some.injEq, reduceCtorEq] at hvalue
  case zero =>
    subst hvalue
    exact .zero s
  case finite.negative =>
    have hpos : (0 : ℚ) < m * 2 ^ e := by positivity
    have hpow : (0 : ℚ) < 2 ^ (f.minExponent + f.mantissaBitsWithoutImplicit) := by positivity
    rcases hv with hv | hv <;> linarith
  case finite.positive =>
    subst hvalue
    obtain ⟨hfull, hmin, hmax⟩ | ⟨hlt, rfl⟩ := full_or_small_of_unpack hb
    · exact .full hfull hmin hmax
    · have hpos : (0 : ℚ) < m * 2 ^ f.minExponent := by positivity
      have hle := hv.resolve_left hpos.ne'
      rw [add_comm, zpow_add₀ two_ne_zero, zpow_natCast] at hle
      have hge : 2 ^ f.mantissaBitsWithoutImplicit ≤ m := by
        exact_mod_cast le_of_mul_le_mul_right hle (by positivity)
      exact absurd hge (Nat.not_le.2 hlt)

end PageScan.Decimal
