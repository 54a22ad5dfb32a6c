import PageScan.Proofs.Decimal.Rounding

/-!
# Products and quotients of floats

A product or quotient of positive floats is the exact one, rounded, and cutting a float takes its
whole part.

* `Holds`, `Rounds`: the positive number that a float stands for, and one that it is near to.
* `mul_rounds`, `div_rounds`: a product and a quotient are near to the exact ones.
* `le_toUInt64_iff`: the whole number that a float is cut to.
* `number?`: the number that a float stands for, whatever its sign.
-/

namespace PageScan.Decimal

open Float.Model Float.Model.UnpackedFloat

variable {m n : Nat} {e t : Int} {s : Sign} {acc : Accuracy} {r v a b : ℚ} {x y : Float}

/-! ## What a float stands for -/

/-- A float is a positive number of 53 bits. -/
def Holds (x : Float) (a : ℚ) : Prop :=
  ∃ (m : Nat) (e : Int) (hm : 0 < m),
    x.toModel.unpack = .finite .positive m e hm ∧ 2 ^ 52 ≤ m ∧ a = m * 2 ^ e

/-- A float is a positive number, rounded, or infinite if the number is too large for a float. -/
inductive Rounds (x : Float) (v : ℚ) : Prop
  | number (a : ℚ) (hx : Holds x a) (h : KeepsSides v a)
  | infinite (hx : x.toModel.unpack = .infinity .positive) (h : 2 ^ (1023 : Int) ≤ v)

theorem toModel_mul (x y : Float) :
    (x * y).toModel = .pack (UnpackedFloat.mul .binary64 x.toModel.unpack y.toModel.unpack) :=
  rfl

theorem toModel_div (x y : Float) :
    (x / y).toModel = .pack (UnpackedFloat.div .binary64 x.toModel.unpack y.toModel.unpack) :=
  rfl

theorem toUInt64_eq (x : Float) :
    x.toUInt64 = .ofNatClamp (UnpackedFloat.toInt 0 (UInt64.size - 1) x.toModel.unpack).toNat :=
  rfl

/-- What is too large for a float is packed as infinity. -/
theorem unpack_pack_of_large (hm : 0 < m) (he : 972 ≤ e) :
    (Float.Model.pack (.finite s m e hm)).unpack = .infinity s := by
  have hpack : UnpackedFloat.pack .binary64 (.finite s m e hm) = packedInfinity .binary64 s := by
    simp only [UnpackedFloat.pack, exponentBias_binary64]
    rw [if_pos]
    show 2 ^ 11 ≤ (e + (1023 : Nat) + (52 : Nat)).toNat + 1
    omega
  show UnpackedFloat.unpack .binary64 (UnpackedFloat.pack .binary64 _) = _
  rw [hpack]
  cases s <;> rfl

theorem rounds_of_leads (h : Leads m e acc v) (hm : 2 ^ 52 ≤ m) (hv : 2 ^ (-1022 : Int) ≤ v)
    (hx : x.toModel = .pack (roundWithAccuracy .binary64 .positive m e acc)) : Rounds x v := by
  obtain ⟨n, t, hn, hround, hlo, hhi, hmin, hsides⟩ := h.exists_rounded hm hv .positive
  rw [hround] at hx
  rcases le_or_gt t 971 with hsmall | hlarge
  · refine .number (n * 2 ^ t) ⟨n, t, hn, ?_, hlo, rfl⟩ hsides
    rw [hx, unpack_pack_of_normal hlo hhi hmin hsmall]
  · refine .infinite (by rw [hx, unpack_pack_of_large hn hlarge]) (not_lt.1 fun hbelow => ?_)
    -- it would not have got past the largest power of two among the floats
    have hfull : IsFull (2 ^ (1023 : Int)) := by
      simpa using (isFull_natCast one_pos (by decide)).mul_zpow 1023
    have hle : (n * 2 ^ t : ℚ) ≤ 2 ^ (1023 : Int) := hsides.le _ hfull hbelow.le
    refine hle.not_gt ?_
    calc (2 ^ (1023 : Int) : ℚ) = (2 ^ 52 : Nat) * 2 ^ (971 : Int) := by
          rw [Nat.cast_pow, Nat.cast_two, ← zpow_natCast, ← zpow_add₀ two_ne_zero]
          rfl
      _ < n * 2 ^ t := value_lt_of_exponent_lt (by decide) hlo hlarge

/-! ## Products and quotients -/

theorem mul_rounds (hx : Holds x a) (hy : Holds y b) (h : 2 ^ (-1022 : Int) ≤ a * b) :
    Rounds (x * y) (a * b) := by
  obtain ⟨m, e, hm, hxm, hlo, rfl⟩ := hx
  obtain ⟨n, t, hn, hyn, -, rfl⟩ := hy
  have hproduct : (m * 2 ^ e * (n * 2 ^ t) : ℚ) = (m * n : Nat) * 2 ^ (e + t) := by
    rw [zpow_add₀ two_ne_zero]
    push_cast
    ring
  rw [hproduct] at h ⊢
  have hbits : 2 ^ 52 ≤ m * n := hlo.trans (Nat.le_mul_of_pos_right m hn)
  refine rounds_of_leads (leads_exact (m * n) (e + t)) hbits h ?_
  rw [toModel_mul, hxm, hyn]
  rfl

/-- Two mantissas of 53 bits are divided to 53 bits at least. -/
theorem divCore_normal (hlo : 2 ^ 52 ≤ m) (hhi : m < 2 ^ 53) (hlo' : 2 ^ 52 ≤ n) (hhi' : n < 2 ^ 53)
    (h : -1020 ≤ e - t) :
    divCore .binary64 m e n t =
      (m * 2 ^ 53 / n, e - t - 53, accuracyOfFraction (m * 2 ^ 53 % n) n) := by
  have hlog : m.log2 = 52 := (Nat.log2_eq_iff (by omega)).2 ⟨hlo, hhi⟩
  have hlog' : n.log2 = 52 := (Nat.log2_eq_iff (by omega)).2 ⟨hlo', hhi'⟩
  have htarget : Format.binary64.targetExponent (totalExponent m e - totalExponent n t) =
      e - t - 53 := by
    have hbits : Format.binary64.mantissaBits = 53 := by decide
    have hleast : Format.binary64.minExponent = -1074 := by decide
    rw [Format.targetExponent, totalExponent, totalExponent, hlog, hlog', hbits, hleast]
    omega
  have hmin : min (e - t) (e - t - 53) = e - t - 53 := by omega
  have hshift : (e - t - (e - t - 53)).toNat = 53 := by omega
  simp only [divCore, htarget, hmin, hshift, Nat.shiftLeft_eq]

theorem div_rounds (hx : Holds x a) (hy : Holds y b) (h : 2 ^ (-1020 : Int) ≤ a / b) :
    Rounds (x / y) (a / b) := by
  obtain ⟨m, e, hm, hxm, hlo, rfl⟩ := hx
  obtain ⟨n, t, hn, hyn, hlo', rfl⟩ := hy
  have hhi : m < 2 ^ 53 := (canonical_of_unpack hxm).mantissa_lt
  have hhi' : n < 2 ^ 53 := (canonical_of_unpack hyn).mantissa_lt
  have hexponent : -1020 ≤ e - t := by
    have hlt : (2 ^ (-1020 + (52 + t)) : ℚ) < 2 ^ (53 + e) := by
      calc (2 ^ (-1020 + (52 + t)) : ℚ) = 2 ^ (-1020 : Int) * ((2 ^ 52 : Nat) * 2 ^ t) := by
            rw [zpow_add₀ two_ne_zero, zpow_add₀ two_ne_zero]
            norm_num
        _ ≤ 2 ^ (-1020 : Int) * (n * 2 ^ t) := by gcongr
        _ ≤ m * 2 ^ e := (le_div_iff₀ (by positivity)).1 h
        _ < (2 ^ 53 : Nat) * 2 ^ e := by gcongr
        _ = 2 ^ (53 + e) := by
            rw [zpow_add₀ two_ne_zero]
            norm_num
    rw [zpow_lt_zpow_iff_right₀ one_lt_two] at hlt
    omega
  have hquotient : (m * 2 ^ e / (n * 2 ^ t) : ℚ) = (m * 2 ^ 53 : Nat) / n * 2 ^ (e - t - 53) := by
    rw [zpow_sub₀ two_ne_zero, zpow_sub₀ two_ne_zero]
    push_cast
    field_simp
  rw [hquotient] at h ⊢
  refine rounds_of_leads (leads_div hn (m * 2 ^ 53) (e - t - 53)) ?_ (le_trans ?_ h) ?_
  · rw [Nat.le_div_iff_mul_le hn]
    exact Nat.mul_le_mul hlo hhi'.le
  · exact zpow_le_zpow_right₀ one_le_two (by decide)
  · rw [toModel_div, hxm, hyn, UnpackedFloat.div, divCore_normal hlo hhi hlo' hhi' hexponent]
    rfl

theorem infinite_div (hx : x.toModel.unpack = .infinity .positive) (hy : Holds y b) :
    (x / y).toModel.unpack = .infinity .positive := by
  obtain ⟨n, t, hn, hyn, -, -⟩ := hy
  have hquotient : (x / y).toModel = .pack (.infinity .positive) := by
    rw [toModel_div, hx, hyn]
    rfl
  rw [hquotient]
  rfl

/-! ## Signs -/

theorem lt_iff_lt_unpack : x < y ↔ x.toModel.unpack.lt y.toModel.unpack = true :=
  decide_eq_true_iff

theorem Rounds.pos (h : Rounds x v) : 0.0 < x := by
  have hzero : (0.0 : Float).toModel.unpack = .zero .positive := rfl
  rw [lt_iff_lt_unpack, hzero]
  cases h with
  | number a hx h =>
    obtain ⟨m, e, hm, hx, -, -⟩ := hx
    rw [hx]
    rfl
  | infinite hx h =>
    rw [hx]
    rfl

theorem not_pos_of_zero (hx : x.toModel.unpack = .zero s) : ¬0.0 < x := by
  have hzero : (0.0 : Float).toModel.unpack = .zero .positive := rfl
  rw [lt_iff_lt_unpack, hzero, hx]
  exact Bool.false_ne_true

/-! ## Cutting -/

/-- Cutting the bits behind the point takes the whole part. -/
theorem roundToInt_positive (m : Nat) (e : Int) :
    roundToInt .positive m e = (⌊(m * 2 ^ e : ℚ)⌋₊ : Int) := by
  have hcut : roundToInt .positive m e =
      (m * 2 ^ (e - 0).toNat / 2 ^ (0 - (e - (e - 0).toNat)).toNat : Nat) := by
    simp only [roundToInt, decreaseExponent, shiftToExponent, mantissa_shiftRight,
      mantissa_ofMantissaAndAccuracy, Nat.shiftLeft_eq, Sign.apply]
  rw [hcut, Nat.cast_inj]
  rcases Int.le_total 0 e with hpos | hneg
  · have hleft : (e - 0).toNat = e.toNat := by omega
    have hright : (0 - (e - e.toNat)).toNat = 0 := by omega
    have hvalue : (m * 2 ^ e : ℚ) = (m * 2 ^ e.toNat : Nat) := by
      rw [Nat.cast_mul, Nat.cast_pow, Nat.cast_two, ← zpow_natCast, Int.toNat_of_nonneg hpos]
    rw [hvalue, Nat.floor_natCast, hleft, hright, Nat.pow_zero, Nat.div_one]
  · have hleft : (e - 0).toNat = 0 := by omega
    have hright : (0 - (e - (0 : Nat))).toNat = (-e).toNat := by omega
    have hvalue : (m * 2 ^ e : ℚ) = m / (2 ^ (-e).toNat : Nat) := by
      rw [Nat.cast_pow, Nat.cast_two, ← zpow_natCast, Int.toNat_of_nonneg (by omega), zpow_neg,
        div_inv_eq_mul]
    rw [hvalue, Nat.floor_div_eq_div, hleft, hright, Nat.pow_zero, Nat.mul_one]

theorem le_toUInt64_iff (hx : Holds x a) (hn : n < 2 ^ 64) :
    n ≤ x.toUInt64.toNat ↔ (n : ℚ) ≤ a := by
  obtain ⟨m, e, hm, hx, -, rfl⟩ := hx
  have hcut : x.toUInt64 = UInt64.ofNatClamp ⌊(m * 2 ^ e : ℚ)⌋₊ := by
    rw [toUInt64_eq, hx]
    show UInt64.ofNatClamp (roundToInt .positive m e).toNat = _
    rw [roundToInt_positive, Int.toNat_natCast]
  rw [← Nat.le_floor_iff (by positivity), hcut]
  rcases Nat.lt_or_ge ⌊(m * 2 ^ e : ℚ)⌋₊ UInt64.size with hlt | hge
  · rw [UInt64.toNat_ofNatClamp_of_lt hlt]
  · rw [UInt64.toNat_ofNatClamp_of_le hge]
    exact iff_of_true (Nat.le_pred_of_lt hn) (hn.le.trans hge)

theorem toUInt64_of_infinite (hx : x.toModel.unpack = .infinity .positive) :
    x.toUInt64.toNat = 2 ^ 64 - 1 := by
  rw [toUInt64_eq, hx]
  rfl

/-- What is at least a whole number of 53 bits is cut to at least that number. -/
theorem Rounds.le_toUInt64 (h : Rounds x v) (hpos : 0 < n) (hn : n < 2 ^ 53) (hle : n ≤ v) :
    n ≤ x.toUInt64.toNat := by
  cases h with
  | number a hx hsides =>
    exact (le_toUInt64_iff hx (by omega)).2 (hsides.ge _ (isFull_natCast hpos hn) hle)
  | infinite hx _ =>
    rw [toUInt64_of_infinite hx]
    omega

/-- What is at most a number of 53 bits is cut to less than the next whole number. -/
theorem Rounds.toUInt64_lt (h : Rounds x v) (hr : IsFull r) (hle : v ≤ r) (hlt : r < n)
    (hn : n < 2 ^ 64) : x.toUInt64.toNat < n := by
  cases h with
  | number a hx hsides =>
    exact not_le.1 fun h => ((hsides.le r hr hle).trans_lt hlt).not_ge
      ((le_toUInt64_iff hx hn).1 h)
  | infinite hx hv =>
    have hsmall : (2 ^ (1023 : Int) : ℚ) < 2 ^ (64 : Int) := by
      calc (2 ^ (1023 : Int) : ℚ) ≤ r := hv.trans hle
        _ < n := hlt
        _ < 2 ^ (64 : Int) := by exact_mod_cast hn
    exact absurd ((zpow_lt_zpow_iff_right₀ one_lt_two).1 hsmall) (by decide)

/-! ## The number of a float -/

/-- The number that a float stands for, if there is one. -/
def number? (x : Float) : Option ℚ :=
  value? x.toModel.unpack

theorem number?_ofNat (hn : n < 2 ^ 53) : number? (.ofNat n) = some (n : ℚ) := by
  rcases Nat.eq_zero_or_pos n with rfl | hpos
  · have hzero : (Float.ofNat 0).toModel.unpack = .zero .positive := rfl
    rw [number?, hzero]
    rfl
  · rw [number?, unpack_ofNat hpos hn]
    exact congrArg some (value_filled n (52 - n.log2))

/-- A float that is a natural number is zero, of either sign, or is positive. -/
theorem zero_or_positive_of_number? (hx : number? x = some (n : ℚ)) :
    (n = 0 ∧ ∃ s, x.toModel.unpack = .zero s) ∨
      ∃ m e hm, x.toModel.unpack = .finite .positive m e hm ∧ (n : ℚ) = m * 2 ^ e := by
  rw [number?] at hx
  rcases hunpack : x.toModel.unpack with s | _ | s | ⟨_ | _, m, e, hm⟩
  all_goals simp only [hunpack, value?, Option.some.injEq, reduceCtorEq] at hx
  case zero => exact .inl ⟨by exact_mod_cast hx.symm, s, rfl⟩
  case finite.negative =>
    have hpos : (0 : ℚ) < m * 2 ^ e := by positivity
    have hn : (0 : ℚ) ≤ n := n.cast_nonneg
    linarith
  case finite.positive => exact .inr ⟨m, e, hm, rfl, hx.symm⟩

/-- A float that is a positive whole number has all its bits. -/
theorem holds_of_number? (hx : number? x = some (n : ℚ)) (hn : 0 < n) : Holds x n := by
  obtain ⟨rfl, -⟩ | ⟨m, e, hm, hunpack, hvalue⟩ := zero_or_positive_of_number? hx
  · exact absurd hn (lt_irrefl 0)
  · have hcanonical : Canonical m e := canonical_of_unpack hunpack
    refine ⟨m, e, hm, hunpack, hcanonical.normal.resolve_right fun he => ?_, hvalue⟩
    -- a mantissa of fewer bits comes with the smallest exponent
    have hsmall : (n : ℚ) < 1 := by
      calc (n : ℚ) = m * 2 ^ e := hvalue
        _ < (2 ^ 53 : Nat) * 2 ^ e := by
            gcongr
            exact hcanonical.mantissa_lt
        _ = 2 ^ (-1021 : Int) := by
            rw [he, Nat.cast_pow, Nat.cast_two, ← zpow_natCast, ← zpow_add₀ two_ne_zero]
            rfl
        _ ≤ 1 := zpow_le_one_of_nonpos₀ one_le_two (by decide)
    exact absurd hn (Nat.not_lt.2 (Nat.le_of_lt_succ (by exact_mod_cast hsmall)))

/-- A product in which a number is zero is zero. -/
theorem exists_zero_mul (hx : number? x = some (m : ℚ)) (hy : number? y = some (n : ℚ))
    (h : m * n = 0) : ∃ s, (x * y).toModel.unpack = .zero s := by
  have hproduct {s : Sign}
      (hs : UnpackedFloat.mul .binary64 x.toModel.unpack y.toModel.unpack = .zero s) :
      (x * y).toModel.unpack = .zero s := by
    rw [toModel_mul, hs]
    cases s <;> rfl
  obtain ⟨-, s, hs⟩ | ⟨k, e, hk, hxk, hm⟩ := zero_or_positive_of_number? hx <;>
    obtain ⟨-, t, ht⟩ | ⟨l, u, hl, hyl, hn⟩ := zero_or_positive_of_number? hy
  · exact ⟨s * t, hproduct (by rw [hs, ht]; rfl)⟩
  · exact ⟨s * .positive, hproduct (by rw [hs, hyl]; rfl)⟩
  · exact ⟨.positive * t, hproduct (by rw [hxk, ht]; rfl)⟩
  · -- neither of two positive numbers is zero
    have hpos : (0 : ℚ) < m * n := by
      rw [hm, hn]
      positivity
    exact absurd h (by exact_mod_cast hpos.ne')

end PageScan.Decimal
