import PageScan.Proofs.Decimal.Naturals

/-!
# Rounding to 53 bits

Rounding passes no number of 53 bits: what is at most such a number stays at most that number, and
what is at least such a number stays at least that number. So the numbers of 53 bits stay as they
are, and order is kept, and nothing else about rounding is used.

* `KeepsSides`: no number of 53 bits is passed.
* `Leads`: what rounding gets to see of a number.
* `Leads.exists_rounded`: rounding passes no number of 53 bits.
-/

namespace PageScan.Decimal

open Float.Model Float.Model.UnpackedFloat

variable {m n q : Nat} {e t : Int} {acc : Accuracy} {r v : ℚ}

/-! ## Numbers of 53 bits -/

/-- A positive number with a mantissa of 53 bits. -/
def IsFull (r : ℚ) : Prop :=
  ∃ (m : Nat) (e : Int), 2 ^ 52 ≤ m ∧ m < 2 ^ 53 ∧ r = m * 2 ^ e

theorem isFull_natCast (hpos : 0 < n) (hn : n < 2 ^ 53) : IsFull n := by
  obtain ⟨hlo, hhi⟩ := normal_filled hpos hn
  exact ⟨_, _, hlo, hhi, (value_filled n (52 - n.log2)).symm⟩

theorem IsFull.mul_zpow (hr : IsFull r) (k : Int) : IsFull (r * 2 ^ k) := by
  obtain ⟨m, e, hlo, hhi, rfl⟩ := hr
  exact ⟨m, e + k, hlo, hhi, by rw [zpow_add₀ two_ne_zero, mul_assoc]⟩

/-- Below a multiple of a power of two, a number of 53 bits is at most the multiple before, if that
has 53 bits. -/
theorem IsFull.le_of_lt_succ (hr : IsFull r) (hq : 2 ^ 52 ≤ q) (h : r < (q + 1 : Nat) * 2 ^ t) :
    r ≤ q * 2 ^ t := by
  obtain ⟨m, e, -, hhi, rfl⟩ := hr
  rcases lt_or_ge e t with hlt | hge
  · exact (value_lt_of_exponent_lt hhi hq hlt).le
  · -- with a larger exponent it is a multiple itself
    obtain ⟨k, rfl⟩ := Int.le.dest hge
    have hmultiple : (m * 2 ^ (t + k) : ℚ) = (m * 2 ^ k : Nat) * 2 ^ t := by
      rw [zpow_add₀ two_ne_zero, zpow_natCast]
      push_cast
      ring
    have hpow : (0 : ℚ) < 2 ^ t := by positivity
    rw [hmultiple] at h ⊢
    rw [mul_lt_mul_iff_left₀ hpow, Nat.cast_lt] at h
    rw [mul_le_mul_iff_left₀ hpow, Nat.cast_le]
    exact Nat.le_of_lt_succ h

/-! ## Rounding -/

/-- On the way from `v` to `w` no number of 53 bits is passed. -/
structure KeepsSides (v w : ℚ) : Prop where
  le : ∀ r, IsFull r → v ≤ r → w ≤ r
  ge : ∀ r, IsFull r → r ≤ v → r ≤ w

theorem keepsSides_down (hq : 2 ^ 52 ≤ q) (hle : q * 2 ^ t ≤ v) (hlt : v < (q + 1 : Nat) * 2 ^ t) :
    KeepsSides v (q * 2 ^ t) where
  le _ _ h := hle.trans h
  ge _ hr h := hr.le_of_lt_succ hq (h.trans_lt hlt)

theorem keepsSides_up (hq : 2 ^ 52 ≤ q) (hlt : q * 2 ^ t < v) (hle : v < (q + 1 : Nat) * 2 ^ t) :
    KeepsSides v ((q + 1 : Nat) * 2 ^ t) where
  le _ hr h := not_lt.1 fun hbelow => (hlt.trans_le h).not_ge (hr.le_of_lt_succ hq hbelow)
  ge _ _ h := h.trans hle.le

/-- What rounding gets to see of a number: its leading bits, and whether others follow. -/
structure Leads (m : Nat) (e : Int) (acc : Accuracy) (v : ℚ) : Prop where
  le : (m * 2 ^ e : ℚ) ≤ v
  lt : v < (m + 1 : Nat) * 2 ^ e
  exact_of_eq : v = m * 2 ^ e → acc = .exact

theorem leads_exact (m : Nat) (e : Int) : Leads m e .exact (m * 2 ^ e) where
  le := le_rfl
  lt := by
    gcongr
    exact Nat.lt_succ_self m
  exact_of_eq _ := rfl

/-- The whole part of a fraction and what is left of it. -/
theorem leads_div {d : Nat} (hd : 0 < d) (n : Nat) (e : Int) :
    Leads (n / d) e (accuracyOfFraction (n % d) d) (n / d * 2 ^ e) := by
  have hpow : (0 : ℚ) < 2 ^ e := by positivity
  have hd' : (0 : ℚ) < d := Nat.cast_pos.2 hd
  constructor
  · rw [mul_le_mul_iff_left₀ hpow]
    exact Nat.cast_div_le
  · rw [mul_lt_mul_iff_left₀ hpow, div_lt_iff₀' hd', ← Nat.cast_mul, Nat.cast_lt]
    exact Nat.lt_mul_div_succ n hd
  · intro heq
    rw [mul_left_inj' hpow.ne', div_eq_iff hd'.ne', ← Nat.cast_mul, Nat.cast_inj] at heq
    rw [accuracyOfFraction, if_pos]
    exact Nat.mod_eq_zero_of_dvd (Dvd.intro_left _ heq.symm)

theorem mantissa_shiftRight (em : ExtendedMantissa) (k : Nat) :
    (em >>> k).mantissa = em.mantissa / 2 ^ k := by
  show (k.repeat ExtendedMantissa.shiftRightOne em).mantissa = _
  induction k with
  | zero => simp [Nat.repeat]
  | succ k ih =>
    rw [Nat.pow_succ, ← Nat.div_div_eq_div_mul, ← ih]
    rfl

theorem mantissa_ofMantissaAndAccuracy (m : Nat) (acc : Accuracy) :
    (ExtendedMantissa.ofMantissaAndAccuracy m acc).mantissa = m := by
  rcases acc with _ | (_ | _ | _) <;> rfl

theorem roundedMantissa_eq_or (em : ExtendedMantissa) :
    em.roundedMantissa = em.mantissa ∨ em.roundedMantissa = em.mantissa + 1 := by
  rcases em with ⟨m, _ | _, _ | _⟩
  · exact .inl rfl
  · exact .inl rfl
  · have hmod : m % 2 = 0 ∨ m % 2 = 1 := by omega
    simpa [ExtendedMantissa.roundedMantissa, ExtendedMantissa.accuracy,
      Accuracy.roundToNearestEven] using hmod
  · exact .inr rfl

theorem le_log2_of_le (hm : 2 ^ 52 ≤ m) : 52 ≤ m.log2 :=
  (Nat.le_log2 (Nat.ne_of_gt (Nat.lt_of_lt_of_le (by decide) hm))).2 hm

/-- The 53 leading bits of a mantissa that has so many. -/
theorem leading_bits (hm : 2 ^ 52 ≤ m) :
    2 ^ 52 ≤ m / 2 ^ (m.log2 - 52) ∧ m / 2 ^ (m.log2 - 52) < 2 ^ 53 := by
  have hlog : m.log2 = 52 + (m.log2 - 52) := (Nat.add_sub_of_le (le_log2_of_le hm)).symm
  obtain ⟨hle, hlt⟩ := (Nat.log2_eq_iff (by omega)).1 hlog
  rw [Nat.pow_add] at hle
  rw [Nat.add_right_comm, Nat.pow_add] at hlt
  exact ⟨(Nat.le_div_iff_mul_le (Nat.two_pow_pos _)).2 hle,
    (Nat.div_lt_iff_lt_mul (Nat.two_pow_pos _)).2 hlt⟩

theorem shiftToTargetExponent_leading (hm : 2 ^ 52 ≤ m) (hmin : -1074 ≤ e + (m.log2 - 52 : Nat)) :
    shiftToTargetExponent .binary64 m e acc =
      (ExtendedMantissa.ofMantissaAndAccuracy m acc >>> (m.log2 - 52),
        e + (m.log2 - 52 : Nat)) := by
  have hlog : 52 ≤ m.log2 := le_log2_of_le hm
  have hshift : (max ((m.log2 : Int) + e - 52) (-1074) - e).toNat = m.log2 - 52 := by omega
  rw [shiftToTargetExponent, targetExponent_binary64, shiftToExponent, hshift]

/-- A mantissa that rounding up has made a power of two of 54 bits loses the last of its zeros. -/
theorem exists_shiftToTargetExponent (hle : 2 ^ 52 ≤ m) (hge : m ≤ 2 ^ 53) (he : -1074 ≤ e) :
    ∃ (n : Nat) (t : Int),
      shiftToTargetExponent .binary64 m e .exact = (⟨n, false, false⟩, t) ∧
        2 ^ 52 ≤ n ∧ n < 2 ^ 53 ∧ -1074 ≤ t ∧ (n * 2 ^ t : ℚ) = m * 2 ^ e := by
  rcases hge.lt_or_eq with hlt | rfl
  · refine ⟨m, e, ?_, hle, hlt, he, rfl⟩
    simpa using shiftToTargetExponent_exact hle hlt he 0
  · refine ⟨2 ^ 52, e + 1, ?_, le_rfl, by decide, by omega, ?_⟩
    · simpa using shiftToTargetExponent_exact (le_refl (2 ^ 52)) (by decide)
        (show -1074 ≤ e + 1 by omega) 1
    · rw [zpow_add_one₀ two_ne_zero]
      push_cast
      ring

namespace Leads

/-- Bits at the end can be left away. -/
theorem shift (h : Leads m e acc v) (k : Nat) :
    (m / 2 ^ k : Nat) * 2 ^ (e + k) ≤ v ∧ v < (m / 2 ^ k + 1 : Nat) * 2 ^ (e + k) := by
  have hpow : (0 : ℚ) < 2 ^ e := by positivity
  have hscale (n : Nat) : (n * 2 ^ (e + k) : ℚ) = (n * 2 ^ k : Nat) * 2 ^ e := by
    rw [zpow_add₀ two_ne_zero, zpow_natCast]
    push_cast
    ring
  rw [hscale, hscale]
  constructor
  · refine le_trans ?_ h.le
    rw [mul_le_mul_iff_left₀ hpow, Nat.cast_le]
    exact Nat.div_mul_le_self m (2 ^ k)
  · refine h.lt.trans_le ?_
    rw [mul_le_mul_iff_left₀ hpow, Nat.cast_le, Nat.mul_comm]
    exact Nat.lt_mul_div_succ m (Nat.two_pow_pos k)

/-- If the bits that are left away are zeros and none follow, then rounding leaves all as it is. -/
theorem shiftRight_eq (h : Leads m e acc v) {k : Nat} (heq : v = (m / 2 ^ k : Nat) * 2 ^ (e + k)) :
    (ExtendedMantissa.ofMantissaAndAccuracy m acc >>> k) = ⟨m / 2 ^ k, false, false⟩ := by
  have hpow : (0 : ℚ) < 2 ^ e := by positivity
  have hvalue : v = (m / 2 ^ k * 2 ^ k : Nat) * 2 ^ e := by
    rw [heq, zpow_add₀ two_ne_zero, zpow_natCast]
    push_cast
    ring
  have hm : m / 2 ^ k * 2 ^ k = m := by
    refine le_antisymm (Nat.div_mul_le_self m (2 ^ k)) ?_
    rw [← Nat.cast_le (α := ℚ), ← mul_le_mul_iff_left₀ hpow, ← hvalue]
    exact h.le
  have hacc : acc = .exact := h.exact_of_eq (by rw [hvalue, hm])
  rw [hacc]
  calc (ExtendedMantissa.ofMantissaAndAccuracy m .exact >>> k)
      = ExtendedMantissa.mk (m / 2 ^ k * 2 ^ k) false false >>> k := by rw [hm]; rfl
    _ = ⟨m / 2 ^ k, false, false⟩ := shiftRight_exact _ _

/-- Rounding to the bits that are left passes no number of 53 bits, if there are 53 of them. -/
theorem keepsSides (h : Leads m e acc v) {k : Nat} (hq : 2 ^ 52 ≤ m / 2 ^ k) :
    KeepsSides v ((ExtendedMantissa.ofMantissaAndAccuracy m acc >>> k).roundedMantissa *
      2 ^ (e + k)) := by
  obtain ⟨hle, hlt⟩ := h.shift k
  have hmantissa : (ExtendedMantissa.ofMantissaAndAccuracy m acc >>> k).mantissa = m / 2 ^ k := by
    rw [mantissa_shiftRight, mantissa_ofMantissaAndAccuracy]
  rcases hle.eq_or_lt with heq | hbelow
  · rw [h.shiftRight_eq heq.symm]
    exact keepsSides_down hq hle hlt
  · rcases roundedMantissa_eq_or (ExtendedMantissa.ofMantissaAndAccuracy m acc >>> k)
      with hdown | hup
    · rw [hdown, hmantissa]
      exact keepsSides_down hq hle hlt
    · rw [hup, hmantissa]
      exact keepsSides_up hq hbelow hlt

/-- What is not too small has 53 bits above the smallest there is. -/
theorem exponent_le (h : Leads m e acc v) (hm : 2 ^ 52 ≤ m) (hv : 2 ^ (-1022 : Int) ≤ v) :
    -1074 ≤ e + (m.log2 - 52 : Nat) := by
  have hlog : 52 ≤ m.log2 := le_log2_of_le hm
  have hlt : (2 ^ (-1022 : Int) : ℚ) < 2 ^ ((m.log2 + 1 : Nat) + e) := by
    calc (2 ^ (-1022 : Int) : ℚ) ≤ v := hv
      _ < (m + 1 : Nat) * 2 ^ e := h.lt
      _ ≤ (2 ^ (m.log2 + 1) : Nat) * 2 ^ e := by
          gcongr
          exact Nat.lt_log2_self
      _ = 2 ^ ((m.log2 + 1 : Nat) + e) := by
          rw [zpow_add₀ two_ne_zero, zpow_natCast]
          push_cast
          rfl
  rw [zpow_lt_zpow_iff_right₀ one_lt_two] at hlt
  omega

/-- A number that is not too small is rounded to 53 bits and passes no number of 53 bits. -/
theorem exists_rounded (h : Leads m e acc v) (hm : 2 ^ 52 ≤ m) (hv : 2 ^ (-1022 : Int) ≤ v)
    (s : Sign) :
    ∃ (n : Nat) (t : Int) (hn : 0 < n), roundWithAccuracy .binary64 s m e acc = .finite s n t hn ∧
      2 ^ 52 ≤ n ∧ n < 2 ^ 53 ∧ -1074 ≤ t ∧ KeepsSides v (n * 2 ^ t) := by
  have hmin : -1074 ≤ e + (m.log2 - 52 : Nat) := h.exponent_le hm hv
  obtain ⟨hlo, hhi⟩ := leading_bits hm
  have hsides := h.keepsSides hlo
  have hfirst : shiftToTargetExponent .binary64 m e acc = _ :=
    shiftToTargetExponent_leading hm hmin
  set em := ExtendedMantissa.ofMantissaAndAccuracy m acc >>> (m.log2 - 52) with hem
  have hmantissa : em.mantissa = m / 2 ^ (m.log2 - 52) := by
    rw [hem, mantissa_shiftRight, mantissa_ofMantissaAndAccuracy]
  obtain ⟨hle, hge⟩ : 2 ^ 52 ≤ em.roundedMantissa ∧ em.roundedMantissa ≤ 2 ^ 53 := by
    have := roundedMantissa_eq_or em
    omega
  obtain ⟨n, t, hsecond, hnlo, hnhi, ht, hvalue⟩ := exists_shiftToTargetExponent hle hge hmin
  refine ⟨n, t, by omega, ?_, hnlo, hnhi, ht, hvalue ▸ hsides⟩
  simp only [roundWithAccuracy, hfirst, hsecond]
  rw [dif_neg (by omega)]

end Leads

end PageScan.Decimal
