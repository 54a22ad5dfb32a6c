import Mathlib.Data.List.TakeWhile
import Mathlib.Tactic.IntervalCases
import PageScan.Json.Printer
import PageScan.Json.Numeral

/-!
# Number literals that were written

A number is written as a literal and the literal is valued again. Integers come back as they were;
of a float that can be asked only, since shortest decimals are valued by one rounded operation.

* `scan_append`: the end of a literal is seen by what follows it.
* `readsBack_int`: integers of 64 bits come back.
* `inRange_of_value`: no literal stands for any other integer.
-/

namespace PageScan.Json

/-- A text at whose start no number literal goes on. -/
def Delimited (cs : List Char) : Prop :=
  ∀ c, cs.head? = some c → isDigit c = false ∧ c ≠ '.' ∧ c ≠ 'e' ∧ c ≠ 'E'

@[simp]
theorem delimited_nil : Delimited [] := by
  simp [Delimited]

@[simp]
theorem delimited_cons {c : Char} {cs : List Char} :
    Delimited (c :: cs) ↔ isDigit c = false ∧ c ≠ '.' ∧ c ≠ 'e' ∧ c ≠ 'E' := by
  simp [Delimited]

/-- What is written for a number is one literal, and its value is the number. -/
def Number.ReadsBack (n : Number) : Prop :=
  ∃ l, Numeral.scan n.chars = .ok (l, []) ∧ l.value = .ok n

/-- The integers that a document can hold. -/
def Number.InRange : Number → Prop
  | .int i => -(2 ^ 63) ≤ i ∧ i < 2 ^ 64
  | .float _ => True

namespace Numeral

variable {after cs rest whole : List Char} {n : Numeral} {negative : Bool}

/-! ## The end of a literal -/

theorem takeDigits_append (hafter : Delimited after) (ds : List Char) :
    (ds ++ after).takeWhile isDigit = ds.takeWhile isDigit := by
  induction ds with
  | nil =>
    cases after with
    | nil => rfl
    | cons c cs => simp [(delimited_cons.1 hafter).1]
  | cons d ds ih => simp only [List.cons_append, List.takeWhile_cons, ih]

theorem dropDigits_append (hafter : Delimited after) (ds : List Char) :
    (ds ++ after).dropWhile isDigit = ds.dropWhile isDigit ++ after := by
  induction ds with
  | nil =>
    cases after with
    | nil => rfl
    | cons c cs => simp [(delimited_cons.1 hafter).1]
  | cons d ds ih =>
    simp only [List.cons_append, List.dropWhile_cons, ih]
    split <;> rfl

theorem scanExponent_append {fraction : Option (List Char)} (hafter : Delimited after)
    (h : scanExponent negative whole fraction cs = .ok (n, rest)) :
    scanExponent negative whole fraction (cs ++ after) = .ok (n, rest ++ after) := by
  have digits {minus : Bool} {ds : List Char}
      (h : (if (ds.takeWhile isDigit).isEmpty then .error (shortBreak ds)
        else .ok (⟨negative, whole, fraction, some (minus, ds.takeWhile isDigit)⟩,
          ds.dropWhile isDigit)) = (.ok (n, rest) : Except Break (Numeral × List Char))) :
      (if ((ds ++ after).takeWhile isDigit).isEmpty then .error (shortBreak (ds ++ after))
        else .ok (⟨negative, whole, fraction, some (minus, (ds ++ after).takeWhile isDigit)⟩,
          (ds ++ after).dropWhile isDigit)) =
        (.ok (n, rest ++ after) : Except Break (Numeral × List Char)) := by
    rw [takeDigits_append hafter, dropDigits_append hafter]
    split at h
    · cases h
    · next hdigits =>
      cases h
      rw [if_neg hdigits]
  rcases cs with _ | ⟨c, cs⟩
  · cases h
    rcases after with _ | ⟨c, cs⟩
    · rfl
    · have hc := (delimited_cons.1 hafter).2.2
      simp [scanExponent, hc]
  · by_cases hc : c = 'e' ∨ c = 'E'
    · simp only [scanExponent, List.cons_append, if_pos hc] at h ⊢
      rcases cs with _ | ⟨d, ds⟩
      · simp at h
      · rw [List.cons_append]
        split
        · next heq =>
          cases heq
          exact digits h
        · next heq =>
          cases heq
          exact digits h
        · next hplus hminus =>
          split at h
          · next heq =>
            cases heq
            exact absurd rfl (hplus _)
          · next heq =>
            cases heq
            exact absurd rfl (hminus _)
          · exact digits h
    · simp only [scanExponent, List.cons_append, if_neg hc] at h ⊢
      cases h
      rfl

theorem scanFraction_append (hafter : Delimited after)
    (h : scanFraction negative whole cs = .ok (n, rest)) :
    scanFraction negative whole (cs ++ after) = .ok (n, rest ++ after) := by
  unfold scanFraction at h
  split at h
  · next ds =>
    split at h
    · cases h
    · next hdigits =>
      rw [List.cons_append, scanFraction, takeDigits_append hafter, dropDigits_append hafter,
        if_neg hdigits]
      exact scanExponent_append hafter h
  · next hpoint =>
    have hkept : ∀ ds, cs ++ after ≠ '.' :: ds := by
      rintro ds heq
      rcases cs with _ | ⟨c, cs⟩
      · rw [List.nil_append] at heq
        subst heq
        exact (delimited_cons.1 hafter).2.1 rfl
      · cases heq
        exact hpoint _ rfl
    rw [scanFraction]
    · exact scanExponent_append hafter h
    · exact hkept

theorem scanUnsigned_append (hafter : Delimited after)
    (h : scanUnsigned negative cs = .ok (n, rest)) :
    scanUnsigned negative (cs ++ after) = .ok (n, rest ++ after) := by
  unfold scanUnsigned at h
  split at h
  · cases h
  · split at h
    · split at h
      · cases h
      · next d _ hdigit =>
        rw [List.cons_append, List.cons_append, scanUnsigned, if_neg hdigit]
        exact scanFraction_append hafter h
    · rcases after with _ | ⟨c, after⟩
      · exact scanFraction_append hafter h
      · have hc := (delimited_cons.1 hafter).1
        rw [List.cons_append, List.nil_append, scanUnsigned, if_neg (by simp [hc])]
        exact scanFraction_append hafter h
  · next c tail hzero =>
    split at h
    · next hdigit =>
      rw [List.cons_append, scanUnsigned, if_pos hdigit, takeDigits_append hafter,
        dropDigits_append hafter]
      · exact scanFraction_append hafter h
      · exact hzero
    · cases h

/-- A literal is read alike whatever stands behind it, if no literal could go on there. -/
theorem scan_append (hafter : Delimited after) (h : scan cs = .ok (n, rest)) :
    scan (cs ++ after) = .ok (n, rest ++ after) := by
  unfold scan at h
  split at h
  · exact scanUnsigned_append hafter h
  · next hminus =>
    rcases cs with _ | ⟨c, cs⟩
    · cases h
    · rw [List.cons_append, scan]
      · exact scanUnsigned_append hafter h
      · rintro tail heq
        cases heq
        exact hminus _ rfl

/-- A literal starts with a digit or a sign. -/
theorem exists_of_scan (h : scan cs = .ok (n, rest)) :
    ∃ c tail, cs = c :: tail ∧ (isDigit c = true ∨ c = '-') := by
  unfold scan at h
  split at h
  · exact ⟨_, _, rfl, .inr rfl⟩
  · unfold scanUnsigned at h
    split at h
    · cases h
    · exact ⟨_, _, rfl, .inl rfl⟩
    · split at h
      · next hdigit => exact ⟨_, _, rfl, .inl hdigit⟩
      · cases h

/-! ## Integers -/

theorem le_ofDigitChars (ds : List Char) (m : Nat) : m ≤ Nat.ofDigitChars 10 ds m := by
  induction ds generalizing m with
  | nil => exact Nat.le_refl m
  | cons d ds ih =>
    rw [Nat.ofDigitChars_cons]
    exact Nat.le_trans (by omega) (ih _)

/-- Digits are gathered without loss as long as their number fits. -/
theorem pushAll_eq_ofDigitChars (ds : List Char) (m : Nat)
    (h : Nat.ofDigitChars 10 ds m < 2 ^ 64) :
    Gathered.pushAll ⟨m, 0⟩ ds = ⟨Nat.ofDigitChars 10 ds m, 0⟩ := by
  induction ds generalizing m with
  | nil => rfl
  | cons d ds ih =>
    rw [Nat.ofDigitChars_cons] at h ⊢
    have hfits := Nat.lt_of_le_of_lt (le_ofDigitChars ds _) h
    have hpush : Gathered.push ⟨m, 0⟩ d = ⟨10 * m + (d.toNat - '0'.toNat), 0⟩ := by
      have hnext : m * 10 + digitValue d = 10 * m + (d.toNat - '0'.toNat) := by
        rw [digitValue, Nat.mul_comm]
      simp only [Gathered.push, hnext, true_and]
      exact if_pos hfits
    rw [Gathered.pushAll, List.foldl_cons, hpush]
    exact ih _ h

theorem isDigit_of_mem_toDigits {n : Nat} {c : Char} (h : c ∈ Nat.toDigits 10 n) :
    isDigit c = true :=
  Nat.isDigit_of_mem_toDigits (by decide) (by decide) h

/-- The digits of a positive number do not start with a zero. -/
theorem exists_toDigits {n : Nat} (hn : 0 < n) :
    ∃ d ds, Nat.toDigits 10 n = d :: ds ∧ d ≠ '0' := by
  induction n using Nat.strongRecOn with
  | ind n ih =>
    by_cases hlt : n < 10
    · refine ⟨n.digitChar, [], Nat.toDigits_of_lt_base hlt, ?_⟩
      interval_cases n <;> decide
    · obtain ⟨d, ds, heq, hd⟩ := ih (n / 10) (by omega) (by omega)
      refine ⟨d, ds ++ [(n % 10).digitChar], ?_, hd⟩
      rw [Nat.toDigits_of_base_le (by decide) (by omega), heq, List.cons_append]

theorem scanUnsigned_toDigits (negative : Bool) (n : Nat) :
    scanUnsigned negative (Nat.toDigits 10 n) =
      .ok (⟨negative, Nat.toDigits 10 n, none, none⟩, []) := by
  rcases Nat.eq_zero_or_pos n with rfl | hn
  · rfl
  · obtain ⟨d, ds, heq, hd⟩ := exists_toDigits hn
    have hdigits : ∀ c ∈ d :: ds, isDigit c = true := fun c hc =>
      isDigit_of_mem_toDigits (heq ▸ hc)
    obtain ⟨hfirst, hrest⟩ := List.forall_mem_cons.1 hdigits
    rw [heq, scanUnsigned]
    · rw [if_pos hfirst, List.takeWhile_eq_self_iff.2 hrest, List.dropWhile_eq_nil_iff.2 hrest]
      rfl
    · exact hd

theorem scan_toDigits (n : Nat) :
    scan (Nat.toDigits 10 n) = .ok (⟨false, Nat.toDigits 10 n, none, none⟩, []) := by
  have hminus : ∀ ds, Nat.toDigits 10 n ≠ '-' :: ds := by
    intro ds heq
    have hdigit := isDigit_of_mem_toDigits (n := n) (heq ▸ List.mem_cons_self)
    exact absurd hdigit (by decide)
  rw [scan]
  · exact scanUnsigned_toDigits false n
  · exact hminus

theorem value_toDigits {n : Nat} (hn : n < 2 ^ 64) (negative : Bool) :
    value ⟨negative, Nat.toDigits 10 n, none, none⟩ =
      if ¬negative then .ok (.int n)
      else if 0 < n ∧ n ≤ Nat.pow 2 63 then .ok (.int (-n))
      else .ok (.float (-n.toUInt64.toFloat)) := by
  have hwhole : Gathered.pushAll ⟨0, 0⟩ (Nat.toDigits 10 n) = ⟨n, 0⟩ := by
    rw [pushAll_eq_ofDigitChars _ _ (by rwa [Nat.ofDigitChars_ten_toDigits]),
      Nat.ofDigitChars_ten_toDigits]
  cases negative <;> simp [value, hwhole]

/-! ## What literals stand for -/

theorem significand_push_lt {g : Gathered} (h : g.significand < 2 ^ 64) (c : Char) :
    (g.push c).significand < 2 ^ 64 := by
  simp only [Gathered.push]
  split
  · next hfits => exact hfits.2
  · exact h

theorem significand_pushAll_lt {g : Gathered} (h : g.significand < 2 ^ 64) (ds : List Char) :
    (g.pushAll ds).significand < 2 ^ 64 := by
  induction ds generalizing g with
  | nil => exact h
  | cons d ds ih => exact ih (significand_push_lt h d)

theorem inRange_of_value {x : Number} (h : n.value = .ok x) : x.InRange := by
  have hwhole := significand_pushAll_lt (g := ⟨0, 0⟩) (by decide) n.whole
  unfold value at h
  dsimp only at h
  split at h
  · split at h
    · cases h
      simp only [Number.InRange]
      omega
    · split at h
      · next hrange =>
        cases h
        have hle : (Gathered.pushAll ⟨0, 0⟩ n.whole).significand ≤ 2 ^ 63 := hrange.2
        simp only [Number.InRange]
        omega
      · cases h
        trivial
  · split at h
    · split at h
      · cases h
      · cases h
        trivial
    · cases hscale : scale (Gathered.pushAll ⟨(Gathered.pushAll ⟨0, 0⟩ n.whole).significand, 0⟩
          (n.fraction.getD [])).significand.toUInt64.toFloat _ with
      | error f =>
        rw [hscale] at h
        cases h
      | ok y =>
        rw [hscale] at h
        cases h
        trivial

end Numeral

namespace Number

theorem readsBack_int {i : Int} (h : (Number.int i).InRange) : (Number.int i).ReadsBack := by
  obtain ⟨hlow, hhigh⟩ := h
  have hchars : (Number.int i).chars = (Int.repr i).toList := rfl
  rw [Int.repr_eq_if] at hchars
  split at hchars
  · next hnonneg =>
    rw [Nat.repr_eq_ofList_toDigits, String.toList_ofList] at hchars
    refine ⟨⟨false, Nat.toDigits 10 i.toNat, none, none⟩, ?_, ?_⟩
    · rw [hchars, Numeral.scan_toDigits]
    · rw [Numeral.value_toDigits (by omega), if_pos (by simp), Int.toNat_of_nonneg hnonneg]
  · next hnegative =>
    rw [String.toList_append, Nat.repr_eq_ofList_toDigits] at hchars
    have hrange : 0 < (-i).toNat ∧ (-i).toNat ≤ Nat.pow 2 63 := by
      simp only [Nat.pow_eq]
      omega
    refine ⟨⟨true, Nat.toDigits 10 (-i).toNat, none, none⟩, ?_, ?_⟩
    · simp only [hchars, String.toList_ofList]
      exact Numeral.scanUnsigned_toDigits true _
    · rw [Numeral.value_toDigits (by omega), if_neg (by simp), if_pos hrange]
      congr 2
      omega

theorem ReadsBack.of_nat {n : Nat} (h : n < 2 ^ 64) : (Number.int n).ReadsBack :=
  readsBack_int ⟨by omega, by omega⟩

theorem InRange.readsBack {n : Number} (h : n.InRange)
    (hfloat : ∀ x, n = .float x → (Number.float x).ReadsBack) : n.ReadsBack := by
  cases n with
  | int i => exact readsBack_int h
  | float x => exact hfloat x rfl

/-- What is no finite number does not come back. -/
theorem ReadsBack.isFinite {x : Float} (h : (Number.float x).ReadsBack) : x.isFinite = true := by
  obtain ⟨l, hscan, -⟩ := h
  by_contra hfinite
  rw [Number.chars, if_neg hfinite] at hscan
  cases hscan

end Number

end PageScan.Json
