import Mathlib.Data.List.DropRight
import PageScan.Text.Blank

/-!
# Trimmed texts

* `trim_trim`: trimming a second time changes nothing.
* `trim_eq_self`: there is nothing to trim off a text without white space.
* `trim_eq_empty_iff`: what is trimmed down to nothing was blank.
* `length_trimEnd_le`: trimming makes no text longer.
-/

namespace PageScan.Text

theorem trimRight_eq (cs : List Char) : trimRight cs = cs.rdropWhile isBlank :=
  rfl

theorem trimLeft_eq_nil_iff {cs : List Char} : trimLeft cs = [] ↔ cs.all isBlank = true := by
  simp [trimLeft, List.dropWhile_eq_nil_iff]

/-- What is trimmed at its start stays so when it is trimmed at its end. -/
theorem trimLeft_trimRight {cs : List Char} (h : trimLeft cs = cs) :
    trimLeft (trimRight cs) = trimRight cs := by
  rcases hcs : trimRight cs with _ | ⟨c, rest⟩
  · rfl
  · obtain ⟨tail, heq⟩ : trimRight cs <+: cs := List.rdropWhile_prefix isBlank cs
    rw [hcs, List.cons_append] at heq
    rw [← heq] at h
    have hc : ¬isBlank c := by
      intro hblank
      have hlength : (trimLeft (rest ++ tail)).length ≤ (rest ++ tail).length :=
        (List.dropWhile_suffix isBlank).length_le
      have hshorter : trimLeft (c :: (rest ++ tail)) = trimLeft (rest ++ tail) := by
        simp [trimLeft, hblank]
      rw [← hshorter, h, List.length_cons] at hlength
      omega
    exact List.dropWhile_cons_of_neg hc

@[simp]
theorem trim_trim (s : String) : trim (trim s) = trim s := by
  have hleft : trimLeft (trimLeft s.toList) = trimLeft s.toList := List.dropWhile_idempotent isBlank s.toList
  have hright (cs : List Char) : trimRight (trimRight cs) = trimRight cs :=
    List.rdropWhile_idempotent _ cs
  simp only [trim, String.toList_ofList, trimLeft_trimRight hleft, hright]

/-- A text without white space stays as it is. -/
theorem trim_eq_self {s : String} (h : ∀ c ∈ s.toList, isBlank c = false) : trim s = s := by
  have hdrop {cs : List Char} (hcs : ∀ c ∈ cs, isBlank c = false) : cs.dropWhile isBlank = cs := by
    cases cs with
    | nil => rfl
    | cons c cs => exact List.dropWhile_cons_of_neg (by simp [hcs c List.mem_cons_self])
  rw [trim, trimLeft, hdrop h, trimRight, hdrop fun c hc => h c (List.mem_reverse.1 hc),
    List.reverse_reverse, String.ofList_toList]

theorem trim_eq_empty_iff {s : String} : trim s = "" ↔ isBlankText s = true := by
  rw [isBlankText, ← trimLeft_eq_nil_iff, trim, String.ofList_eq_empty_iff, trimRight_eq,
    List.rdropWhile_eq_nil_iff]
  constructor
  · intro h
    rcases hcs : trimLeft s.toList with _ | ⟨c, rest⟩
    · rfl
    · have hc := List.head?_dropWhile_not isBlank s.toList
      rw [show s.toList.dropWhile isBlank = c :: rest from hcs] at hc
      have hblank := h c (by simp [hcs])
      simp_all
  · intro h
    simp [h]

theorem length_trimEnd_le (s : String) : (trimEnd s).length ≤ s.length := by
  rw [trimEnd, String.length_ofList, ← String.length_toList, trimRight_eq]
  exact (List.rdropWhile_prefix _ _).length_le

end PageScan.Text
