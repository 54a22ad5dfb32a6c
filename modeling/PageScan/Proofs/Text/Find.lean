import Mathlib.Data.List.Infix
import PageScan.Text.Find

/-!
# Searching a text

* `stripLead?_eq_some_iff`, `splitOnce?_eq_some`: what is left of a text without a part.
* `splitOnce?_of_not_mem`: a part is found where it was put.
* `contains_iff`: a part is found exactly if it stands somewhere in the text.
* `intercalate_pieces`: the pieces between points, with the points put back, are the text.
-/

namespace PageScan.Text

theorem stripLead?_eq_some_iff {lead text rest : List Char} :
    stripLead? lead text = some rest ↔ text = lead ++ rest := by
  induction lead generalizing text with
  | nil => simp [stripLead?]
  | cons p ps ih =>
    rcases text with _ | ⟨c, cs⟩
    · simp [stripLead?]
    · by_cases h : p = c
      · simp [stripLead?, h, ih]
      · simp [stripLead?, h, Ne.symm h]

theorem stripLead?_eq_none_iff {lead text : List Char} :
    stripLead? lead text = none ↔ ¬lead <+: text := by
  rw [Option.eq_none_iff_forall_ne_some]
  refine ⟨fun h ⟨rest, hrest⟩ => h rest (stripLead?_eq_some_iff.2 hrest.symm),
    fun h rest hrest => ?_⟩
  exact h ⟨rest, (stripLead?_eq_some_iff.1 hrest).symm⟩

theorem splitOnce?_eq_some {sep text before after : List Char}
    (h : splitOnce? sep text = some (before, after)) : text = before ++ (sep ++ after) := by
  induction text generalizing before with
  | nil =>
    rw [splitOnce?] at h
    split_ifs at h with hsep
    cases h
    rw [List.isEmpty_iff.1 hsep]
    rfl
  | cons c cs ih =>
    rw [splitOnce?] at h
    split at h
    · next rest hlead =>
      cases h
      show c :: cs = sep ++ after
      exact stripLead?_eq_some_iff.1 hlead
    · obtain ⟨⟨before, after⟩, hrest, heq⟩ := Option.map_eq_some_iff.1 h
      cases heq
      exact congrArg (c :: ·) (ih hrest)

/-- A part is found at once if what stands before it does not hold its first character. -/
theorem splitOnce?_of_not_mem {p : Char} {ps before : List Char} (h : p ∉ before)
    (after : List Char) :
    splitOnce? (p :: ps) (before ++ (p :: ps ++ after)) = some (before, after) := by
  induction before with
  | nil =>
    have hlead : stripLead? (p :: ps) (p :: (ps ++ after)) = some after :=
      stripLead?_eq_some_iff.2 rfl
    rw [List.nil_append, List.cons_append, splitOnce?, hlead]
  | cons c cs ih =>
    obtain ⟨hne, hcs⟩ := not_or.1 (mt List.mem_cons.2 h)
    rw [List.cons_append, splitOnce?, stripLead?, if_neg hne, ih hcs]
    rfl

theorem contains_iff {part text : List Char} : contains part text = true ↔ part <:+: text := by
  rw [contains]
  induction text with
  | nil => cases part <;> simp [splitOnce?]
  | cons c cs ih =>
    rw [splitOnce?, List.infix_cons_iff]
    rcases hlead : stripLead? part (c :: cs) with _ | rest
    · have hstart : ¬part <+: c :: cs := by
        rintro ⟨rest, hrest⟩
        rw [stripLead?_eq_some_iff.2 hrest.symm] at hlead
        cases hlead
      simp [ih, hstart]
    · have hstart : part <+: c :: cs := ⟨rest, (stripLead?_eq_some_iff.1 hlead).symm⟩
      simp [hstart]

theorem mem_splitAt {p : Char → Bool} {piece cs part : List Char} {c : Char}
    (hpart : part ∈ splitAt p piece cs) (hc : c ∈ part) : c ∈ piece ∨ c ∈ cs := by
  induction cs generalizing piece with
  | nil =>
    obtain rfl := List.mem_singleton.1 hpart
    exact .inl (List.mem_reverse.1 hc)
  | cons d ds ih =>
    rw [splitAt] at hpart
    split at hpart
    · rcases List.mem_cons.1 hpart with rfl | hpart
      · exact .inl (List.mem_reverse.1 hc)
      · exact .inr (.tail d ((ih hpart).resolve_left List.not_mem_nil))
    · rcases ih hpart with h | h
      · rcases List.mem_cons.1 h with rfl | h
        · exact .inr (.head ds)
        · exact .inl h
      · exact .inr (.tail d h)

/-- A piece of a text holds none but its characters. -/
theorem mem_of_mem_pieces {p : Char → Bool} {cs part : List Char} {c : Char}
    (hpart : part ∈ pieces p cs) (hc : c ∈ part) : c ∈ cs :=
  (mem_splitAt hpart hc).resolve_left List.not_mem_nil

theorem splitAt_ne_nil (p : Char → Bool) (piece cs : List Char) : splitAt p piece cs ≠ [] := by
  cases cs with
  | nil => exact List.cons_ne_nil _ _
  | cons c cs =>
    rw [splitAt]
    split
    · exact List.cons_ne_nil _ _
    · exact splitAt_ne_nil p (c :: piece) cs

theorem intercalate_splitAt (sep : Char) (piece cs : List Char) :
    [sep].intercalate (splitAt (· = sep) piece cs) = piece.reverse ++ cs := by
  induction cs generalizing piece with
  | nil => simp [splitAt]
  | cons c cs ih =>
    by_cases h : c = sep
    · obtain ⟨next, rest, hrest⟩ := List.exists_cons_of_ne_nil (splitAt_ne_nil (· = sep) [] cs)
      have ih := ih []
      simp only [hrest] at ih
      simp [splitAt, h, hrest, List.intercalate_cons_cons, ih]
    · simp [splitAt, h, ih]

theorem intercalate_pieces (sep : Char) (cs : List Char) :
    [sep].intercalate (pieces (· = sep) cs) = cs :=
  intercalate_splitAt sep [] cs

end PageScan.Text
