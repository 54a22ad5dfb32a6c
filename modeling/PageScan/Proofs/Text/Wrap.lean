import Mathlib
import PageScan.Text.Wrap

/-!
# Wrapped texts

* `flatten_pieces`, `length_le_of_mem_pieces`: a word is cut into pieces that fit a line, and
  nothing of it is lost.
* `words_eq_singleton`: a text without white space is one word.
* `sum_length_words_le`, `length_le_mul_length_wrap`: no line holds more than its width.
-/

namespace PageScan.Text

theorem wordsFrom_of_not_blank {word cs : List Char} (h : ∀ c ∈ cs, isBlank c = false)
    (hsome : word ≠ [] ∨ cs ≠ []) : wordsFrom word cs = [word.reverse ++ cs] := by
  induction cs generalizing word with
  | nil => simp_all [wordsFrom]
  | cons c cs ih =>
    obtain ⟨hc, hcs⟩ := List.forall_mem_cons.1 h
    simp [wordsFrom, hc, ih hcs]

/-- A text without white space is one word. -/
theorem words_eq_singleton {s : String} (h : ∀ c ∈ s.toList, isBlank c = false) (hs : s ≠ "") :
    words s = [s.toList] :=
  wordsFrom_of_not_blank h (.inr (by simpa using hs))

namespace Wrap

/-- The pieces of a word make up the word. -/
theorem flatten_pieces (width : Nat) (word : List Char) : (pieces width word).flatten = word := by
  fun_induction pieces width word with
  | case1 word h ih => rw [List.flatten_cons, ih, List.take_append_drop]
  | case2 word h => simp

theorem length_le_of_mem_pieces {width : Nat} {word piece : List Char} (hwidth : 0 < width)
    (hpiece : piece ∈ pieces width word) : piece.length ≤ width := by
  fun_induction pieces width word with
  | case1 word h ih =>
    rcases List.mem_cons.1 hpiece with rfl | hrest
    · exact List.length_take_le _ _
    · exact ih hrest
  | case2 word h =>
    rw [List.mem_singleton.1 hpiece]
    omega

/-- Pieces that are gathered into lines take up no more than the lines hold. -/
theorem sum_length_le_fill {width : Nat} {line : List Char} {rest : List (List Char)}
    (hline : line.length ≤ width) (hrest : ∀ piece ∈ rest, piece.length ≤ width) :
    line.length + (rest.map List.length).sum ≤ width * (fill width line rest).length := by
  fun_induction fill width line rest with
  | case1 line => simpa using hline
  | case2 line piece rest hfits ih =>
    have hsum := ih (by simp only [List.length_append, List.length_cons]; omega)
      fun p hp => hrest p (List.mem_cons_of_mem _ hp)
    simp only [List.length_append, List.length_cons] at hsum
    simp only [List.map_cons, List.sum_cons]
    omega
  | case3 line piece rest hfull ih =>
    obtain ⟨hpiece, hothers⟩ := List.forall_mem_cons.1 hrest
    have hsum := ih hpiece hothers
    rw [List.map_cons, List.sum_cons, List.length_cons, Nat.mul_succ]
    omega

theorem sum_length_le_gather {width : Nat} {rest : List (List Char)}
    (hrest : ∀ piece ∈ rest, piece.length ≤ width) :
    (rest.map List.length).sum ≤ width * (gather width rest).length := by
  cases rest with
  | nil => exact Nat.zero_le _
  | cons piece rest =>
    obtain ⟨hpiece, hothers⟩ := List.forall_mem_cons.1 hrest
    exact sum_length_le_fill hpiece hothers

/-- The characters of the words of a text take up no more than its lines hold. -/
theorem sum_length_words_le {width : Nat} (hwidth : 0 < width) (text : String) :
    ((words text).map List.length).sum ≤ width * (wrap width text).length := by
  have hpieces : ∀ piece ∈ (words text).flatMap (pieces width), piece.length ≤ width := by
    intro piece hpiece
    obtain ⟨word, -, hword⟩ := List.mem_flatMap.1 hpiece
    exact length_le_of_mem_pieces hwidth hword
  have hflat : ((words text).flatMap (pieces width)).flatten = (words text).flatten := by
    induction words text with
    | nil => rfl
    | cons word rest ih =>
      rw [List.flatMap_cons, List.flatten_append, flatten_pieces, ih, List.flatten_cons]
  calc
    ((words text).map List.length).sum
        = (((words text).flatMap (pieces width)).map List.length).sum := by
          rw [← List.length_flatten, ← List.length_flatten, hflat]
    _ ≤ width * (gather width ((words text).flatMap (pieces width))).length :=
        sum_length_le_gather hpieces
    _ = width * (wrap width text).length := by rw [wrap, List.length_map]

/-- A text without white space takes up as many lines as its length needs. -/
theorem length_le_mul_length_wrap {width : Nat} (hwidth : 0 < width) {text : String}
    (h : ∀ c ∈ text.toList, isBlank c = false) :
    text.length ≤ width * (wrap width text).length := by
  by_cases hempty : text = ""
  · rw [hempty]
    exact Nat.zero_le _
  · have hle := sum_length_words_le hwidth text
    rwa [words_eq_singleton h hempty, List.map_singleton, List.sum_singleton,
      String.length_toList] at hle

end Wrap

end PageScan.Text
