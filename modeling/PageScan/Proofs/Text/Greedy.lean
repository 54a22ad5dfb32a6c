import Mathlib
import PageScan.Text.Wrap

/-!
# Greedy wrapping

What the lines of a wrapped text are, said without the way they are found.

* `IsWords`: the words of a text. `IsCut`: the pieces of a word that is cut to a width. `Greedy`:
  pieces in groups, one for each line, none of which has room for the piece that comes after it.
* `Greedy.gather_eq`, `exists_greedy`: there is one such grouping, and it is the one that is found.
* `wrap_isWrapping`: the lines of a text are its only greedy wrapping, and wrapping them again
  changes nothing.
-/

namespace PageScan.Text

/-! ## Words -/

/-- The words of a text are its longest stretches without white space, in order. -/
inductive IsWords : List Char → List (List Char) → Prop
  | nil : IsWords [] []
  | blank {c : Char} {cs : List Char} {ws : List (List Char)} (hc : isBlank c = true)
      (h : IsWords cs ws) : IsWords (c :: cs) ws
  | word {word cs : List Char} {ws : List (List Char)} (hne : word ≠ [])
      (hword : ∀ c ∈ word, isBlank c = false) (hend : ∀ c ∈ cs.head?, isBlank c = true)
      (h : IsWords cs ws) : IsWords (word ++ cs) (word :: ws)

variable {word cs : List Char} {ws : List (List Char)}

/-- The word in progress is read backwards. -/
theorem isWords_wordsFrom (hword : ∀ c ∈ word, isBlank c = false) :
    IsWords (word.reverse ++ cs) (wordsFrom word cs) := by
  have hend {word cs : List Char} {ws : List (List Char)} (hne : word ≠ [])
      (hword : ∀ c ∈ word, isBlank c = false) (hcs : ∀ c ∈ cs.head?, isBlank c = true)
      (h : IsWords cs ws) : IsWords (word.reverse ++ cs) (word.reverse :: ws) :=
    .word (by simpa using hne) (by simpa using hword) hcs h
  induction cs generalizing word with
  | nil =>
    cases word with
    | nil => exact .nil
    | cons c word => exact hend (by simp) hword (by simp) .nil
  | cons c cs ih =>
    cases hc : isBlank c with
    | true =>
      have hrest : IsWords (c :: cs) (wordsFrom [] cs) := .blank hc (ih (List.forall_mem_nil _))
      cases word with
      | nil => simpa [wordsFrom, hc] using hrest
      | cons d word => simpa [wordsFrom, hc] using hend (by simp) hword (by simp [hc]) hrest
    | false =>
      have hmore : ∀ d ∈ c :: word, isBlank d = false := List.forall_mem_cons.2 ⟨hc, hword⟩
      simpa [wordsFrom, hc] using ih hmore

theorem wordsFrom_append (hword : ∀ c ∈ word, isBlank c = false) (done : List Char) :
    wordsFrom done (word ++ cs) = wordsFrom (word.reverse ++ done) cs := by
  induction word generalizing done with
  | nil => rfl
  | cons c word ih =>
    obtain ⟨hc, hword⟩ := List.forall_mem_cons.1 hword
    simp [wordsFrom, hc, ih hword]

theorem wordsFrom_of_end (hne : word ≠ []) (hend : ∀ c ∈ cs.head?, isBlank c = true) :
    wordsFrom word cs = word.reverse :: wordsFrom [] cs := by
  cases cs with
  | nil => simp [wordsFrom, hne]
  | cons c cs => simp [wordsFrom, hne, hend c rfl]

theorem IsWords.wordsFrom_eq (h : IsWords cs ws) : wordsFrom [] cs = ws := by
  induction h with
  | nil => rfl
  | blank hc h ih => simp [wordsFrom, hc, ih]
  | word hne hword hend h ih =>
    rw [wordsFrom_append hword, List.append_nil, wordsFrom_of_end (by simpa using hne) hend,
      List.reverse_reverse, ih]

theorem isWords_iff {text : String} : IsWords text.toList ws ↔ ws = words text := by
  constructor
  · intro h
    exact h.wordsFrom_eq.symm
  · rintro rfl
    exact isWords_wordsFrom (List.forall_mem_nil _)

theorem IsWords.ne_nil (h : IsWords cs ws) : ∀ w ∈ ws, w ≠ [] := by
  induction h with
  | nil => simp
  | blank _ _ ih => exact ih
  | word hne _ _ _ ih => exact List.forall_mem_cons.2 ⟨hne, ih⟩

theorem IsWords.not_blank (h : IsWords cs ws) : ∀ w ∈ ws, ∀ c ∈ w, isBlank c = false := by
  induction h with
  | nil => simp
  | blank _ _ ih => exact ih
  | word _ hword _ _ ih => exact List.forall_mem_cons.2 ⟨hword, ih⟩

/-- Words with single spaces between them are the words of what they make up. -/
theorem isWords_intercalate (hne : ∀ w ∈ ws, w ≠ [])
    (hblank : ∀ w ∈ ws, ∀ c ∈ w, isBlank c = false) : IsWords ([' '].intercalate ws) ws := by
  induction ws with
  | nil => exact .nil
  | cons w ws ih =>
    obtain ⟨hw, hne⟩ := List.forall_mem_cons.1 hne
    obtain ⟨hwblank, hblank⟩ := List.forall_mem_cons.1 hblank
    cases ws with
    | nil =>
      have hlast : IsWords (w ++ []) [w] := .word hw hwblank (by simp) .nil
      rw [List.intercalate_singleton]
      rwa [List.append_nil] at hlast
    | cons w' ws =>
      have hspace : isBlank ' ' = true := by decide
      rw [List.intercalate_cons_cons, List.append_assoc]
      exact .word hw hwblank (by simp [hspace]) (.blank hspace (ih hne hblank))

namespace Wrap

variable {width : Nat} {ps : List (List Char)}

/-! ## Pieces -/

/-- Consecutive pieces of a word. All but the last fill a line, and the last fits one. -/
inductive IsCut (width : Nat) : List Char → List (List Char) → Prop
  | last {word : List Char} (hne : word ≠ []) (hfits : word.length ≤ width) :
      IsCut width word [word]
  | full {piece rest : List Char} {ps : List (List Char)} (hpiece : piece.length = width)
      (h : IsCut width rest ps) : IsCut width (piece ++ rest) (piece :: ps)

theorem isCut_pieces (hne : word ≠ []) (hwidth : 0 < width) :
    IsCut width word (pieces width word) := by
  fun_induction pieces width word with
  | case1 word h ih =>
    have hrest : word.drop width ≠ [] := by
      rw [ne_eq, List.drop_eq_nil_iff]
      omega
    have hcut := IsCut.full (List.length_take_of_le h.2.le) (ih hrest)
    rwa [List.take_append_drop] at hcut
  | case2 word h => exact .last hne (by omega)

theorem IsCut.eq_pieces (hwidth : 0 < width) (h : IsCut width word ps) :
    ps = pieces width word := by
  induction h with
  | last hne hfits => rw [pieces, if_neg (by omega)]
  | @full piece rest ps hpiece h ih =>
    have hrest : 0 < rest.length := by
      cases h with
      | last hne => exact List.length_pos_iff.2 hne
      | full hpiece =>
        rw [List.length_append]
        omega
    have hlong : 0 < width ∧ width < (piece ++ rest).length := by
      rw [List.length_append]
      omega
    rw [pieces, if_pos hlong, List.take_left' hpiece, List.drop_left' hpiece, ih]

theorem IsCut.mem (hwidth : 0 < width) (h : IsCut width word ps) {p : List Char} (hp : p ∈ ps) :
    p ≠ [] ∧ p.length ≤ width ∧ p ⊆ word := by
  induction h with
  | last hne hfits =>
    rw [List.mem_singleton.1 hp]
    exact ⟨hne, hfits, List.Subset.refl _⟩
  | @full piece rest ps hpiece h ih =>
    rcases List.mem_cons.1 hp with rfl | hp
    · have hpos : 0 < p.length := by omega
      exact ⟨List.length_pos_iff.1 hpos, hpiece.le, List.subset_append_left ..⟩
    · obtain ⟨hne, hle, hsub⟩ := ih hp
      exact ⟨hne, hle, List.subset_append_of_subset_right _ hsub⟩

/-! ## Lines -/

/-- A line of pieces, with single spaces between them. -/
def joined (ps : List (List Char)) : List Char :=
  [' '].intercalate ps

/-- Pieces in groups, each of which makes a line. The first piece of the next line does not fit on
it any more. -/
structure Greedy (width : Nat) (ps : List (List Char)) (groups : List (List (List Char))) :
    Prop where
  flatten_eq : groups.flatten = ps
  ne_nil : ∀ g ∈ groups, g ≠ []
  fits : ∀ g ∈ groups, (joined g).length ≤ width
  full : groups.IsChain fun g next => ∀ p ∈ next.head?, width < (joined g).length + 1 + p.length

variable {g rest : List (List Char)} {groups : List (List (List Char))}

@[simp]
theorem joined_singleton (p : List Char) : joined [p] = p :=
  List.intercalate_singleton

theorem joined_append (hg : g ≠ []) (hrest : rest ≠ []) :
    joined (g ++ rest) = joined g ++ ' ' :: joined rest := by
  induction g with
  | nil => exact absurd rfl hg
  | cons p g ih =>
    cases g with
    | nil =>
      obtain ⟨q, rest, rfl⟩ := List.exists_cons_of_ne_nil hrest
      simp [joined, List.intercalate_cons_cons]
    | cons q g =>
      have htail := ih (by simp)
      simp only [joined, List.cons_append, List.intercalate_cons_cons, List.append_assoc] at htail ⊢
      rw [htail]

theorem joined_concat (hg : g ≠ []) (p : List Char) : joined (g ++ [p]) = joined g ++ ' ' :: p := by
  rw [joined_append hg (by simp), joined_singleton]

theorem length_joined_le (g rest : List (List Char)) :
    (joined g).length ≤ (joined (g ++ rest)).length := by
  by_cases hg : g = []
  · simp [hg, joined]
  by_cases hrest : rest = []
  · simp [hrest]
  · rw [joined_append hg hrest, List.length_append]
    exact Nat.le_add_right ..

theorem joined_flatten (hne : ∀ g ∈ groups, g ≠ []) :
    joined (groups.map joined) = joined groups.flatten := by
  induction groups with
  | nil => rfl
  | cons g groups ih =>
    obtain ⟨hg, hne⟩ := List.forall_mem_cons.1 hne
    cases groups with
    | nil => simp [joined]
    | cons g' groups =>
      have hflat : (g' :: groups).flatten ≠ [] := by
        simp [hne g' List.mem_cons_self]
      rw [List.flatten_cons, joined_append hg hflat, ← ih hne]
      simp [joined, List.intercalate_cons_cons]

/-- Pieces are added to a line up to the end of its group. -/
theorem fill_joined (hg : g ≠ []) (hfits : (joined (g ++ rest)).length ≤ width)
    (hne : ∀ next ∈ groups, next ≠ [])
    (hfull : ∀ next ∈ groups.head?, ∀ p ∈ next.head?,
      width < (joined (g ++ rest)).length + 1 + p.length) :
    fill width (joined g) (rest ++ groups.flatten) =
      joined (g ++ rest) :: gather width groups.flatten := by
  induction rest generalizing g with
  | nil =>
    rw [List.append_nil] at hfull ⊢
    cases groups with
    | nil => rfl
    | cons next groups =>
      obtain ⟨p, next, rfl⟩ := List.exists_cons_of_ne_nil (hne next List.mem_cons_self)
      have hnot := hfull _ rfl p rfl
      rw [List.nil_append, List.flatten_cons, List.cons_append, fill, if_neg (by omega), gather]
  | cons p rest ih =>
    have hassoc : g ++ p :: rest = g ++ [p] ++ rest := by simp
    rw [hassoc] at hfits hfull ⊢
    have hroom : (joined g).length + 1 + p.length ≤ width := by
      have hline := (length_joined_le (g ++ [p]) rest).trans hfits
      rw [joined_concat hg, List.length_append, List.length_cons] at hline
      omega
    rw [List.cons_append, fill, if_pos hroom, ← joined_concat hg, ih (by simp) hfits hfull]

theorem Greedy.gather_eq (h : Greedy width ps groups) : gather width ps = groups.map joined := by
  obtain ⟨rfl, hne, hfits, hfull⟩ := h
  induction groups with
  | nil => rfl
  | cons g groups ih =>
    obtain ⟨hg, hne'⟩ := List.forall_mem_cons.1 hne
    obtain ⟨hgfits, hfits'⟩ := List.forall_mem_cons.1 hfits
    obtain ⟨hgfull, hfull'⟩ := List.isChain_cons.1 hfull
    rw [List.map_cons, ← ih hne' hfits' hfull', List.flatten_cons]
    cases g with
    | nil => exact absurd rfl hg
    | cons p rest =>
      have hline := fill_joined (g := [p]) (by simp) hgfits hne' hgfull
      rwa [joined_singleton] at hline

/-- The first piece of the first line is the first piece of all. -/
theorem head_eq_of_flatten {p q : List Char} {next : List (List Char)}
    (hflat : groups.flatten = p :: rest) (hnext : next ∈ groups.head?) (hq : q ∈ next.head?) :
    q = p := by
  obtain ⟨groups, rfl⟩ := List.head?_eq_some_iff.1 hnext
  obtain ⟨next, rfl⟩ := List.head?_eq_some_iff.1 hq
  exact (List.cons.inj hflat).1

theorem exists_greedy_append (hg : g ≠ []) (hfits : (joined g).length ≤ width)
    (hrest : ∀ p ∈ rest, p.length ≤ width) : ∃ groups, Greedy width (g ++ rest) groups := by
  induction rest generalizing g with
  | nil =>
    refine ⟨[g], by simp, ?_, ?_, .singleton _⟩
    · exact List.forall_mem_singleton.2 hg
    · exact List.forall_mem_singleton.2 hfits
  | cons p rest ih =>
    obtain ⟨hp, hrest⟩ := List.forall_mem_cons.1 hrest
    by_cases hroom : (joined g).length + 1 + p.length ≤ width
    · have hmore : (joined (g ++ [p])).length ≤ width := by
        rw [joined_concat hg, List.length_append, List.length_cons]
        omega
      simpa using ih (g := g ++ [p]) (by simp) hmore hrest
    · obtain ⟨groups, hflat, hne, hfits', hfull⟩ :=
        ih (g := [p]) (by simp) (by simpa using hp) hrest
      refine ⟨g :: groups, by simp [hflat], List.forall_mem_cons.2 ⟨hg, hne⟩,
        List.forall_mem_cons.2 ⟨hfits, hfits'⟩, List.isChain_cons.2 ⟨?_, hfull⟩⟩
      -- The next line begins with the piece for which there was no room.
      intro next hnext q hq
      obtain rfl : q = p := head_eq_of_flatten hflat hnext hq
      omega

theorem exists_greedy (hps : ∀ p ∈ ps, p.length ≤ width) : ∃ groups, Greedy width ps groups := by
  cases ps with
  | nil => exact ⟨[], rfl, by simp, by simp, .nil⟩
  | cons p ps =>
    obtain ⟨hp, hps⟩ := List.forall_mem_cons.1 hps
    exact exists_greedy_append (g := [p]) (by simp) (by simpa using hp) hps

/-! ## Texts -/

/-- The lines are a greedy wrapping of the text: its words are cut into pieces that fit a line, and
each line takes as many of them as fit. -/
def IsWrapping (width : Nat) (text : String) (lines : List String) : Prop :=
  ∃ ws pss groups, IsWords text.toList ws ∧ List.Forall₂ (IsCut width) ws pss ∧
    Greedy width pss.flatten groups ∧ lines = groups.map fun g => String.ofList (joined g)

theorem IsCut.all_eq_pieces {pss : List (List (List Char))} (hwidth : 0 < width)
    (h : List.Forall₂ (IsCut width) ws pss) : pss = ws.map (pieces width) := by
  induction h with
  | nil => rfl
  | cons hcut _ ih => rw [List.map_cons, ← hcut.eq_pieces hwidth, ← ih]

/-- The pieces of the words of a text are words that fit a line. -/
theorem fits_of_mem_pieces (hwidth : 0 < width) (hwords : IsWords cs ws) {p : List Char}
    (hp : p ∈ (ws.map (pieces width)).flatten) :
    p ≠ [] ∧ p.length ≤ width ∧ ∀ c ∈ p, isBlank c = false := by
  obtain ⟨w, hw, hp⟩ := List.mem_flatMap.1 (List.flatMap_def ▸ hp)
  obtain ⟨hne, hle, hsub⟩ := (isCut_pieces (hwords.ne_nil w hw) hwidth).mem hwidth hp
  exact ⟨hne, hle, fun c hc => hwords.not_blank w hw c (hsub hc)⟩

theorem isWrapping_wrap (hwidth : 0 < width) (text : String) :
    IsWrapping width text (wrap width text) := by
  have hwords : IsWords text.toList (words text) := isWords_iff.2 rfl
  have hcut : ∀ w ∈ words text, IsCut width w (pieces width w) := fun w hw =>
    isCut_pieces (hwords.ne_nil w hw) hwidth
  obtain ⟨groups, hgroups⟩ := exists_greedy fun p hp =>
    (fits_of_mem_pieces hwidth hwords hp).2.1
  refine ⟨_, _, groups, hwords, List.forall₂_map_right_iff.2 (List.forall₂_same.2 hcut), hgroups, ?_⟩
  rw [wrap, List.flatMap_def, hgroups.gather_eq, List.map_map]
  rfl

theorem IsWrapping.eq_wrap {text : String} {lines : List String} (hwidth : 0 < width)
    (h : IsWrapping width text lines) : lines = wrap width text := by
  obtain ⟨ws, pss, groups, hwords, hcut, hgroups, rfl⟩ := h
  rw [wrap, ← isWords_iff.1 hwords, List.flatMap_def, ← IsCut.all_eq_pieces hwidth hcut,
    hgroups.gather_eq, List.map_map]
  rfl

/-- The lines of a wrapped text make up a text of which they are a wrapping, too: its words are the
pieces. -/
theorem IsWrapping.again {text : String} {lines : List String} (hwidth : 0 < width)
    (h : IsWrapping width text lines) : IsWrapping width (" ".intercalate lines) lines := by
  obtain ⟨ws, pss, groups, hwords, hcut, hgroups, rfl⟩ := h
  obtain rfl := IsCut.all_eq_pieces hwidth hcut
  have hpieces : ∀ p ∈ (ws.map (pieces width)).flatten,
      p ≠ [] ∧ p.length ≤ width ∧ ∀ c ∈ p, isBlank c = false := fun p hp =>
    fits_of_mem_pieces hwidth hwords hp
  refine ⟨(ws.map (pieces width)).flatten, (ws.map (pieces width)).flatten.map fun p => [p], groups,
    ?_, ?_, ?_, rfl⟩
  · have htext : (" ".intercalate (groups.map fun g => String.ofList (joined g))).toList =
        joined (ws.map (pieces width)).flatten := by
      have hlines : (groups.map fun g => String.ofList (joined g)).map String.toList =
          groups.map joined := by
        simp
      rw [String.toList_intercalate, hlines, ← hgroups.flatten_eq, ← joined_flatten hgroups.ne_nil]
      rfl
    rw [htext]
    exact isWords_intercalate (fun p hp => (hpieces p hp).1) fun p hp => (hpieces p hp).2.2
  · refine List.forall₂_map_right_iff.2 (List.forall₂_same.2 fun p hp => ?_)
    exact .last (hpieces p hp).1 (hpieces p hp).2.1
  · rwa [← List.flatMap_def, List.flatMap_singleton']

/-- A text has one greedy wrapping, which `wrap` finds; and what has been wrapped stays as it is
when it is wrapped again. -/
theorem wrap_isWrapping (hwidth : 0 < width) (text : String) :
    (∀ lines, IsWrapping width text lines ↔ lines = wrap width text) ∧
      wrap width (" ".intercalate (wrap width text)) = wrap width text := by
  have hwrap := isWrapping_wrap hwidth text
  refine ⟨fun lines => ⟨fun h => h.eq_wrap hwidth, ?_⟩, ?_⟩
  · rintro rfl
    exact hwrap
  · exact ((hwrap.again hwidth).eq_wrap hwidth).symm

theorem wrap_isWrapping_split :
    0 < 6 ∧ wrap 6 "aaaaaaaaaaaaaaa b" = ["aaaaaa", "aaaaaa", "aaa b"] ∧
      (∀ lines, IsWrapping 6 "aaaaaaaaaaaaaaa b" lines ↔
        lines = ["aaaaaa", "aaaaaa", "aaa b"]) ∧
      wrap 6 "aaaaaa aaaaaa aaa b" = ["aaaaaa", "aaaaaa", "aaa b"] := by
  have hwrap : wrap 6 "aaaaaaaaaaaaaaa b" = ["aaaaaa", "aaaaaa", "aaa b"] := by cbv
  have hwidth : 0 < 6 := by decide
  obtain ⟨hunique, hagain⟩ := wrap_isWrapping hwidth "aaaaaaaaaaaaaaa b"
  rw [hwrap] at hunique hagain
  exact ⟨hwidth, hwrap, hunique, hagain⟩

end Wrap

end PageScan.Text
