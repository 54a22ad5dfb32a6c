import PageScan.Files

/-!
# Files in a folder

* `Path.parent_join`: what lies below a folder lies in it.
* `Path.join_inj`: different names below a folder are different paths.
* `Files.exists_write`: what a file holds that was written, and that no other file is touched.
* `Files.hasFolder_createFolder`: a folder that was created is there.
-/

namespace PageScan

namespace Path

/-- The name is that of a file: it holds no slash and does not end in a dot. -/
structure IsFileName (name : String) : Prop where
  noSlash : '/' ∉ name.toList
  last : ∃ c before, name.toList = before ++ [c] ∧ c ≠ '.'

variable {name : String}

namespace IsFileName

theorem not_startsWith (h : IsFileName name) : name.startsWith "/" = false := by
  rw [String.startsWith_string_eq_false_iff]
  intro hslash
  exact h.noSlash (hslash.subset (by simp))

/-- Nothing can be left out at the end of such a name. -/
theorem stripEnd_append (h : IsFileName name) (rest : List Char) :
    stripEnd (name.toList.reverse ++ rest) = name.toList.reverse ++ rest := by
  obtain ⟨c, before, hname, hdot⟩ := h.last
  have hslash : c ≠ '/' := fun hc => h.noSlash (by simp [hname, hc])
  rw [hname, List.reverse_append, List.reverse_singleton, List.singleton_append, List.cons_append]
  unfold stripEnd
  split
  · next heq => exact absurd (List.cons.inj heq).1 hslash
  · next heq => exact absurd (List.cons.inj heq).1 hdot
  · rfl

theorem ne_nil (h : IsFileName name) : name.toList.reverse ≠ [] := by
  obtain ⟨c, before, hname, -⟩ := h.last
  simp [hname]

theorem dropWhile_append (h : IsFileName name) (rest : List Char) :
    (name.toList.reverse ++ rest).dropWhile (· ≠ '/') = rest.dropWhile (· ≠ '/') := by
  refine List.dropWhile_append_of_pos fun c hc => ?_
  have hne : c ≠ '/' := fun heq => h.noSlash (heq ▸ List.mem_reverse.1 hc)
  simpa using hne

end IsFileName

/-- A name, and before that a slash and a folder: the folder is what it lies in. -/
theorem parent_of_reverse (h : IsFileName name) {path : String} {rest : List Char}
    (hpath : path.toList.reverse = name.toList.reverse ++ '/' :: rest) :
    parent path = some (ofReversed ('/' :: rest)) := by
  have hne : name.toList.reverse ++ '/' :: rest ≠ [] := by simp
  unfold parent
  rw [hpath, h.stripEnd_append]
  split
  · next hnil => exact absurd hnil hne
  · rw [h.dropWhile_append]
    rfl

/-- What lies below a folder lies in it. -/
theorem parent_join (h : IsFileName name) (dir : String) :
    parent (join dir name) = some (folder dir) := by
  unfold join
  simp only [h.not_startsWith, Bool.false_or, decide_eq_true_eq]
  split
  · next hempty =>
    have hself := h.stripEnd_append []
    have hnone := h.dropWhile_append []
    rw [List.append_nil] at hself hnone
    rw [hempty, parent, hself]
    split
    · next hnil => exact absurd hnil h.ne_nil
    · rw [hnone]
      rfl
  · next hsome =>
    split
    · next hslash =>
      -- the slash between folder and name is the last one of the folder
      obtain ⟨before, hbefore⟩ : ['/'] <:+ dir.toList := by
        rw [← String.endsWith_toSlice, String.Slice.endsWith_string_iff] at hslash
        simpa using hslash
      have hreverse : dir.toList.reverse = '/' :: before.reverse := by
        rw [← hbefore, List.reverse_append]
        rfl
      have hpath : (dir ++ name).toList.reverse = name.toList.reverse ++ '/' :: before.reverse := by
        rw [String.toList_append, List.reverse_append, hreverse]
      rw [parent_of_reverse h hpath, folder, hreverse]
    · have hpath : (dir ++ "/" ++ name).toList.reverse =
          name.toList.reverse ++ '/' :: dir.toList.reverse := by
        simp only [String.toList_append, List.reverse_append]
        rfl
      rw [parent_of_reverse h hpath, folder, ofReversed, ofReversed, stripEnd]
      rcases hrest : stripEnd dir.toList.reverse with _ | ⟨c, rest⟩ <;> simp [hsome]

theorem join_inj {name' : String} (h : IsFileName name) (h' : IsFileName name') (dir : String) :
    join dir name = join dir name' ↔ name = name' := by
  unfold join
  simp only [h.not_startsWith, h'.not_startsWith, Bool.false_or, decide_eq_true_eq]
  split
  · rfl
  · split <;> exact String.append_right_inj _

end Path

namespace Files

variable {f : Files} {path : String}

/-- A file can be written if its folder is there. Then it holds what was written, and all other
files and all folders are as they were. -/
theorem exists_write (h : (Path.parent path).any f.hasFolder = true) (bytes : List UInt8) :
    ∃ f', f.write path bytes = .ok f' ∧ f'.folders = f.folders ∧ f'.read path = .ok bytes ∧
      ∀ other, other ≠ path → f'.read other = f.read other := by
  refine ⟨_, if_pos h, rfl, ?_, fun other hother => ?_⟩
  · have hgone : (f.contents.filter fun file => file.1 ≠ path).lookup path = none := by
      rw [List.lookup_eq_none_iff]
      intro file hfile
      have hne : file.1 ≠ path := of_decide_eq_true (List.mem_filter.1 hfile).2
      exact bne_iff_ne.2 hne.symm
    simp only [read, List.lookup_append, hgone, Option.none_or, List.lookup_cons_self]
  · have hkept : (f.contents.filter fun file => file.1 ≠ path).lookup other =
        f.contents.lookup other := by
      induction f.contents with
      | nil => rfl
      | cons file rest ih =>
        by_cases hfile : file.1 = path
        · have hne : (other == file.1) = false := beq_false_of_ne (hfile ▸ hother)
          rw [List.filter_cons_of_neg (by simp [hfile]), ih, List.lookup_cons, hne]
        · rw [List.filter_cons_of_pos (by simpa using hfile), List.lookup_cons, List.lookup_cons,
            ih]
    have hlast : [(path, bytes)].lookup other = none := by
      rw [List.lookup_cons, beq_false_of_ne hother]
      rfl
    simp only [read, List.lookup_append, hkept, hlast, Option.or_none]

theorem hasFolder_createFolder (f : Files) (path : String) :
    (f.createFolder path).hasFolder (Path.folder path) = true := by
  unfold createFolder
  by_cases h : f.hasFolder (Path.folder path) = true
  · rwa [if_pos h]
  · rw [if_neg h]
    simp [hasFolder]

theorem read_createFolder (f : Files) (path other : String) :
    (f.createFolder path).read other = f.read other := by
  unfold createFolder
  by_cases h : f.hasFolder (Path.folder path) = true
  · rw [if_pos h]
  · rw [if_neg h]
    rfl

end Files

end PageScan
