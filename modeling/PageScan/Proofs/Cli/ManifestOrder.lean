import Mathlib.Data.List.Basic
import PageScan.Proofs.Cli.Places

/-!
# The order of the manifest

Entries are sorted by the place at which their addresses first occur, so that entries of one address
come to stand together. That is the order of the command line exactly if no address is repeated after
another one.

* `pairwise_mergeSort_stable`: what holds of a list in order is kept by sorting among equals.
* `Place.pairwise_inOrder`: the order of the entries.
* `Place.map_url_inOrder_iff`: when it is the order of the command line.
* `runScans_sorted`: the manifest of a run.
-/

namespace PageScan

open Scheduler (Launcher Timeline)

/-- Sorting keeps elements that are equal for it as they were. -/
theorem pairwise_mergeSort_stable {α : Type} {le : α → α → Bool} {R : α → α → Prop}
    (htrans : ∀ a b c, le a b = true → le b c = true → le a c = true)
    (htotal : ∀ a b, (le a b || le b a) = true) (hrefl : ∀ a, R a a) {l : List α}
    (h : l.Pairwise R) :
    (l.mergeSort le).Pairwise fun a b => le a b = true ∧ (le b a = true → R a b) := by
  rw [← List.mergeSort_zipIdx, List.pairwise_map]
  refine (List.pairwise_mergeSort (List.zipIdxLE_trans htrans) (List.zipIdxLE_total htotal)
    l.zipIdx).imp_of_mem fun {p q} hp hq hle => ?_
  obtain ⟨i, hi, rfl⟩ := List.getElem_of_mem (List.mem_mergeSort.1 hp)
  obtain ⟨j, hj, rfl⟩ := List.getElem_of_mem (List.mem_mergeSort.1 hq)
  simp only [List.length_zipIdx] at hi hj
  simp only [List.getElem_zipIdx, Nat.zero_add, List.zipIdxLE] at hle ⊢
  by_cases hij : le l[i] l[j] = true
  · refine ⟨hij, fun hji => ?_⟩
    have hle' : i ≤ j := by simpa [hij, hji] using hle
    rcases Nat.lt_or_eq_of_le hle' with hlt | rfl
    · exact List.pairwise_iff_getElem.1 h i j hi hj hlt
    · exact hrefl _
  · simp [hij] at hle

/-- Between two addresses that are the same stands no other. -/
def Grouped (urls : List String) : Prop :=
  ∀ (i j k : Nat) (hij : i ≤ j) (hjk : j ≤ k) (hk : k < urls.length), urls[i] = urls[k] →
    urls[j] = urls[k]

theorem idxOf_getElem_le {urls : List String} {i : Nat} (hi : i < urls.length) :
    urls.idxOf urls[i] ≤ i := by
  by_contra hlt
  have hne := List.not_of_lt_findIdx (Nat.lt_of_not_le hlt)
  simp at hne

/-- Addresses are grouped if the places at which they first occur are in order. -/
theorem grouped_iff (urls : List String) :
    Grouped urls ↔ urls.Pairwise fun a b => urls.idxOf a ≤ urls.idxOf b := by
  rw [List.pairwise_iff_getElem]
  constructor
  · intro h i j hi hj hij
    -- otherwise the later one would have stood before the first of the other already
    by_contra hlt
    have hfirst : urls.idxOf urls[j] < urls.length := List.idxOf_lt_length_iff.2 (List.getElem_mem _)
    have hget : urls[urls.idxOf urls[j]] = urls[j] := List.getElem_idxOf hfirst
    have hle : urls.idxOf urls[i] ≤ i := idxOf_getElem_le (by omega)
    have heq := h (urls.idxOf urls[j]) i j (by omega) (by omega) hj hget
    rw [heq] at hlt
    exact hlt (Nat.le_refl _)
  · intro h i j k hij hjk hk heq
    have hle₁ : urls.idxOf urls[i] ≤ urls.idxOf urls[j] := by
      rcases Nat.lt_or_eq_of_le hij with hlt | rfl
      · exact h i j (by omega) (by omega) hlt
      · exact Nat.le_refl _
    have hle₂ : urls.idxOf urls[j] ≤ urls.idxOf urls[k] := by
      rcases Nat.lt_or_eq_of_le hjk with hlt | rfl
      · exact h j k (by omega) hk hlt
      · exact Nat.le_refl _
    rw [heq] at hle₁
    exact (List.idxOf_inj (List.getElem_mem _)).1 (Nat.le_antisymm hle₂ hle₁)

namespace Place

variable (launcher : Launcher) (urls : List String)

/-- The address of a place occurs first, or is the same and stands first. -/
def Precedes (p q : Place) : Prop :=
  urls.idxOf p.url < urls.idxOf q.url ∨ p.url = q.url ∧ p.index < q.index

theorem Precedes.le {p q : Place} (h : Precedes urls p q) :
    urls.idxOf p.url ≤ urls.idxOf q.url := by
  rcases h with hlt | ⟨hurl, -⟩
  · exact Nat.le_of_lt hlt
  · exact Nat.le_of_eq (congrArg urls.idxOf hurl)

theorem Precedes.asymm {p q : Place} (h : Precedes urls p q) : ¬ Precedes urls q p := by
  rintro (hlt | ⟨hurl, hlt⟩) <;> rcases h with hlt' | ⟨hurl', hlt'⟩
  · omega
  · rw [hurl'] at hlt
    exact Nat.lt_irrefl _ hlt
  · rw [hurl] at hlt'
    exact Nat.lt_irrefl _ hlt'
  · omega

variable {urls} in
theorem url_mem {p : Place} (hp : p ∈ ofUrls launcher urls) : p.url ∈ urls :=
  map_url_ofUrls launcher urls ▸ List.mem_map_of_mem hp

/-- Before the entries are sorted, those of one address are in order: either all or none of them are
refused. -/
theorem pairwise_index_filter :
    ((ofUrls launcher urls).filter (·.isRefused) ++
      (ofUrls launcher urls).filter fun p => !p.isRefused).Pairwise
        fun p q => p.url = q.url → p.index ≤ q.index := by
  have hindex := (pairwise_index_ofUrls launcher urls).imp fun {p q} hlt (_ : p.url = q.url) =>
    Nat.le_of_lt hlt
  refine List.pairwise_append.2 ⟨hindex.filter _, hindex.filter _, fun p hp q hq hurl => ?_⟩
  have hrefused : p.isRefused = true := (List.mem_filter.1 hp).2
  have hscanned : q.isRefused = false := by simpa using (List.mem_filter.1 hq).2
  have hboth : p.isRefused = q.isRefused := by
    unfold isRefused scan?
    rw [hurl]
    rcases ScanRequest.ofText q.url with e | request <;> rfl
  rw [hrefused, hscanned] at hboth
  cases hboth

/-- Entries are in the order in which their addresses first occur, and those of one address in the
order of their places. -/
theorem pairwise_inOrder : (inOrder launcher urls).Pairwise (Precedes urls) := by
  have hsorted : (inOrder launcher urls).Pairwise fun p q => comesBefore urls p q = true ∧
      (comesBefore urls q p = true → p.url = q.url → p.index ≤ q.index) :=
    pairwise_mergeSort_stable
      (fun p q r hpq hqr => by simp only [comesBefore, decide_eq_true_eq] at *; omega)
      (fun p q => by simp only [comesBefore, Bool.or_eq_true, decide_eq_true_eq]; omega)
      (fun p _ => Nat.le_refl _) (pairwise_index_filter launcher urls)
  have hindex : (inOrder launcher urls).Pairwise fun p q => p.index ≠ q.index := by
    have hnodup : ((inOrder launcher urls).map (·.index)).Nodup :=
      ((perm_inOrder launcher urls).map (·.index)).nodup_iff.2
        (map_index_ofUrls launcher urls ▸ List.nodup_range)
    exact List.pairwise_map.1 hnodup
  refine (hsorted.and hindex).imp_of_mem fun {p q} hp hq h => ?_
  obtain ⟨⟨hle, hequal⟩, hne⟩ := h
  simp only [comesBefore, decide_eq_true_eq] at hle hequal
  rcases Nat.lt_or_eq_of_le hle with hlt | heq
  · exact .inl hlt
  · have hmem := url_mem launcher ((perm_inOrder launcher urls).mem_iff.1 hp)
    have hurl : p.url = q.url := (List.idxOf_inj hmem).1 heq
    exact .inr ⟨hurl, Nat.lt_of_le_of_ne (hequal (Nat.le_of_eq heq.symm) hurl) hne⟩

variable {urls} in
/-- The addresses of the entries are those of the command line, sorted. -/
theorem map_url_inOrder {sorted : List String} (hperm : sorted.Perm urls)
    (hsorted : sorted.Pairwise fun a b => urls.idxOf a ≤ urls.idxOf b) :
    (inOrder launcher urls).map (·.url) = sorted := by
  have hperm' : ((inOrder launcher urls).map (·.url)).Perm urls := by
    have h := (perm_inOrder launcher urls).map (·.url)
    rwa [map_url_ofUrls] at h
  refine (hperm'.trans hperm.symm).eq_of_pairwise (fun a b ha _ hab hba => ?_) ?_ hsorted
  · exact (List.idxOf_inj (hperm'.mem_iff.1 ha)).1 (Nat.le_antisymm hab hba)
  · exact List.pairwise_map.2 ((pairwise_inOrder launcher urls).imp (Precedes.le urls))

theorem map_url_inOrder_iff : (inOrder launcher urls).map (·.url) = urls ↔ Grouped urls := by
  rw [grouped_iff]
  refine ⟨fun h => ?_, fun h => map_url_inOrder launcher (.refl urls) h⟩
  have hsorted : ((inOrder launcher urls).map (·.url)).Pairwise
      fun a b => urls.idxOf a ≤ urls.idxOf b :=
    List.pairwise_map.2 ((pairwise_inOrder launcher urls).imp (Precedes.le urls))
  rwa [h] at hsorted

/-- Where addresses are grouped each place keeps its place. -/
theorem inOrder_eq (h : Grouped urls) : inOrder launcher urls = ofUrls launcher urls := by
  refine (perm_inOrder launcher urls).eq_of_pairwise
    (fun p q _ _ hpq hqp => absurd hqp (hpq.asymm urls)) (pairwise_inOrder launcher urls) ?_
  have hfirst : (ofUrls launcher urls).Pairwise fun p q => urls.idxOf p.url ≤ urls.idxOf q.url := by
    rw [grouped_iff, ← map_url_ofUrls launcher urls, List.pairwise_map] at h
    rwa [map_url_ofUrls] at h
  refine (hfirst.and (pairwise_index_ofUrls launcher urls)).imp_of_mem fun {p q} hp _ h => ?_
  rcases Nat.lt_or_eq_of_le h.1 with hlt | heq
  · exact .inl hlt
  · exact .inr ⟨(List.idxOf_inj (url_mem launcher hp)).1 heq, h.2⟩

end Place

/-- Whatever the addresses are and however the scans go: the manifest of a run has as many entries as
there are addresses, in the order in which the addresses first occur, those of one address in the
order of their places, and it is what the file of the manifest holds. That is the order of the
command line exactly if the addresses are grouped, and then each place has its entry where it
stands. -/
theorem runScans_sorted (launcher : Launcher) (bound : Nat) (d : Desk) (urls : List String)
    (out : String) :
    ∃ (manifest : ScanManifest) (d' : Desk) (t : Timeline),
      runScans (.start launcher bound) d urls out = (.ok (manifest, d'), t) ∧
      d'.files.read (Path.join out manifestFileName) =
        .ok (Text.utf8 manifest.toJson.indented) ∧
      manifest.entries.length = urls.length ∧
      (∃ places : List Place, places.Perm (Place.ofUrls launcher urls) ∧
        places.Pairwise (Place.Precedes urls) ∧
        manifest.entries = places.map (Place.entry out)) ∧
      (manifest.entries.map (·.url) = urls ↔ Grouped urls) ∧
      (Grouped urls → manifest.entries = (Place.ofUrls launcher urls).map (Place.entry out)) := by
  obtain ⟨manifest, -, d', t, hrun, -, -, hentries, -, -, hread⟩ :=
    runScans_eq launcher bound d urls out
  have hperm := Place.perm_inOrder launcher urls
  refine ⟨manifest, d', t, hrun, hread, ?_,
    ⟨_, hperm, Place.pairwise_inOrder launcher urls, hentries⟩, ?_, fun h => ?_⟩
  · rw [hentries, List.length_map, hperm.length_eq, Place.length_ofUrls]
  · rw [hentries, Place.map_url_entries, Place.map_url_inOrder_iff]
  · rw [hentries, Place.inOrder_eq launcher urls h]

/-- No browser can be launched. -/
def brokenLauncher : Launcher :=
  ⟨fun _ _ => ⟨0, .error (.protocol "no browser")⟩⟩

/-- An address that is given again after another: its second entry stands before that of the
other. -/
theorem not_in_order_repeated : ∃ (manifest : ScanManifest) (d' : Desk) (t : Timeline),
    runScans (.start brokenLauncher 1) ⟨⟨[], []⟩, []⟩
        ["https://a.example/", "https://b.example/", "https://a.example/"] "reports" =
      (.ok (manifest, d'), t) ∧
    manifest.entries.map (·.url) =
      ["https://a.example/", "https://a.example/", "https://b.example/"] := by
  obtain ⟨manifest, -, d', t, hrun, -, -, hentries, -⟩ := runScans_eq brokenLauncher 1
    ⟨⟨[], []⟩, []⟩ ["https://a.example/", "https://b.example/", "https://a.example/"] "reports"
  refine ⟨manifest, d', t, hrun, ?_⟩
  rw [hentries, Place.map_url_entries]
  exact Place.map_url_inOrder brokenLauncher (.cons _ (.swap ..)) (by decide)

end PageScan
