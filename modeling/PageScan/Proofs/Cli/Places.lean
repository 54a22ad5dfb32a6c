import Mathlib.Data.List.Induction
import Std.Data.String.ToNat
import PageScan.Cli.Scan
import PageScan.Proofs.Files
import PageScan.Proofs.Scheduler.Outcomes

/-!
# Places of the command line

The addresses of a command part ways: those that cannot be scanned get their entries at once, the
others are scanned side by side, and their outcomes come back as a list. A `Place` keeps together
what belongs together: an address, where it stands, and what comes of it.

* `Place.zip_ofUrls`: outcomes come back to the places of their addresses.
* `Place.Written`: which files the reports on places are written to, and that they are all that is.
* `Place.perm_inOrder`: each place has its entry.
* `runScans_eq`: what a run comes to, whatever the launcher does.
-/

namespace PageScan

open Scheduler (Launcher Outcome Timeline)

/-! ## Names of files -/

theorem isFileName_reportFileName (index : Nat) : Path.IsFileName (reportFileName index) where
  noSlash := by
    rw [reportFileName, String.toList_append, List.mem_append, not_or]
    refine ⟨fun h => ?_, by decide⟩
    have hdigits : (toString (index + 1)).toList = Nat.toDigits 10 (index + 1) := by
      simp [ToString.toString]
    rw [hdigits] at h
    exact absurd (Nat.isDigit_of_mem_toDigits (by decide) (by decide) h) (by decide)
  last := ⟨'n', (toString (index + 1)).toList ++ "-report.jso".toList, by
    rw [reportFileName, String.toList_append, List.append_assoc]; rfl, by decide⟩

theorem isFileName_manifestFileName : Path.IsFileName manifestFileName where
  noSlash := by decide
  last := ⟨'n', "index.jso".toList, rfl, by decide⟩

theorem reportFileName_inj {i j : Nat} : reportFileName i = reportFileName j ↔ i = j := by
  refine ⟨fun h => ?_, fun h => h ▸ rfl⟩
  have hnumber : toString (i + 1) = toString (j + 1) := (String.append_left_inj _).1 h
  exact Nat.succ.inj (Nat.repr_inj.1 hnumber)

theorem reportFileName_ne_manifestFileName (index : Nat) :
    reportFileName index ≠ manifestFileName := by
  intro h
  -- the two differ in the sixth letter from the end
  have hlast := congrArg (fun name => name.toList.reverse.drop 5) h
  simp [reportFileName, manifestFileName] at hlast

/-! ## Places -/

/-- What comes of an address that stands behind others: the outcome of its scan, for which there
were as many launches before as there are others that can be scanned, or why it cannot be
scanned. -/
def Scheduler.Launcher.verdict (launcher : Launcher) (before : List String) (url : String) :
    Outcome :=
  match ScanRequest.ofText url with
  | .ok request => (launcher.launch (PendingScan.ofUrls before).length request).outcome request
  | .error e => .error e

/-- An address of the command line, with what comes of it. -/
structure Place where
  index : Nat
  url : String
  outcome : Outcome

variable (launcher : Launcher)

namespace Place

/-- All places, in order. -/
def ofUrls (urls : List String) : List Place :=
  urls.zipIdx.map fun (url, index) => ⟨index, url, launcher.verdict (urls.take index) url⟩

/-- Where the report on an address goes. -/
def path (p : Place) (out : String) : String :=
  Path.join out (reportFileName p.index)

/-- The entry for a place. -/
def entry (out : String) (p : Place) : ManifestEntry :=
  match p.outcome with
  | .ok _ => ⟨p.url, some (p.path out), none⟩
  | .error e => ⟨p.url, none, some e.toFailure⟩

/-- The scan of the address and its outcome, if it can be scanned. -/
def scan? (p : Place) : Option (PendingScan × Outcome) :=
  match ScanRequest.ofText p.url with
  | .ok request => some (⟨p.index, p.url, request⟩, p.outcome)
  | .error _ => none

/-- The address cannot be scanned. -/
def isRefused (p : Place) : Bool :=
  p.scan?.isNone

theorem ofUrls_append (urls : List String) (url : String) :
    ofUrls launcher (urls ++ [url]) =
      ofUrls launcher urls ++ [⟨urls.length, url, launcher.verdict urls url⟩] := by
  have hbefore : ∀ p ∈ urls.zipIdx, (urls ++ [url]).take p.2 = urls.take p.2 := fun p hp =>
    List.take_append_of_le_length (Nat.le_of_lt (by simpa using List.snd_lt_of_mem_zipIdx hp))
  have hmap : (urls.zipIdx.map fun p : String × Nat =>
        (⟨p.2, p.1, launcher.verdict ((urls ++ [url]).take p.2) p.1⟩ : Place)) =
      urls.zipIdx.map fun p => ⟨p.2, p.1, launcher.verdict (urls.take p.2) p.1⟩ :=
    List.map_congr_left fun p hp => by rw [hbefore p hp]
  simp only [ofUrls, List.zipIdx_append, List.map_append, hmap]
  simp

@[simp]
theorem length_ofUrls (urls : List String) : (ofUrls launcher urls).length = urls.length := by
  simp [ofUrls]

theorem map_url_ofUrls (urls : List String) : (ofUrls launcher urls).map (·.url) = urls := by
  rw [ofUrls, List.map_map]
  exact List.zipIdx_map_fst 0 urls

theorem map_index_ofUrls (urls : List String) :
    (ofUrls launcher urls).map (·.index) = List.range urls.length := by
  rw [ofUrls, List.map_map, List.range_eq_range']
  exact List.zipIdx_map_snd 0 urls

theorem pairwise_index_ofUrls (urls : List String) :
    (ofUrls launcher urls).Pairwise fun p q => p.index < q.index :=
  List.pairwise_map.1 (map_index_ofUrls launcher urls ▸ List.pairwise_lt_range)

end Place

theorem PendingScan.ofUrls_append (urls : List String) (url : String) :
    ofUrls (urls ++ [url]) = ofUrls urls ++
      match ScanRequest.ofText url with
      | .ok request => [⟨urls.length, url, request⟩]
      | .error _ => [] := by
  rw [ofUrls, ofUrls, List.zipIdx_append, List.filterMap_append]
  rcases h : ScanRequest.ofText url with e | request <;> simp [h]

namespace Place

/-- The outcomes of the scans come back to the places of their addresses. -/
theorem zip_ofUrls (urls : List String) :
    (PendingScan.ofUrls urls).zip
        (((PendingScan.ofUrls urls).map (·.request)).zipIdx.map fun (request, task) =>
          (launcher.launch task request).outcome request) =
      (ofUrls launcher urls).filterMap scan? := by
  induction urls using List.reverseRecOn with
  | nil => rfl
  | append_singleton urls url ih =>
    rw [ofUrls_append, PendingScan.ofUrls_append, List.filterMap_append, ← ih]
    rcases h : ScanRequest.ofText url with e | request
    · simp [scan?, h]
    · rw [List.map_append, List.zipIdx_append, List.map_append, List.zip_append (by simp)]
      simp [scan?, h, Launcher.verdict]

theorem refusedEntries_eq (out : String) (urls : List String) :
    refusedEntries urls = ((ofUrls launcher urls).filter isRefused).map (entry out) := by
  induction urls using List.reverseRecOn with
  | nil => rfl
  | append_singleton urls url ih =>
    rw [refusedEntries] at ih ⊢
    rw [ofUrls_append, List.filterMap_append, List.filter_append, List.map_append, ih]
    rcases h : ScanRequest.ofText url with e | request <;>
      simp [isRefused, scan?, entry, Launcher.verdict, h]

theorem exists_verdict {urls : List String} {p : Place} (hp : p ∈ ofUrls launcher urls) :
    ∃ before, p.outcome = launcher.verdict before p.url := by
  obtain ⟨⟨url, index⟩, -, rfl⟩ := List.mem_map.1 hp
  exact ⟨urls.take index, by dsimp only⟩

/-- Nothing is reported on an address that cannot be scanned. -/
theorem isRefused_eq_false {urls : List String} {p : Place} (hp : p ∈ ofUrls launcher urls)
    {report : ScanReport} (h : p.outcome = .ok report) : p.isRefused = false := by
  obtain ⟨before, hverdict⟩ := exists_verdict launcher hp
  rw [hverdict] at h
  rcases hrequest : ScanRequest.ofText p.url with e | request
  · simp [Launcher.verdict, hrequest] at h
  · simp [isRefused, scan?, hrequest]

/-! ## What is written -/

/-- The reports on places were written, each to its file, and nothing else was. -/
structure Written (out : String) (places : List Place) (before after : Files) : Prop where
  folders_eq : after.folders = before.folders
  reports : ∀ p ∈ places, ∀ report, p.outcome = .ok report →
    after.read (p.path out) = .ok (Text.utf8 report.toJson.indented)
  others : ∀ path, (∀ p ∈ places, ∀ report, p.outcome = .ok report → path ≠ p.path out) →
    after.read path = before.read path

variable {out : String} {p : Place} {places : List Place} {d : Desk} {f f₁ f₂ : Files}

/-- Nothing is written for a place without a report. -/
theorem Written.of_error {e : ScanError} (h : p.outcome = .error e) : Written out [p] f f where
  folders_eq := rfl
  reports := fun q hq report hreport => by
    rw [List.mem_singleton.1 hq, h] at hreport
    cases hreport
  others := fun _ _ => rfl

theorem path_inj {q : Place} : p.path out = q.path out ↔ p.index = q.index := by
  rw [path, path, Path.join_inj (isFileName_reportFileName _) (isFileName_reportFileName _),
    reportFileName_inj]

/-- Reports on other places do not get in the way of the report on a place. -/
theorem Written.cons (hp : Written out [p] f f₁) (hrest : Written out places f₁ f₂)
    (hindex : ∀ q ∈ places, p.index ≠ q.index) : Written out (p :: places) f f₂ where
  folders_eq := hrest.folders_eq.trans hp.folders_eq
  reports := fun q hq report hreport => by
    rcases List.mem_cons.1 hq with rfl | hq
    · have hkept : f₂.read (q.path out) = f₁.read (q.path out) :=
        hrest.others _ fun q' hq' _ _ h => hindex q' hq' (path_inj.1 h)
      rw [hkept]
      exact hp.reports q List.mem_cons_self report hreport
    · exact hrest.reports q hq report hreport
  others := fun path h =>
    (hrest.others path fun q hq => h q (List.mem_cons_of_mem _ hq)).trans
      (hp.others path fun q hq => h q (List.mem_singleton.1 hq ▸ List.mem_cons_self))

/-- The outcome of a scan becomes the entry for its place, and a report is written. -/
theorem exists_takeOutcome (hout : d.files.hasFolder (Path.folder out) = true)
    {scan : PendingScan × Outcome} (hscan : p.scan? = some scan) :
    ∃ d', takeOutcome out d scan.1 scan.2 = .ok (p.entry out, d') ∧
      Written out [p] d.files d'.files := by
  obtain ⟨hurl, hindex, houtcome⟩ :
      scan.1.url = p.url ∧ scan.1.path out = p.path out ∧ scan.2 = p.outcome := by
    unfold scan? at hscan
    split at hscan
    · obtain rfl := Option.some.inj hscan
      exact ⟨rfl, rfl, rfl⟩
    · cases hscan
  rw [houtcome]
  rcases hp : p.outcome with e | report
  · exact ⟨d, by rw [takeOutcome, hurl, entry, hp], .of_error hp⟩
  · have hfolder : (Path.parent (p.path out)).any d.files.hasFolder = true := by
      rw [path, Path.parent_join (isFileName_reportFileName _)]
      exact hout
    obtain ⟨f', hwrite, hfolders, hread, hothers⟩ :=
      Files.exists_write hfolder (Text.utf8 report.toJson.indented)
    refine ⟨{ d with files := f' }.print report.summary, ?_, hfolders, ?_, ?_⟩
    · rw [takeOutcome, hurl, hindex, hwrite, entry, hp]
      rfl
    · intro q hq report' hreport
      obtain rfl := List.mem_singleton.1 hq
      rw [hp] at hreport
      obtain rfl := Except.ok.inj hreport
      exact hread
    · exact fun path h => hothers path (h p List.mem_cons_self report hp)

/-- Outcomes become the entries for the places that are not refused, and their reports are
written. -/
theorem exists_takeOutcomes (hout : d.files.hasFolder (Path.folder out) = true)
    (hnodup : places.Pairwise fun p q => p.index ≠ q.index)
    (hrefused : ∀ p ∈ places, ∀ report, p.outcome = .ok report → p.isRefused = false) :
    ∃ d', takeOutcomes out d (places.filterMap scan?) =
        .ok ((places.filter fun p => !p.isRefused).map (entry out), d') ∧
      Written out places d.files d'.files := by
  induction places generalizing d with
  | nil => exact ⟨d, rfl, rfl, by simp, fun _ _ => rfl⟩
  | cons p rest ih =>
    obtain ⟨hp, hrest⟩ := List.pairwise_cons.1 hnodup
    have hrefused' := fun q hq => hrefused q (List.mem_cons_of_mem _ hq)
    rcases hscan : p.scan? with _ | scan
    · have hisRefused : p.isRefused = true := by rw [isRefused, hscan, Option.isNone_none]
      obtain ⟨d', htake, hwritten⟩ := ih hout hrest hrefused'
      rcases houtcome : p.outcome with e | report
      · refine ⟨d', ?_, (Written.of_error houtcome).cons hwritten hp⟩
        rw [List.filterMap_cons_none hscan, List.filter_cons_of_neg (by simp [hisRefused]), htake]
      · rw [hrefused p List.mem_cons_self report houtcome] at hisRefused
        cases hisRefused
    · have hisRefused : p.isRefused = false := by rw [isRefused, hscan, Option.isNone_some]
      obtain ⟨d₁, htake₁, hwritten₁⟩ := exists_takeOutcome hout hscan
      have hout₁ : d₁.files.hasFolder (Path.folder out) = true := by
        rw [Files.hasFolder, hwritten₁.folders_eq]
        exact hout
      obtain ⟨d', htake, hwritten⟩ := ih hout₁ hrest hrefused'
      refine ⟨d', ?_, hwritten₁.cons hwritten hp⟩
      rw [List.filterMap_cons_some hscan, List.filter_cons_of_pos (by simp [hisRefused]),
        takeOutcomes, htake₁]
      simp only [bind, Except.bind, htake]
      rfl

/-! ## The order of the manifest -/

/-- Entries are written down in the order of their addresses. -/
def comesBefore (urls : List String) (p q : Place) : Bool :=
  urls.idxOf p.url ≤ urls.idxOf q.url

/-- All places, in the order of their entries. Those that are refused were entered first. -/
def inOrder (urls : List String) : List Place :=
  ((ofUrls launcher urls).filter (·.isRefused) ++
    (ofUrls launcher urls).filter fun p => !p.isRefused).mergeSort (comesBefore urls)

/-- No place gets lost on the way to its entry, and none is entered twice. -/
theorem perm_inOrder (urls : List String) :
    (inOrder launcher urls).Perm (ofUrls launcher urls) :=
  (List.mergeSort_perm _ _).trans (List.filter_append_perm _ _)

theorem entry_url (out : String) (p : Place) : (p.entry out).url = p.url := by
  unfold entry
  split <;> rfl

theorem map_url_entries (out : String) (places : List Place) :
    (places.map (entry out)).map (·.url) = places.map (·.url) := by
  rw [List.map_map]
  exact List.map_congr_left fun p _ => entry_url out p

end Place

/-! ## Runs -/

/-- A run scans the addresses that can be scanned and launches one browser for each. Each address
gets its entry, the reports are written, and the manifest is written beside them. -/
theorem runScans_eq (bound : Nat) (d : Desk) (urls : List String) (out : String) :
    ∃ (manifest : ScanManifest) (reported : Files) (d' : Desk) (t : Timeline),
      runScans (.start launcher bound) d urls out = (.ok (manifest, d'), t) ∧
      t.requests = (PendingScan.ofUrls urls).map (·.request) ∧
      t.attempts = t.requests.length ∧
      manifest.entries = (Place.inOrder launcher urls).map (Place.entry out) ∧
      Place.Written out (Place.ofUrls launcher urls) (d.files.createFolder out) reported ∧
      (∀ path, path ≠ Path.join out manifestFileName →
        d'.files.read path = reported.read path) ∧
      d'.files.read (Path.join out manifestFileName) =
        .ok (Text.utf8 manifest.toJson.indented) := by
  obtain ⟨t, hscan, hrequests, hattempts, -⟩ :=
    Timeline.scanAll_eq launcher bound ((PendingScan.ofUrls urls).map (·.request))
  have hnodup := (Place.pairwise_index_ofUrls launcher urls).imp Nat.ne_of_lt
  obtain ⟨d₁, htake, hwritten⟩ :=
    Place.exists_takeOutcomes (d := { d with files := d.files.createFolder out })
      (Files.hasFolder_createFolder _ _) hnodup
      fun p hp report => Place.isRefused_eq_false launcher hp
  have hfolder : (Path.parent (Path.join out manifestFileName)).any d₁.files.hasFolder = true := by
    rw [Path.parent_join isFileName_manifestFileName, Option.any_some, Files.hasFolder,
      hwritten.folders_eq]
    exact Files.hasFolder_createFolder d.files out
  generalize hmanifest : ScanManifest.sorted urls (refusedEntries urls ++
    ((Place.ofUrls launcher urls).filter fun p => !p.isRefused).map (Place.entry out)) = manifest
  obtain ⟨f', hwrite, -, hread, hothers⟩ :=
    Files.exists_write hfolder (Text.utf8 manifest.toJson.indented)
  refine ⟨manifest, d₁.files, { d₁ with files := f' }, t, ?_, hrequests, hrequests ▸ hattempts, ?_,
    hwritten, hothers, hread⟩
  · rw [runScans]
    simp only [hscan, Place.zip_ofUrls, htake, bind, Except.bind, hmanifest, hwrite]
    rfl
  · rw [← hmanifest, Place.refusedEntries_eq launcher out, ← List.map_append, ScanManifest.sorted,
      Place.inOrder]
    refine (List.map_mergeSort fun p _ q _ => ?_).symm
    rw [Place.entry_url, Place.entry_url, Place.comesBefore]

end PageScan
