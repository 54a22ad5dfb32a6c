import Mathlib.Data.List.Forall2
import Mathlib.Data.List.Nodup
import PageScan.Proofs.Cli.Places
import PageScan.Proofs.Scan.Readback

/-!
# Every address is accounted for

Whatever is on the command line and whatever comes of the scans, the manifest says of each address,
once, what became of it, and what it says is so.

* `Place.Accounted`: what an entry of the manifest says of an address, and what is in the files.
* `runScans_accounted`: the entries of a run.
-/

namespace PageScan

open Scheduler (Launcher Session Timeline)

/-- What a text shows of a report: which scan it is of and which page. -/
structure ScanReport.ShownBy (r : ScanReport) (text : String) : Prop where
  begins : ∃ rest, text = "\x7b\n  \"scanId\": " ++ Json.literal r.scanId.text ++
    ",\n  \"url\": " ++ Json.literal r.url ++ ",\n" ++ rest
  read : r.toJson.Legible → ∃ members,
    Json.Node.ofText text = (.ofValue (.object members), false) ∧
      Json.valuesOf "url" members = [.string r.url]

theorem ScanReport.shownBy_indented (r : ScanReport) : r.ShownBy r.toJson.indented where
  begins := by
    obtain ⟨rest, hrest⟩ : ∃ rest, r.toJson.indentedOnto 0 [] =
        "\x7b\n  \"scanId\": ".toList ++ (Json.literalChars r.scanId.text ++
          (",\n  \"url\": ".toList ++ (Json.literalChars r.url ++ (",\n".toList ++ rest)))) :=
      ⟨_, rfl⟩
    refine ⟨String.ofList rest, String.toList_inj.1 ?_⟩
    simp [Json.Value.indented, Json.literal, hrest]
  read hlegible := ⟨_, Json.Node.ofText_indented hlegible, by simp [Json.valuesOf]⟩

namespace Place

/-- Why there is no report. -/
def failure? (p : Place) : Option ScanFailure :=
  match p.outcome with
  | .ok _ => none
  | .error e => some e.toFailure

/-- An entry says what became of an address: its report is in the file that the entry names, or else
no report was written in its place. -/
structure Accounted (out : String) (before after : Files) (p : Place) (entry : ManifestEntry) :
    Prop where
  url_eq : entry.url = p.url
  once : entry.report.isSome = !entry.failure.isSome
  reported : ∀ report, p.outcome = .ok report →
    entry.report = some (p.path out) ∧
      after.read (p.path out) = .ok (Text.utf8 report.toJson.indented) ∧
      report.ShownBy report.toJson.indented ∧
      ∃ request, ScanRequest.ofText p.url = .ok request ∧ report.url = request.url
  failed : ∀ e, p.outcome = .error e →
    entry.failure = some e.toFailure ∧ after.read (p.path out) = before.read (p.path out)

theorem entry_failure (out : String) (p : Place) : (p.entry out).failure = p.failure? := by
  rcases h : p.outcome with e | report <;> simp only [entry, failure?, h]

theorem path_ne_manifest (out : String) (p : Place) :
    p.path out ≠ Path.join out manifestFileName := fun h =>
  reportFileName_ne_manifestFileName p.index <|
    (Path.join_inj (isFileName_reportFileName _) isFileName_manifestFileName out).1 h

end Place

/-- A report that a pipeline gives of an address is on the page that the address means. -/
theorem Scheduler.Launcher.url_of_verdict {σ : Type}
    {session : Nat → ScanRequest → Nat × Except PageError (Session σ)} {before : List String}
    {url : String} {report : ScanReport}
    (h : (Launcher.ofSessions session).verdict before url = .ok report) :
    ∃ request, ScanRequest.ofText url = .ok request ∧ report.url = request.url := by
  rcases hrequest : ScanRequest.ofText url with e | request
  · simp [Launcher.verdict, hrequest] at h
  · simp only [Launcher.verdict, hrequest] at h
    obtain ⟨s, -, hrun⟩ := Scheduler.exists_of_outcome h
    obtain ⟨-, -, f, -, rfl⟩ :=
      Pipeline.exists_of_run s.pipeline s.identity s.page s.endpoint request s.state hrun
    exact ⟨request, rfl, rfl⟩

theorem PendingScan.map_request_ofUrls (urls : List String) :
    (PendingScan.ofUrls urls).map (·.request) =
      urls.filterMap fun url => (ScanRequest.ofText url).toOption := by
  induction urls using List.reverseRecOn with
  | nil => rfl
  | append_singleton urls url ih =>
    rw [ofUrls_append, List.map_append, List.filterMap_append, ih]
    rcases h : ScanRequest.ofText url with e | request <;> simp [h, Except.toOption]

/-- The entry for a place says what became of it, once the reports and the manifest are written. -/
theorem Place.Written.accounted {out : String} {places : List Place} {p : Place}
    {before reported after : Files} (hwritten : Written out places (before.createFolder out) reported)
    (hafter : ∀ path, path ≠ Path.join out manifestFileName →
      after.read path = reported.read path)
    (hindex : ∀ q ∈ places, q.index = p.index → q = p) (hp : p ∈ places)
    (hurl : ∀ report, p.outcome = .ok report →
      ∃ request, ScanRequest.ofText p.url = .ok request ∧ report.url = request.url) :
    p.Accounted out before after (p.entry out) where
  url_eq := entry_url out p
  once := by rcases h : p.outcome with e | report <;> simp [entry, h]
  reported := fun report h => by
    refine ⟨by simp [entry, h], ?_, report.shownBy_indented, hurl report h⟩
    rw [hafter _ (path_ne_manifest out p)]
    exact hwritten.reports p hp report h
  failed := fun e h => by
    refine ⟨by simp [entry, h], ?_⟩
    rw [hafter _ (path_ne_manifest out p), hwritten.others _ fun q hq report hreport heq => ?_,
      Files.read_createFolder]
    -- the report on another place goes to another file
    rw [hindex q hq (path_inj.1 heq).symm, h] at hreport
    cases hreport

theorem Place.eq_of_index_eq {launcher : Launcher} {urls : List String} {p q : Place}
    (hp : p ∈ ofUrls launcher urls) (hq : q ∈ ofUrls launcher urls) (h : q.index = p.index) :
    q = p :=
  List.inj_on_of_nodup_map (map_index_ofUrls launcher urls ▸ List.nodup_range) hq hp h

/-- Whatever the addresses on the command line are, and however the scans go in their sessions: one
browser is launched for each address that can be scanned, in their order, and none for the others.
The manifest has one entry for each place of the command line. It names the file that holds the
report on the page of that address, or says why there is none, and then no such file was written.
The failures of the manifest are those of the places that have failed. -/
theorem runScans_accounted {σ : Type}
    (session : Nat → ScanRequest → Nat × Except PageError (Session σ)) (bound : Nat) (d : Desk)
    (urls : List String) (out : String) :
    ∃ (manifest : ScanManifest) (d' : Desk) (t : Timeline),
      runScans (.start (.ofSessions session) bound) d urls out = (.ok (manifest, d'), t) ∧
      t.requests = (urls.filterMap fun url => (ScanRequest.ofText url).toOption) ∧
      t.attempts = t.requests.length ∧
      ∃ places : List Place, places.Perm (Place.ofUrls (.ofSessions session) urls) ∧
        List.Forall₂ (Place.Accounted out d.files d'.files) places manifest.entries ∧
        manifest.failures = places.filterMap Place.failure? := by
  obtain ⟨manifest, reported, d', t, hrun, hrequests, hattempts, hentries, hwritten, hafter, -⟩ :=
    runScans_eq (.ofSessions session) bound d urls out
  refine ⟨manifest, d', t, hrun, hrequests.trans (PendingScan.map_request_ofUrls urls), hattempts,
    _, Place.perm_inOrder (.ofSessions session) urls, ?_, ?_⟩
  · rw [hentries, List.forall₂_map_right_iff, List.forall₂_same]
    intro p hp
    have hp' := (Place.perm_inOrder (.ofSessions session) urls).mem_iff.1 hp
    obtain ⟨before, hverdict⟩ := Place.exists_verdict _ hp'
    exact hwritten.accounted hafter (fun q hq => Place.eq_of_index_eq hp' hq) hp' fun report h =>
      Scheduler.Launcher.url_of_verdict (hverdict ▸ h)
  · rw [ScanManifest.failures, hentries, List.filterMap_map]
    exact List.filterMap_congr fun p _ => Place.entry_failure out p

end PageScan
