import PageScan.Cli.Overrides
import PageScan.Proofs.Config
import PageScan.Proofs.Json.Trees
import PageScan.Proofs.Text.Bytes

/-!
# A file and the command line

Values on the command line take the place of those in the file. The file is checked by itself before
that, so that a value may be refused although another stands in its place.

* `ScanOverrides.Settles`: what a file and the command line come to.
* `load_none_eq_ok_iff`, `load_file`: the configuration that a command works with, and why there is
  none.
* `not_load_limit`: a file that is refused for a value that the command line replaces.
-/

namespace PageScan

namespace ScanOverrides

/-- A value of the command line stands in place of that in the file if it is given. All else is as
in the file. -/
structure Settles (o : ScanOverrides) (file c : ScanConfig) : Prop where
  engine_given : ∀ source, o.axeSource = some source → c.audit.engineSource = some source
  engine_left : o.axeSource = none → c.audit.engineSource = file.audit.engineSource
  browsers_given : ∀ n, o.maxBrowsers = some n → c.scheduler.maxConcurrentBrowsers = n
  browsers_left : o.maxBrowsers = none →
    c.scheduler.maxConcurrentBrowsers = file.scheduler.maxConcurrentBrowsers
  secondary_off : o.noSecondary = true → c.secondary.enabled = false
  secondary_left : o.noSecondary = false → c.secondary.enabled = file.secondary.enabled
  /-- With the values of the file back in place it is the file. -/
  others : { c with
    audit.engineSource := file.audit.engineSource
    scheduler.maxConcurrentBrowsers := file.scheduler.maxConcurrentBrowsers
    secondary.enabled := file.secondary.enabled } = file

variable {o : ScanOverrides} {file c : ScanConfig}

/-- No other configuration is what they come to. -/
theorem settles_iff : o.Settles file c ↔ c = o.apply file := by
  constructor
  · intro h
    have hengine : c.audit.engineSource = (o.axeSource <|> file.audit.engineSource) := by
      cases hsource : o.axeSource with
      | none => exact h.engine_left hsource
      | some source => exact h.engine_given source hsource
    have hbrowsers : c.scheduler.maxConcurrentBrowsers =
        o.maxBrowsers.getD file.scheduler.maxConcurrentBrowsers := by
      cases hmax : o.maxBrowsers with
      | none => exact h.browsers_left hmax
      | some n => exact h.browsers_given n hmax
    have hsecondary : c.secondary.enabled = (!o.noSecondary && file.secondary.enabled) := by
      cases hoff : o.noSecondary with
      | false => exact h.secondary_left hoff
      | true => exact h.secondary_off hoff
    -- what is left of the file is `c` but for the three values, which are put back
    rw [apply, ← hengine, ← hbrowsers, ← hsecondary]
    conv_rhs => rw [← h.others]
  · rintro rfl
    refine ⟨fun source h => ?_, fun h => ?_, fun n h => ?_, fun h => ?_, fun h => ?_, fun h => ?_,
      rfl⟩ <;> simp [apply, h]

/-- The command line replaces a value for which the file is refused. -/
def Mends (o : ScanOverrides) (file : ScanConfig) : Prop :=
  (o.maxBrowsers.isSome = true ∧ file.scheduler.maxConcurrentBrowsers = 0) ∨
    (o.noSecondary = true ∧ file.secondary.enabled = true ∧ file.secondary.ceilingMs = 0)

/-- The checks look at only two values that the command line may replace. -/
theorem sound_iff_not_mends (h : (o.apply file).Sound) : file.Sound ↔ ¬o.Mends file := by
  constructor
  · rintro hfile (⟨-, hbrowsers⟩ | ⟨-, henabled, hceiling⟩)
    · exact hfile.browsers.ne' hbrowsers
    · exact (hfile.secondary henabled).ne' hceiling
  · intro hmends
    obtain ⟨hbrowsers, hsecondary⟩ := not_or.1 hmends
    refine { h with audit := h.audit, secondary := fun henabled => ?_, browsers := ?_ }
    · cases hoff : o.noSecondary with
      | false => exact h.secondary (by simp [apply, hoff, henabled])
      | true => exact Nat.pos_of_ne_zero fun hceiling => hsecondary ⟨hoff, henabled, hceiling⟩
    · cases hmax : o.maxBrowsers with
      | none => simpa [apply, hmax] using h.browsers
      | some n =>
        refine Nat.pos_of_ne_zero fun hzero => hbrowsers ⟨?_, hzero⟩
        rw [hmax, Option.isSome_some]

end ScanOverrides

namespace ScanConfig

variable {files : Files} {path text : String} {bytes : List UInt8} {file : ScanConfig}
  {o : ScanOverrides}

theorem validate_bind {β : Type} (c : ScanConfig) (wrap : ConfigError → CliError)
    (next : Except CliError β) :
    (c.validate.mapError wrap >>= fun _ => next) =
      match c.objection? with
      | some reason => .error (wrap (.invalid reason))
      | none => next := by
  rw [validate]
  cases c.objection? <;> rfl

/-- What comes of a configuration and the command line. -/
def settled (o : ScanOverrides) (base : ScanConfig) : Except CliError ScanConfig :=
  match (o.apply base).objection? with
  | some reason => .error (.settings (.invalid reason))
  | none => .ok (o.apply base)

theorem settled_eq_ok_iff {base c : ScanConfig} :
    settled o base = .ok c ↔ o.Settles base c ∧ c.validate = .ok () := by
  rw [settled, ScanOverrides.settles_iff, validate_eq_ok_iff, ← objection?_eq_none_iff]
  constructor
  · intro h
    split at h
    · cases h
    · next hnone =>
      cases h
      exact ⟨rfl, hnone⟩
  · rintro ⟨rfl, hnone⟩
    rw [hnone]

/-- Without a file the command line is put over the defaults. -/
theorem load_none_eq_ok_iff {c : ScanConfig} :
    load files none o = .ok c ↔ o.Settles {} c ∧ c.validate = .ok () := by
  rw [← settled_eq_ok_iff, load, settled]
  dsimp only
  rw [pure_bind, validate_bind]
  cases (o.apply {}).objection? <;> rfl

/-- A file is checked by itself before the command line is put over it. -/
theorem load_some (hread : files.read path = .ok bytes) (htext : Text.ofUtf8? bytes = some text)
    (hfile : Json.Decoder.decodeText decoder text = .ok file) :
    load files (some path) o =
      match file.objection? with
      | some reason => .error (.configFile path (.invalid reason))
      | none => settled o file := by
  have hofFile : ofFile files path = file.validate >>= fun _ => .ok file := by
    have htextOf : ofText path text = file.validate >>= fun _ => .ok file := by
      rw [ofText, hfile]
      rfl
    rw [ofFile, hread, ← htextOf]
    show (match Text.ofUtf8? bytes with
      | some text => ofText path text
      | none => .error (.io path Files.notText)) = _
    rw [htext]
  rw [← validate_bind, settled, ← validate_bind, load]
  dsimp only
  rw [hofFile]
  cases file.validate <;> rfl

/-- What the command line makes of a file. A configuration comes of it if that passes the checks,
but for files that are refused for a value that the command line replaces. -/
theorem load_file (hread : files.read path = .ok bytes) (htext : Text.ofUtf8? bytes = some text)
    (hfile : Json.Decoder.decodeText decoder text = .ok file) :
    (∀ members, Json.Node.ofText text = (.object members .closed, false) →
        (∀ member ∈ members, Json.Skippable member) → file.IsReadFrom members) ∧
      (∀ c, load files (some path) o = .ok c ↔
        o.Settles file c ∧ c.validate = .ok () ∧ ¬o.Mends file) ∧
      (∀ reason, load files (some path) o = .error (.configFile path (.invalid reason)) ↔
        file.objection? = some reason) ∧
      ∀ reason, load files (some path) o = .error (.settings (.invalid reason)) ↔
        file.objection? = none ∧ (o.apply file).objection? = some reason := by
  rw [load_some hread htext hfile]
  refine ⟨fun members hdocument hmembers => (decodeText_eq_ok_iff hdocument hmembers).1 hfile,
    fun c => ?_, fun reason => ?_, fun reason => ?_⟩
  · have hmends (h : o.Settles file c ∧ c.validate = .ok ()) :
        file.objection? = none ↔ ¬o.Mends file := by
      obtain ⟨hsettles, hvalid⟩ := h
      obtain rfl := ScanOverrides.settles_iff.1 hsettles
      rw [objection?_eq_none_iff]
      exact ScanOverrides.sound_iff_not_mends (validate_eq_ok_iff.1 hvalid)
    -- the first check decides only if the second would let the configuration pass
    rw [← and_assoc]
    rcases hobjection : file.objection? with _ | reason
    · rw [settled_eq_ok_iff]
      exact ⟨fun h => ⟨h, (hmends h).1 hobjection⟩, fun h => h.1⟩
    · refine ⟨nofun, fun ⟨h, hnot⟩ => ?_⟩
      rw [(hmends h).2 hnot] at hobjection
      cases hobjection
  · cases file.objection? <;> cases h : (o.apply file).objection? <;> simp [settled, h]
  · cases file.objection? <;> cases h : (o.apply file).objection? <;> simp [settled, h]

/-! ## A file with a limit of browsers -/

/-- A file that says how many browsers may run at once, and nothing else. -/
def limit (browsers : Nat) : List (String × Json.Value) :=
  [("scheduler", .object [("max_concurrent_browsers", .ofNat browsers)])]

/-- The only file is this one. -/
def filesWith (members : List (String × Json.Value)) : Files :=
  ⟨[], [("uxa.json", Text.utf8 (Json.Value.object members).compact)]⟩

theorem decodeText_limit {browsers : Nat} (h : browsers < 2 ^ 64) :
    Json.Decoder.decodeText decoder (Json.Value.object (limit browsers)).compact =
      .ok { scheduler.maxConcurrentBrowsers := browsers } := by
  have hlegible : (Json.Value.object (limit browsers)).Legible := by
    simp [limit, Json.Value.legible_object, Json.Value.legible_ofNat h]
  have hskip (ms : List (String × Json.Value)) :
      ∀ member ∈ Json.Node.ofMembers ms, Json.Skippable member :=
    Json.skippable_of_isMember (Json.isMember_ofMembers ms)
  have hscheduler : SchedulerConfig.decoder (.text (Json.depthLimit - 1))
      (.ofValue (.object [("max_concurrent_browsers", .ofNat browsers)])) = .ok ⟨browsers⟩ := by
    refine (Json.Decoder.record_object_eq_ok_iff rfl (by decide) (hskip _)).2 ?_
    have hcount : Json.Decoder.count.ReadsBack 0 (.ofNat browsers) browsers :=
      Json.Decoder.readsBack_natural h
    exact ⟨(browsers, ()), ⟨.present (hcount _ (by decide)), trivial⟩, rfl⟩
  refine (decodeText_eq_ok_iff (Json.Node.ofText_compact hlegible) (hskip _)).2 ?_
  exact ⟨.absent rfl, .absent rfl, .absent rfl, .absent rfl, .absent rfl, .absent rfl,
    .present hscheduler⟩

theorem read_filesWith (members : List (String × Json.Value)) :
    (filesWith members).read "uxa.json" =
      .ok (Text.utf8 (Json.Value.object members).compact) := by
  rw [filesWith, Files.read, List.lookup_cons_self]

/-- A file with a limit of three browsers gives way to a command line with four. -/
theorem load_file_limit :
    (filesWith (limit 3)).read "uxa.json" =
        .ok (Text.utf8 (Json.Value.object (limit 3)).compact) ∧
      Text.ofUtf8? (Text.utf8 (Json.Value.object (limit 3)).compact) =
        some (Json.Value.object (limit 3)).compact ∧
      Json.Decoder.decodeText decoder (Json.Value.object (limit 3)).compact =
        .ok { scheduler.maxConcurrentBrowsers := 3 } ∧
      load (filesWith (limit 3)) (some "uxa.json") { maxBrowsers := some 4 } =
        .ok { scheduler.maxConcurrentBrowsers := 4 } := by
  refine ⟨read_filesWith _, Text.ofUtf8?_utf8 _, decodeText_limit (by decide), ?_⟩
  refine ((load_file (read_filesWith _) (Text.ofUtf8?_utf8 _)
    (decodeText_limit (by decide))).2.1 _).2 ⟨?_, ?_, ?_⟩
  · exact ScanOverrides.settles_iff.2 rfl
  · exact validate_eq_ok_iff.2 (objection?_eq_none_iff.1 (by decide))
  · rintro (⟨-, hzero⟩ | ⟨hoff, -⟩)
    · cases hzero
    · cases hoff

/-- A file with a limit of no browsers is refused, although with the four of the command line the
configuration is sound. -/
theorem not_load_limit :
    Json.Decoder.decodeText decoder (Json.Value.object (limit 0)).compact =
        .ok { scheduler.maxConcurrentBrowsers := 0 } ∧
      ScanOverrides.Settles { maxBrowsers := some 4 } { scheduler.maxConcurrentBrowsers := 0 }
        { scheduler.maxConcurrentBrowsers := 4 } ∧
      validate { scheduler.maxConcurrentBrowsers := 4 } = .ok () ∧
      load (filesWith (limit 0)) (some "uxa.json") { maxBrowsers := some 4 } =
        .error (.configFile "uxa.json"
          (.invalid "max_concurrent_browsers must be at least 1")) := by
  refine ⟨decodeText_limit (by decide), ScanOverrides.settles_iff.2 rfl, ?_, ?_⟩
  · exact validate_eq_ok_iff.2 (objection?_eq_none_iff.1 (by decide))
  · rw [load_some (read_filesWith _) (Text.ofUtf8?_utf8 _) (decodeText_limit (by decide))]
    rfl

end ScanConfig

end PageScan
