import PageScan.Export.Artifact
import PageScan.Proofs.Heatmap.Correlation
import PageScan.Proofs.Text.Bytes

/-!
# The exported table is read back

A reader of comma separated values that knows nothing of how the table is written: a field may stand
in quotes, inside which a quote is written twice and nothing else has a meaning; outside them a
comma ends a field, and a line feed, a carriage return or both ends a record. What does not keep to
this is refused.

* `Reader.read_records`: whatever texts stand in the fields, records are read back as they were
  written.
* `ofReport_table_read`: the table of a report as a whole, and the points of a heatmap in it.
-/

namespace PageScan.Export.Table

/-- How far a field has been read, with its text so far. -/
inductive Cell
  /-- Outside quotes. -/
  | bare (text : List Char)
  /-- Inside quotes. -/
  | quoted (text : List Char)
  /-- Behind a quote, which is the last one of the field or the first of two. -/
  | closed (text : List Char)
  /-- Before a field and behind a carriage return, to which a line feed may belong. -/
  | returned

/-- What has been read of a table: whole records, the whole fields of the next one, and the field in
progress. -/
structure Reader where
  records : List (List String)
  fields : List String
  cell : Cell

namespace Reader

/-- Nothing has been read. -/
def start : Reader := ⟨[], [], .bare []⟩

/-- The field is over. -/
def endField (r : Reader) (text : List Char) : Reader :=
  { r with fields := r.fields ++ [String.ofList text], cell := .bare [] }

/-- The field and with it the record is over. -/
def endRecord (r : Reader) (text : List Char) : Reader :=
  ⟨r.records ++ [r.fields ++ [String.ofList text]], [], .bare []⟩

/-- The field is over if the character ends fields. -/
def ending? (r : Reader) (text : List Char) (c : Char) : Option Reader :=
  if c = ',' then some (r.endField text)
  else if c = '\n' then some (r.endRecord text)
  else if c = '\r' then some { r.endRecord text with cell := .returned }
  else none

/-- Reads a character outside quotes. A quote may stand only at the beginning of a field. -/
def feedBare (r : Reader) (text : List Char) (c : Char) : Option Reader :=
  if c = '"' then
    if text.isEmpty then some { r with cell := .quoted [] } else none
  else some ((r.ending? text c).getD { r with cell := .bare (text ++ [c]) })

/-- Reads a character. -/
def feed (r : Reader) (c : Char) : Option Reader :=
  match r.cell with
  | .bare text => r.feedBare text c
  | .quoted text =>
    some { r with cell := if c = '"' then .closed text else .quoted (text ++ [c]) }
  | .closed text =>
    if c = '"' then some { r with cell := .quoted (text ++ [c]) } else r.ending? text c
  | .returned => if c = '\n' then some { r with cell := .bare [] } else r.feedBare [] c

/-- The records at the end of the text. The last one need not be ended. -/
def finish (r : Reader) : Option (List (List String)) :=
  match r.cell with
  | .quoted _ => none
  | .closed text => some (r.endRecord text).records
  | .returned => some r.records
  | .bare text =>
    if r.fields.isEmpty && text.isEmpty then some r.records else some (r.endRecord text).records

/-- Reads a text. -/
def read (cs : List Char) : Option (List (List String)) :=
  (cs.foldlM feed start).bind finish

/-- Reads a file. -/
def readBytes (bytes : List UInt8) : Option (List (List String)) :=
  (Text.ofUtf8? bytes).bind fun s => read s.toList

variable {r : Reader} {text cs : List Char} {s : String} {cell : Cell}

/-! ## Fields -/

theorem isSpecial_eq_false {c : Char} :
    isSpecial c = false ↔ c ≠ ',' ∧ c ≠ '"' ∧ c ≠ '\n' ∧ c ≠ '\r' := by
  simp [isSpecial, and_assoc]

theorem feed_bare {c : Char} (hcell : r.cell = .bare text) (hc : isSpecial c = false) :
    r.feed c = some { r with cell := .bare (text ++ [c]) } := by
  obtain ⟨hcomma, hquote, hfeed, hreturn⟩ := isSpecial_eq_false.1 hc
  simp [feed, hcell, feedBare, ending?, hcomma, hquote, hfeed, hreturn]

/-- Characters without a meaning are read as they are. -/
theorem foldlM_bare (hcell : r.cell = .bare text) (hcs : ∀ c ∈ cs, isSpecial c = false) :
    cs.foldlM feed r = some { r with cell := .bare (text ++ cs) } := by
  induction cs generalizing r text with
  | nil => simp [← hcell]
  | cons c cs ih =>
    obtain ⟨hc, hrest⟩ := List.forall_mem_cons.1 hcs
    rw [List.foldlM_cons, feed_bare hcell hc]
    simpa using ih (r := { r with cell := .bare (text ++ [c]) }) rfl hrest

/-- Inside quotes each character is read as it was meant. -/
theorem foldlM_quotedChar (hcell : r.cell = .quoted text) (c : Char) :
    (quotedChar c).foldlM feed r = some { r with cell := .quoted (text ++ [c]) } := by
  unfold quotedChar
  split
  · next hc => simp [feed, hcell, hc]
  · next hc => simp [feed, hcell, hc]

theorem foldlM_quoted (hcell : r.cell = .quoted text) :
    (cs.flatMap quotedChar).foldlM feed r = some { r with cell := .quoted (text ++ cs) } := by
  induction cs generalizing r text with
  | nil => simp [← hcell]
  | cons c cs ih =>
    rw [List.flatMap_cons, List.foldlM_append, foldlM_quotedChar hcell]
    simpa using ih (r := { r with cell := .quoted (text ++ [c]) }) rfl

/-- The text of a field has been read, with or without quotes. -/
inductive Holds (s : String) : Cell → Prop
  | bare : Holds s (.bare s.toList)
  | closed : Holds s (.closed s.toList)

/-- A field that is written is read, whatever characters are in it. -/
theorem exists_foldlM_field (hcell : r.cell = .bare []) (s : String) :
    ∃ cell, (field s).foldlM feed r = some { r with cell } ∧ Holds s cell := by
  unfold field
  by_cases h : s.toList.any isSpecial = true
  · refine ⟨.closed s.toList, ?_, .closed⟩
    have hopened : r.feed '"' = some { r with cell := .quoted [] } := by
      simp [feed, hcell, feedBare]
    rw [if_pos h, List.foldlM_append, List.foldlM_cons, hopened]
    simp [foldlM_quoted (r := { r with cell := .quoted [] }) rfl, feed]
  · refine ⟨.bare s.toList, ?_, .bare⟩
    have hplain : ∀ c ∈ s.toList, isSpecial c = false := by simpa using h
    rw [if_neg h]
    simpa using foldlM_bare hcell hplain

theorem feed_comma (hcell : Holds s cell) :
    feed { r with cell } ',' = some { r with fields := r.fields ++ [s], cell := .bare [] } := by
  cases hcell with
  | bare => simp [feed, feedBare, ending?, endField]
  | closed => simp [feed, ending?, endField]

theorem feed_newLine (hcell : Holds s cell) :
    feed { r with cell } '\n' = some ⟨r.records ++ [r.fields ++ [s]], [], .bare []⟩ := by
  cases hcell with
  | bare => simp [feed, feedBare, ending?, endRecord]
  | closed => simp [feed, ending?, endRecord]

/-! ## Records -/

/-- The fields that are left of a record. -/
theorem foldlM_fields (hcell : r.cell = .bare []) (s : String) (rest : List String) :
    (record (s :: rest)).foldlM feed r =
      some ⟨r.records ++ [r.fields ++ s :: rest], [], .bare []⟩ := by
  induction rest generalizing r s with
  | nil =>
    obtain ⟨cell, hfield, hholds⟩ := exists_foldlM_field hcell s
    rw [record, List.map_singleton, List.intercalate_singleton, List.foldlM_append, hfield]
    simp [feed_newLine hholds]
  | cons s' rest ih =>
    obtain ⟨cell, hfield, hholds⟩ := exists_foldlM_field hcell s
    have hcons : record (s :: s' :: rest) = field s ++ ',' :: record (s' :: rest) := by
      simp [record, List.intercalate_cons_cons]
    have hrest := ih (r := { r with fields := r.fields ++ [s], cell := .bare [] }) rfl s'
    rw [hcons, List.foldlM_append, hfield]
    simpa [feed_comma hholds] using hrest

/-- Records of at least one field are read back as they were written. -/
theorem foldlM_records {rows : List (List String)} (hrows : ∀ fields ∈ rows, fields ≠ [])
    (records : List (List String)) :
    (rows.flatMap record).foldlM feed ⟨records, [], .bare []⟩ =
      some ⟨records ++ rows, [], .bare []⟩ := by
  induction rows generalizing records with
  | nil => simp
  | cons fields rows ih =>
    obtain ⟨hfields, hrest⟩ := List.forall_mem_cons.1 hrows
    obtain ⟨s, rest, rfl⟩ := List.exists_cons_of_ne_nil hfields
    rw [List.flatMap_cons, List.foldlM_append, foldlM_fields rfl]
    simpa using ih hrest (records ++ [s :: rest])

theorem read_records {rows : List (List String)} (hrows : ∀ fields ∈ rows, fields ≠ []) :
    read (rows.flatMap record) = some rows := by
  rw [read, start, foldlM_records hrows]
  rfl

/-- A quote, a comma and both ends of a line inside a field. -/
example : read (record ["a\"b", "", "c,\r\nd"]) = some [["a\"b", "", "c,\r\nd"]] := by decide

end Reader

/-! ## The table of a report -/

theorem rows_eq (r : ScanReport) :
    rows r = (Violation.elements r.audit.violations).map fun (v, n) => row v n := by
  simp [rows, Violation.elements, List.map_flatMap, Function.comp_def]

theorem readBytes_ofReport (r : ScanReport) :
    Reader.readBytes (Artifact.ofReport r .csv).bytes = some (header :: rows r) := by
  have hrows : ∀ fields ∈ header :: rows r, fields ≠ [] := by
    refine List.forall_mem_cons.2 ⟨by simp [header], fun fields hfields => ?_⟩
    rw [rows_eq] at hfields
    obtain ⟨⟨v, n⟩, -, rfl⟩ := List.mem_map.1 hfields
    simp [row]
  rw [Reader.readBytes, Artifact.bytes, Artifact.ofReport]
  simp only [Text.ofUtf8?_utf8, Option.bind_some, written, String.toList_ofList]
  exact Reader.read_records hrows

/-- What is looked up is the element at the number of the lookup. -/
theorem exists_element_of_mem_lookups {audit : AuditResult} {l : Lookup}
    (hl : l ∈ audit.lookups) :
    ∃ n, (Violation.elements audit.violations)[l.index]? = some (l.violation, n) ∧
      n.primarySelector = some l.selector := by
  obtain ⟨⟨⟨v, n⟩, i⟩, hmem, hlookup⟩ := List.mem_filterMap.1 hl
  obtain ⟨selector, hselector, rfl⟩ := Option.map_eq_some_iff.1 hlookup
  exact ⟨n, List.mem_zipIdx_iff_getElem?.1 hmem, hselector⟩

/-- The bytes of an exported table are read back as its header and one record of five fields for
each element, in the order of the audit. Whatever a resolver with a state answers, the record at the
number of a point that correlation makes of an answer is that of the element whose lookup was so
answered, and begins with the impact of the point. -/
theorem ofReport_table_read {τ : Type} (r : ScanReport)
    (resolve : String → StateM τ (Option ElementGeometry)) (t : τ) :
    ∃ records answers,
      Reader.readBytes (Artifact.ofReport r .csv).bytes =
        some (["Impact", "Title", "Description", "Detail", "Selector"] :: records) ∧
      records.length = r.audit.nodeCount ∧
      (∀ (i : Nat) (v : Violation) (n : ViolationNode),
        (Violation.elements r.audit.violations)[i]? = some (v, n) →
        records[i]? = some [v.impact.name, v.help, v.description, n.failureSummary.getD "",
          n.primarySelector.getD ""]) ∧
      (Correlation.ofAudit (Correlation.recorded resolve) r.audit (t, [])).2.2 =
        (r.audit.lookups.map (·.selector)).zip answers ∧
      answers.length = r.audit.lookups.length ∧
      (Correlation.ofAudit resolve r.audit t).1.points =
        (r.audit.lookups.zip answers).filterMap (fun (l, found) => l.point found) ∧
      ∀ l found p, (l, found) ∈ r.audit.lookups.zip answers → l.point found = some p →
        ∃ n, (Violation.elements r.audit.violations)[p.index]? = some (l.violation, n) ∧
          n.primarySelector = some l.selector ∧
          records[p.index]? = some [p.impact.name, l.violation.help, l.violation.description,
            n.failureSummary.getD "", l.selector] := by
  have hrecord (i : Nat) (v : Violation) (n : ViolationNode)
      (h : (Violation.elements r.audit.violations)[i]? = some (v, n)) :
      (rows r)[i]? = some (row v n) := by
    rw [rows_eq, List.getElem?_map, h]
    rfl
  obtain ⟨answers, t', hlength, hplain, hrecorded⟩ :=
    Correlation.mapM_recorded resolve r.audit.lookups t []
  refine ⟨rows r, answers, readBytes_ofReport r, ?_, hrecord, ?_, hlength, ?_,
    fun l found p hmem hpoint => ?_⟩
  · rw [rows_eq, List.length_map, r.audit.length_elements]
  · rw [Correlation.ofAudit_eq, Correlation.map_apply hrecorded, List.nil_append]
  · rw [Correlation.ofAudit_eq, Correlation.map_apply hplain, List.filterMap_map]
    rfl
  · obtain ⟨n, helement, hselector⟩ := exists_element_of_mem_lookups (List.of_mem_zip hmem).1
    obtain ⟨g, -, rfl⟩ := Option.map_eq_some_iff.1 hpoint
    refine ⟨n, helement, hselector, (hrecord _ _ _ helement).trans ?_⟩
    simp [row, hselector, HeatmapPoint.ofElement]

end PageScan.Export.Table
