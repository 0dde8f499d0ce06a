import CodeSurvey.Proofs.Scan.Report

/-!
# What a scan reports about one file

A file with an analyzer is read, and the report follows from its bytes.  Only that it cannot be
read stands in the way of a report: a file that is too large or that cannot be analysed has an
empty one.

* `Analyzer.analyzeTree_eq_ok_iff` : a tree has as its report what the walk finds in it, unless it
  is a script with a syntax error;
* `surveyFile_report` : the report of a file is a function of what reading it gives;
* `surveyFile_report_eq_ok_iff` : this report is what the walk finds in the parsed text, or empty;
* `surveyFile_report_eq_error_iff` : the errors are those of reading;
* `exists_reportsFile_of_scan` : so it is with every file in the report of a scan.
-/

namespace CodeSurvey

namespace Analyzer

variable {a : Analyzer} {limit : Int} {path : String} {tree : SyntaxTree} {bytes : List UInt8}
  {r : FileReport}

/-! ### The report of a tree -/

/-- The tree of the file at `path` has the report: what the walk of the language finds in it or,
in a script without a syntax error, what the walk of the script finds. -/
inductive Reports (path : String) (tree : SyntaxTree) : Analyzer → FileReport → Prop where
  | table (language : Language) :
      Reports path tree (.table language) (FileReport.ofEvents path (language.events tree.root))
  | script (dialect : Dialect) (reading : Reading) (h : tree.hasError = false) :
      Reports path tree (.script dialect reading)
        (FileReport.ofEvents path ((dialect.script reading).events tree.root))

theorem analyzeTree_eq_ok_iff : a.analyzeTree path tree = .ok r ↔ a.Reports path tree r := by
  constructor
  · intro h
    cases a with
    | table language =>
      obtain rfl := Except.ok.inj h
      exact .table language
    | script dialect reading =>
      rw [analyzeTree] at h
      split at h
      · cases h
      · next hno =>
        obtain rfl := Except.ok.inj h
        exact .script dialect reading (Bool.eq_false_iff.2 hno)
  · rintro (language | ⟨dialect, reading, h⟩)
    · rfl
    · rw [analyzeTree, if_neg (by simp [h])]

/-- Only a script with a syntax error has no report. -/
theorem analyzeTree_eq_error_iff {e : AnalysisError} : a.analyzeTree path tree = .error e ↔
    ∃ dialect reading, a = .script dialect reading ∧ tree.hasError = true ∧
      e = .unparsable path dialect.name "syntax error" := by
  cases a with
  | table language => simp [analyzeTree]
  | script dialect reading =>
    cases herror : tree.hasError with
    | true => simp [analyzeTree, herror, eq_comm]
    | false => simp [analyzeTree, herror]

/-! ### The report of a text -/

/-- The file at `path` with these bytes has the report: what the walk finds in the tree of the
text, or nothing when there are too many bytes or the text is a script with a syntax error. -/
inductive ReportsFile (a : Analyzer) (limit : Int) (path : String) (bytes : List UInt8) :
    FileReport → Prop where
  | tooLarge (h : limit < bytes.length) : ReportsFile a limit path bytes {}
  | found {r : FileReport} (hsize : bytes.length ≤ limit)
      (h : a.Reports path (a.grammar.parse bytes) r) : ReportsFile a limit path bytes r
  | unparsable {dialect : Dialect} {reading : Reading} (hsize : bytes.length ≤ limit)
      (h : a = .script dialect reading) (herror : (a.grammar.parse bytes).hasError = true) :
      ReportsFile a limit path bytes {}

/-- The report of a file with these bytes. -/
def reportOf (a : Analyzer) (limit : Int) (path : String) (bytes : List UInt8) :
    FileReport :=
  if limit < bytes.length then {}
  else
    match a.analyze path bytes with
    | .ok r => r
    | .error _ => {}

theorem outcome_report (a : Analyzer) (limit : Int) (path : String) (bytes : List UInt8) :
    (a.outcome limit path bytes).report = .ok (a.reportOf limit path bytes) := by
  unfold outcome reportOf
  dsimp only
  split
  · rfl
  · cases a.analyze path bytes with
    | error e => cases a <;> simp
    | ok r => cases a <;> simp

theorem reportOf_eq_iff : a.reportOf limit path bytes = r ↔ a.ReportsFile limit path bytes r := by
  unfold reportOf
  constructor
  · rintro rfl
    split
    · next hlarge => exact .tooLarge hlarge
    · next hsize =>
      rw [not_lt] at hsize
      cases hanalyze : a.analyze path bytes with
      | ok r => exact .found hsize (analyzeTree_eq_ok_iff.1 hanalyze)
      | error e =>
        obtain ⟨dialect, reading, ha, herror, -⟩ := analyzeTree_eq_error_iff.1 hanalyze
        exact .unparsable hsize ha herror
  · rintro (hlarge | ⟨hsize, hreports⟩ | ⟨hsize, ha, herror⟩)
    · rw [if_pos hlarge]
    · rw [if_neg (not_lt.2 hsize), analyze, analyzeTree_eq_ok_iff.2 hreports]
    · rw [if_neg (not_lt.2 hsize), analyze,
        analyzeTree_eq_error_iff.2 ⟨_, _, ha, herror, rfl⟩]

end Analyzer

/-! ### The report of a file -/

variable {fs : FileSystem} {settings : ScanSettings} {path : Path} {a : Analyzer}

/-- The report of a file is a function of what reading it gives. -/
theorem surveyFile_report (h : Analyzer.ofPath? path settings.reading = some a) :
    (surveyFile fs settings path).report =
      (fs.read path).map (a.reportOf settings.maxFileSize (toString path)) := by
  simp only [surveyFile, h]
  cases fs.read path with
  | error e => rfl
  | ok bytes => exact a.outcome_report _ _ _

/-- A file has a report when it can be read, and it is what the walk finds in its text. -/
theorem surveyFile_report_eq_ok_iff (h : Analyzer.ofPath? path settings.reading = some a)
    {r : FileReport} :
    (surveyFile fs settings path).report = .ok r ↔ ∃ bytes, fs.read path = .ok bytes ∧
      a.ReportsFile settings.maxFileSize (toString path) bytes r := by
  rw [surveyFile_report h]
  simp only [← Analyzer.reportOf_eq_iff]
  cases fs.read path <;> simp [Except.map]

/-- A file of more bytes than the limit allows has an empty report. -/
theorem surveyFile_report_of_limit_lt {bytes : List UInt8} (hread : fs.read path = .ok bytes)
    (hlimit : settings.maxFileSize < bytes.length) :
    (surveyFile fs settings path).report = .ok {} := by
  cases hanalyzer : Analyzer.ofPath? path settings.reading with
  | none => simp [surveyFile, hanalyzer]
  | some a => rw [surveyFile_report hanalyzer, hread, Except.map, Analyzer.reportOf, if_pos hlimit]

theorem surveyFile_report_eq_error_iff (h : Analyzer.ofPath? path settings.reading = some a)
    {e : FileError} :
    (surveyFile fs settings path).report = .error e ↔ fs.read path = .error e := by
  rw [surveyFile_report h]
  cases fs.read path <;> simp [Except.map]

theorem exists_surveyFile_report_eq_ok_iff (h : Analyzer.ofPath? path settings.reading = some a) :
    (∃ r, (surveyFile fs settings path).report = .ok r) ↔ ∃ bytes, fs.read path = .ok bytes := by
  rw [surveyFile_report h]
  cases fs.read path <;> simp [Except.map]

/-- All discovered files have an analyzer. -/
theorem Discovery.Finds.exists_analyzer {exclude : List String} {directory : Path} {d : Discovery}
    (hfinds : Discovery.Finds fs exclude directory d) {f : SourceFile} (hf : f ∈ d.sources)
    (reading : Reading) : ∃ a, Analyzer.ofPath? f.path reading = some a := by
  obtain ⟨⟨_, _, -, -, -, hsupported⟩, -⟩ := (hfinds.mem_sources f).1 hf
  rw [← Option.isSome_iff_exists, Analyzer.ofPath?, SourceFile.path, Path.extension_child]
  exact (Analyzer.supports_iff _ _).1 hsupported

/-- **A scan reports about every file what the walk finds in its text.** -/
theorem exists_reportsFile_of_scan {directory : Path} {order : Nat → List Nat}
    {report : ProjectReport} (hfs : fs.WellFormed) (horder : ∀ n, (order n).Perm (List.range n))
    (h : (scan fs directory settings order).report = .ok report) {key : String}
    {node : DirectoryReport} (hnode : (key, node) ∈ report) {file : String × FileReport}
    (hfile : file ∈ node.files) :
    ∃ names a bytes, key = toString (directory.descend names) ∧
      Analyzer.ofPath? ((directory.descend names).child file.1) settings.reading = some a ∧
      fs.read ((directory.descend names).child file.1) = .ok bytes ∧
      a.ReportsFile settings.maxFileSize (toString ((directory.descend names).child file.1)) bytes
        file.2 := by
  obtain ⟨d, reports, hd, hreports, rfl⟩ := exists_of_scan_eq_ok horder h
  obtain ⟨visited, hcovers⟩ :=
    covers_assemble hfs (Discovery.finds_ofDirectory hfs hd) hreports
  have hkey : key ∈ (d.assemble reports).map (·.1) := List.mem_map_of_mem hnode
  rw [hcovers.keys_eq] at hkey
  obtain ⟨names, hnames, rfl⟩ := List.mem_map.1 hkey
  obtain ⟨node', hlookup, hnode'⟩ := hcovers.node names hnames
  obtain rfl : node = node' := by
    rw [(lookup_eq_some_iff_mem hcovers.nodup_keys).2 hnode] at hlookup
    exact Option.some.inj hlookup
  obtain ⟨hanalyzer, hreport⟩ := hnode'.report_eq file hfile
  obtain ⟨a, ha⟩ := Option.isSome_iff_exists.1 hanalyzer
  obtain ⟨bytes, hread, hr⟩ := (surveyFile_report_eq_ok_iff ha).1 hreport
  exact ⟨names, a, bytes, rfl, ha, hread, hr⟩

end CodeSurvey
