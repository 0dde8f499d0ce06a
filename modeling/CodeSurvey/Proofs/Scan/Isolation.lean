import CodeSurvey.Proofs.FileSystem.Outline
import CodeSurvey.Proofs.Scan.File

/-!
# New bytes in one file

What a discovery finds depends on the outline of the file system only, and what is reported about
a source file on nothing but its path and its bytes.  So when one file gets new bytes, whichever
they are, there is a report again, and it differs in what is reported about this file and nowhere
else.

* `Discovery.ofDirectory_put` : the same directories and source files are found;
* `scan_isolated` : the reports are the same but for the entries that lead to the file.
-/

namespace CodeSurvey

namespace Discovery

variable {fs : FileSystem} {place : List String} {old : List UInt8}

mutual

theorem ofEntry_outline (fs : FileSystem) (exclude : List String) (directory : Path)
    (name : String) : (entry : Entry) →
      ofEntry fs.outline exclude directory name entry.outline =
        ofEntry fs exclude directory name entry
  | .file _ => by simp only [Entry.outline, ofEntry]
  | .link _ => by simp only [Entry.outline, ofEntry, FileSystem.isDirectory_outline]
  | .directory entries => by
    simp only [Entry.outline, ofEntry, ofEntries_outline fs exclude (directory.child name) entries]

theorem ofEntries_outline (fs : FileSystem) (exclude : List String) (directory : Path) :
    (entries : List (String × Entry)) →
      ofEntries fs.outline exclude directory (Entry.outlines entries) =
        ofEntries fs exclude directory entries
  | [] => rfl
  | (name, entry) :: rest => by
    rw [Entry.outlines, ofEntries, ofEntries, ofEntry_outline fs exclude directory name entry,
      ofEntries_outline fs exclude directory rest]

end

/-- What is found is a matter of the outline. -/
theorem ofDirectory_outline (fs : FileSystem) (exclude : List String) (directory : Path) :
    ofDirectory fs.outline exclude directory = ofDirectory fs exclude directory := by
  rw [ofDirectory, ofDirectory, FileSystem.list_outline]
  cases fs.list directory with
  | error e => rfl
  | ok entries =>
    dsimp only [Except.map]
    rw [ofEntries_outline]

theorem ofDirectory_put (h : fs.find? place = some (.file old)) (new : List UInt8)
    (exclude : List String) (directory : Path) :
    ofDirectory (fs.put place (.file new)) exclude directory =
      ofDirectory fs exclude directory := by
  rw [← ofDirectory_outline, FileSystem.outline_put h, ofDirectory_outline]

/-- Where files have other reports, each directory has the other reports of its own files. -/
theorem filesIn_zipWith {d : Discovery} {reports : List FileReport} (path : Path)
    (f : SourceFile → FileReport → FileReport) :
    d.filesIn (List.zipWith f d.sources reports) path =
      (d.filesIn reports path).map fun o => (o.1, f o.1 o.2) := by
  have hzip : d.sources.zip (List.zipWith f d.sources reports) =
      (d.sources.zip reports).map fun o => (o.1, f o.1 o.2) := by
    generalize d.sources = sources
    induction sources generalizing reports with
    | nil => rfl
    | cons file sources ih =>
      cases reports with
      | nil => rfl
      | cons r reports => simp [ih]
  rw [filesIn, hzip, List.filter_map]
  rfl

end Discovery

/-! ### One file -/

/-- The report of the file at a path if it has these bytes. -/
def reportOfBytes (settings : ScanSettings) (path : Path) (bytes : List UInt8) : FileReport :=
  match Analyzer.ofPath? path settings.reading with
  | none => {}
  | some a => a.reportOf settings.maxFileSize (toString path) bytes

section Scan

variable {fs : FileSystem} {directory : Path} {settings : ScanSettings}
  {order order' : Nat → List Nat} {report : ProjectReport} {place : List String}
  {old : List UInt8}

/-- What is reported about a path after a file has got new bytes. -/
theorem surveyFile_put (h : fs.find? place = some (.file old)) (new : List UInt8) (path : Path) :
    (surveyFile (fs.put place (.file new)) settings path).report =
      if fs.leadsTo path place then .ok (reportOfBytes settings path new)
      else (surveyFile fs settings path).report := by
  cases ha : Analyzer.ofPath? path settings.reading with
  | none => simp [surveyFile, reportOfBytes, ha]
  | some a =>
    rw [surveyFile_report ha, surveyFile_report ha, FileSystem.read_put h, reportOfBytes, ha]
    split <;> rfl

/-- The reports `r` and `r'` of the file at a path differ at most if it is the one that has got
new bytes. -/
structure FileReport.Revised (settings : ScanSettings) (path : Path) (changed : Bool)
    (new : List UInt8) (r r' : FileReport) : Prop where
  same (h : changed = false) : r' = r
  /-- The file has an analyzer. -/
  analyzer : (Analyzer.ofPath? path settings.reading).isSome
  too_large (h : changed = true) (hsize : settings.maxFileSize < new.length) : r' = {}
  failed (h : changed = true) (a : Analyzer) (ha : Analyzer.ofPath? path settings.reading = some a)
    (e : AnalysisError) (he : a.analyze (toString path) new = .error e) : r' = {}
  /-- A file of the largest size is still analysed. -/
  analysed (h : changed = true) (hsize : new.length ≤ settings.maxFileSize) (a : Analyzer)
    (ha : Analyzer.ofPath? path settings.reading = some a) (r₀ : FileReport)
    (hr : a.analyze (toString path) new = .ok r₀) : r' = r₀

/-- The reports of the directory at a path differ at most in the files that have got new bytes. -/
structure DirectoryReport.Revised (fs : FileSystem) (settings : ScanSettings)
    (place : List String) (new : List UInt8) (path : Path) (node node' : DirectoryReport) :
    Prop where
  subfolders : node'.subfolders = node.subfolders
  /-- The files have the same names, in the same order. -/
  files : List.Forall₂ (fun file file' => file'.1 = file.1 ∧
    FileReport.Revised settings (path.child file.1) (fs.leadsTo (path.child file.1) place) new
      file.2 file'.2) node.files node'.files

/-- The reports of a project have the same keys in the same order, and differ at most in the files
that have got new bytes. -/
def ProjectReport.Revised (fs : FileSystem) (settings : ScanSettings) (place : List String)
    (new : List UInt8) (directory : Path) (report report' : ProjectReport) : Prop :=
  List.Forall₂ (fun e e' => e'.1 = e.1 ∧ ∃ names, fs.Reaches settings.exclude directory names ∧
    e.1 = toString (directory.descend names) ∧
    DirectoryReport.Revised fs settings place new (directory.descend names) e.2 e'.2)
    report report'

/-- The report of a discovered file after a file has got new bytes. -/
def SourceFile.revise (fs : FileSystem) (settings : ScanSettings) (place : List String)
    (new : List UInt8) (f : SourceFile) (r : FileReport) : FileReport :=
  if fs.leadsTo f.path place then reportOfBytes settings f.path new else r

theorem SourceFile.revised_revise {f : SourceFile}
    (hanalyzer : (Analyzer.ofPath? f.path settings.reading).isSome) (new : List UInt8)
    (r : FileReport) : FileReport.Revised settings f.path (fs.leadsTo f.path place) new r
      (f.revise fs settings place new r) where
  same h := by rw [revise, h, if_neg (by simp)]
  analyzer := hanalyzer
  too_large h hsize := by
    obtain ⟨a, ha⟩ := Option.isSome_iff_exists.1 hanalyzer
    rw [revise, if_pos h, reportOfBytes, ha]
    exact if_pos hsize
  failed h a ha e he := by
    rw [revise, if_pos h, reportOfBytes, ha]
    simp [Analyzer.reportOf, he]
  analysed h hsize a ha r₀ hr := by
    rw [revise, if_pos h, reportOfBytes, ha]
    simp [Analyzer.reportOf, hr, hsize]

/-- All discovered files can still be read. -/
theorem mapM_surveyFile_put (hplace : fs.find? place = some (.file old)) (new : List UInt8)
    {d : Discovery} {reports : List FileReport} (h : AreReports fs settings d reports) :
    (d.sources.mapM fun f => (surveyFile (fs.put place (.file new)) settings f.path).report) =
      .ok (List.zipWith (SourceFile.revise fs settings place new) d.sources reports) := by
  rw [mapM_eq_ok_iff]
  rw [AreReports] at h
  generalize d.sources = sources at h ⊢
  induction h with
  | nil => rfl
  | @cons f r sources reports hr _ ih =>
    rw [List.map_cons, List.zipWith_cons_cons, List.map_cons, ih, surveyFile_put hplace, hr,
      SourceFile.revise]
    split <;> rfl

/-- **New bytes in one file show nowhere else.**  Whatever they are, there is a report again, with
the same directories and files, and only the files that lead to this one may have other reports. -/
theorem scan_isolated (hfs : fs.WellFormed) (hplace : fs.find? place = some (.file old))
    (new : List UInt8) (horder : ∀ n, (order n).Perm (List.range n))
    (horder' : ∀ n, (order' n).Perm (List.range n))
    (h : (scan fs directory settings order).report = .ok report) :
    ∃ report', (scan (fs.put place (.file new)) directory settings order').report = .ok report' ∧
      ProjectReport.Revised fs settings place new directory report report' := by
  obtain ⟨d, reports, hd, hreports, rfl⟩ := exists_of_scan_eq_ok horder h
  have hfinds := Discovery.finds_ofDirectory hfs hd
  have hlength : reports.length = d.sources.length := hreports.length_eq.symm
  have hreports' := mapM_surveyFile_put hplace new hreports
  refine ⟨d.assemble (List.zipWith (SourceFile.revise fs settings place new) d.sources reports),
    ?_, ?_⟩
  · rw [report_scan horder', Discovery.ofDirectory_put hplace]
    exact bind_eq_ok_iff.2 ⟨d, hd, bind_eq_ok_iff.2 ⟨_, hreports', rfl⟩⟩
  · rw [hfinds.assemble_eq_map hfs hlength, hfinds.assemble_eq_map hfs (by simp [hlength]),
      ProjectReport.Revised, List.forall₂_map_left_iff, List.forall₂_map_right_iff,
      List.forall₂_same]
    intro e he
    obtain ⟨names, hnames, hpath⟩ := (hfinds.mem_directories e.1).1 (List.mem_map_of_mem he)
    refine ⟨rfl, names, hnames, by rw [hpath], rfl, ?_⟩
    rw [Discovery.filesIn_zipWith, List.map_map, List.forall₂_map_left_iff,
      List.forall₂_map_right_iff, List.forall₂_same]
    intro o ho
    obtain ⟨ho, hdir⟩ := List.mem_filter.1 ho
    have hfile : o.1.path = (directory.descend names).child o.1.name := by
      rw [SourceFile.path, of_decide_eq_true hdir, hpath]
    obtain ⟨a, ha⟩ := hfinds.exists_analyzer (List.of_mem_zip ho).1 settings.reading
    refine ⟨rfl, ?_⟩
    rw [← hfile]
    exact SourceFile.revised_revise (Option.isSome_iff_exists.2 ⟨a, ha⟩) new o.2

/-- A directory with two files, and a link to one of them further below. -/
def linkedFiles : FileSystem where
  entries := [("p", .directory [
    ("a.py", .file []),
    ("b.py", .file []),
    ("d", .directory [("c.py", .link { parts := ["..", "a.py"] })])])]

theorem wellFormed_linkedFiles : linkedFiles.WellFormed := by
  have hd : (Entry.directory [("c.py", .link { parts := ["..", "a.py"] })]).WellFormed :=
    .directory (List.nodup_singleton _) (by decide) (by simpa using .link _)
  refine .directory (by decide) (by decide) (List.forall_mem_singleton.2 ?_)
  refine .directory (by decide) (by decide) ?_
  simp [hd, Entry.WellFormed.file]

-- the file is as large as files may be, and gets too large
theorem scan_isolated_linkedFiles :
    linkedFiles.WellFormed ∧ linkedFiles.find? ["p", "a.py"] = some (.file []) ∧
    (∀ n, (List.range n).Perm (List.range n)) ∧
    (∀ n, (List.range n).reverse.Perm (List.range n)) ∧
    (scan linkedFiles { anchor := .root, parts := ["p"] } { maxFileSize := 0 }).report = .ok
      [("/p", { files := [("a.py", {}), ("b.py", {})], subfolders := ["d"] }),
        ("/p/d", { files := [("c.py", {})] })] ∧
    linkedFiles.leadsTo { anchor := .root, parts := ["p", "d", "c.py"] } ["p", "a.py"] = true ∧
    ∃ report',
      (scan (linkedFiles.put ["p", "a.py"] (.file [0x78])) { anchor := .root, parts := ["p"] }
        { maxFileSize := 0 } fun n => (List.range n).reverse).report = .ok report' ∧
      ProjectReport.Revised linkedFiles { maxFileSize := 0 } ["p", "a.py"] [0x78]
        { anchor := .root, parts := ["p"] }
        [("/p", { files := [("a.py", {}), ("b.py", {})], subfolders := ["d"] }),
          ("/p/d", { files := [("c.py", {})] })] report' := by
  have hplace : linkedFiles.find? ["p", "a.py"] = some (.file []) := rfl
  have horder (n : Nat) : (List.range n).Perm (List.range n) := .refl _
  have horder' (n : Nat) : (List.range n).reverse.Perm (List.range n) := List.reverse_perm _
  have hscan : (scan linkedFiles { anchor := .root, parts := ["p"] }
      { maxFileSize := 0 }).report = .ok
        [("/p", { files := [("a.py", {}), ("b.py", {})], subfolders := ["d"] }),
          ("/p/d", { files := [("c.py", {})] })] := by decide +kernel
  exact ⟨wellFormed_linkedFiles, hplace, horder, horder', hscan, by decide +kernel,
    scan_isolated wellFormed_linkedFiles hplace [0x78] horder horder' hscan⟩

end Scan

end CodeSurvey
