import CodeSurvey.Proofs.Scan.Discovery
import CodeSurvey.Scan.Project
import Mathlib.Data.List.Forall2
import Mathlib.Data.Set.List

/-!
# What the report of a project covers

The report of a project is put together in a map from the texts of paths to directories, and in
each directory in a map from names to files.  Since no two of the directories that are found share
a text, and no two files of a directory a name, nothing in these maps is overwritten.

* `Pool.gather_finish` : the order in which a pool finishes its tasks does not show;
* `Discovery.Finds.assemble_eq_map` : every directory keeps its own files, in the order of
  discovery;
* `exists_report_iff` : there is a report exactly when the scanned path leads to a directory and
  all source files reached from it can be read;
* `scan_covers` : a discovery comes to an end, and the report of a scan has the directories that
  are reached and the source files in them, each once and in order.
-/

namespace CodeSurvey

/-! ### Pools -/

namespace Pool

variable {α β : Type} (work : α → β) (tasks : List α) {order : List Nat}

theorem mem_finish {i : Nat} {b : β} : (i, b) ∈ finish work tasks order ↔
    i ∈ order ∧ (tasks[i]?).map work = some b := by
  simp only [finish, List.mem_filterMap, Option.map_eq_some_iff, Prod.mk.injEq]
  constructor
  · rintro ⟨_, hi, task, htask, rfl, rfl⟩
    exact ⟨hi, task, htask, rfl⟩
  · rintro ⟨hi, task, htask, rfl⟩
    exact ⟨i, hi, task, htask, rfl, rfl⟩

theorem nodup_keys_finish (h : order.Nodup) : ((finish work tasks order).map (·.1)).Nodup := by
  rw [finish, List.map_filterMap]
  refine h.filterMap fun i j number hi hj => ?_
  simp only [Option.map_map, Option.mem_def, Option.map_eq_some_iff, Function.comp_apply] at hi hj
  obtain ⟨_, -, rfl⟩ := hi
  obtain ⟨_, -, rfl⟩ := hj
  rfl

/-- The outcomes are gathered in the order of the tasks, whichever was finished first. -/
theorem gather_finish (h : order.Perm (List.range tasks.length)) :
    gather tasks.length (finish work tasks order) = tasks.map work := by
  have hnodup := nodup_keys_finish work tasks (h.nodup_iff.2 List.nodup_range)
  have hlookup (i : Nat) (hi : i < tasks.length) :
      (finish work tasks order).lookup i = some (work tasks[i]) := by
    rw [lookup_eq_some_iff_mem hnodup, mem_finish, h.mem_iff, List.mem_range,
      List.getElem?_eq_getElem hi]
    exact ⟨hi, rfl⟩
  have hmap : (List.range tasks.length).map (fun i => (finish work tasks order).lookup i) =
      (tasks.map work).map some := by
    refine List.ext_getElem (by simp) fun i hi _ => ?_
    simp [hlookup i (by simpa using hi)]
  calc gather tasks.length (finish work tasks order)
      = ((List.range tasks.length).map
          fun i => (finish work tasks order).lookup i).filterMap id := by
        rw [List.filterMap_map]
        rfl
    _ = tasks.map work := by rw [hmap, List.filterMap_map, Function.id_comp, List.filterMap_some]

end Pool

/-! ### Putting a report together -/

/-- The report of a directory with its files set one after the other. -/
def DirectoryReport.withFiles (node : DirectoryReport) (own : List (SourceFile × FileReport)) :
    DirectoryReport :=
  { node with files := own.foldl (fun files o => assign o.1.name o.2 files) node.files }

/-- Files go to the directory whose path has the text of theirs. -/
theorem foldl_addFile (files : List (SourceFile × FileReport)) (report : ProjectReport) :
    files.foldl (fun report (file, r) => report.addFile file r) report =
      report.map fun e => (e.1, e.2.withFiles
        (files.filter fun o => e.1 = toString o.1.directory)) := by
  induction files generalizing report with
  | nil => simp [DirectoryReport.withFiles]
  | cons o files ih =>
    obtain ⟨file, r⟩ := o
    rw [List.foldl_cons, ih]
    simp only [ProjectReport.addFile, List.map_map]
    refine List.map_congr_left fun e _ => ?_
    by_cases he : e.1 = toString file.directory
    · simp [he, DirectoryReport.withFiles]
    · simp [he, DirectoryReport.withFiles]

namespace Discovery

variable {fs : FileSystem} {exclude : List String} {directory : Path} {d : Discovery}
  {reports : List FileReport}

theorem skeleton_eq_map (h : (d.directories.map (toString ·.1)).Nodup) :
    d.skeleton = d.directories.map fun e => (toString e.1, { subfolders := e.2 }) :=
  foldl_assign_of_nodup (fun e : Path × List String => toString e.1)
    (fun e => ({ subfolders := e.2 } : DirectoryReport)) h

/-- No two directories of a discovery share a text. -/
theorem Finds.toString_inj (hfinds : Finds fs exclude directory d) (hfs : fs.WellFormed)
    {a b : Path} (ha : a ∈ d.directories.map (·.1)) (hb : b ∈ d.directories.map (·.1))
    (h : toString a = toString b) : a = b := by
  obtain ⟨names, hnames, rfl⟩ := (hfinds.mem_directories a).1 ha
  obtain ⟨names', hnames', rfl⟩ := (hfinds.mem_directories b).1 hb
  rw [Path.toString_descend_inj (hnames.isName hfs) (hnames'.isName hfs) h]

theorem Finds.nodup_keys (hfinds : Finds fs exclude directory d) (hfs : fs.WellFormed) :
    (d.directories.map (toString ·.1)).Nodup := by
  refine List.pairwise_map.2 (hfinds.preorder.imp_of_mem fun {a b} ha hb hlt heq => ?_)
  have hsame := hfinds.toString_inj hfs (List.mem_map_of_mem ha) (List.mem_map_of_mem hb) heq
  rw [hsame] at hlt
  exact lt_irrefl _ hlt

/-- The files that are in a directory, with their reports. -/
def filesIn (d : Discovery) (reports : List FileReport) (directory : Path) :
    List (SourceFile × FileReport) :=
  (d.sources.zip reports).filter fun o => o.1.directory = directory

theorem Finds.pairwise_filesIn (hfinds : Finds fs exclude directory d)
    (hlength : reports.length = d.sources.length) (path : Path) :
    (d.filesIn reports path).Pairwise fun o p => o.1.name < p.1.name := by
  have hzip : (d.sources.zip reports).Pairwise
      fun o p => o.1.directory = p.1.directory → o.1.name < p.1.name := by
    have hordered := hfinds.ordered
    rw [← List.map_fst_zip hlength.ge] at hordered
    exact List.pairwise_map.1 hordered
  refine (hzip.filter _).imp_of_mem fun {o p} ho hp hlt => hlt ?_
  rw [of_decide_eq_true (List.mem_filter.1 ho).2, of_decide_eq_true (List.mem_filter.1 hp).2]

theorem mem_filesIn_iff (hlength : reports.length = d.sources.length) {path : Path}
    {name : String} :
    name ∈ (d.filesIn reports path).map (·.1.name) ↔ (⟨path, name⟩ : SourceFile) ∈ d.sources := by
  rw [← List.map_fst_zip hlength.ge]
  simp only [filesIn, List.mem_map, List.mem_filter, decide_eq_true_eq]
  constructor
  · rintro ⟨o, ⟨ho, hdir⟩, rfl⟩
    exact ⟨o, ho, by rw [← hdir]⟩
  · rintro ⟨o, ho, hf⟩
    exact ⟨o, ⟨ho, by rw [hf]⟩, by rw [hf]⟩

/-- The directories by the names that lead to them. -/
theorem Finds.exists_visited (hfinds : Finds fs exclude directory d) :
    ∃ visited : List (List String), d.directories.map (·.1) = visited.map directory.descend ∧
      ∀ names, names ∈ visited ↔ fs.Reaches exclude directory names := by
  have hrange : d.directories.map (·.1) ∈ Set.range (List.map directory.descend) := by
    rw [Set.range_list_map]
    intro path hpath
    obtain ⟨names, -, hnames⟩ := (hfinds.mem_directories path).1 hpath
    exact ⟨names, hnames⟩
  obtain ⟨visited, hpaths⟩ := hrange
  refine ⟨visited, hpaths.symm, fun names => ?_⟩
  rw [← List.mem_map_of_injective fun _ _ => Path.descend_inj.1, hpaths, hfinds.mem_directories]
  simp

/-- Every directory keeps its own files, in the order of discovery. -/
theorem Finds.assemble_eq_map (hfinds : Finds fs exclude directory d) (hfs : fs.WellFormed)
    (hlength : reports.length = d.sources.length) :
    d.assemble reports = d.directories.map fun e => (toString e.1,
      { files := (d.filesIn reports e.1).map fun o => (o.1.name, o.2), subfolders := e.2 }) := by
  rw [assemble, foldl_addFile, skeleton_eq_map (hfinds.nodup_keys hfs), List.map_map]
  refine List.map_congr_left fun e he => ?_
  have hown : ((d.sources.zip reports).filter fun o => toString e.1 = toString o.1.directory) =
      d.filesIn reports e.1 := by
    -- the map is looked up by texts, which only the directory itself has
    refine List.filter_congr fun o ho => decide_eq_decide.2 ⟨fun h => ?_, fun h => by rw [h]⟩
    have hsource := ((hfinds.mem_sources o.1).1 (List.of_mem_zip ho).1).2
    exact (hfinds.toString_inj hfs (List.mem_map_of_mem he) hsource h).symm
  have hnames : ((d.filesIn reports e.1).map (·.1.name)).Nodup :=
    List.pairwise_map.2 ((hfinds.pairwise_filesIn hlength e.1).imp ne_of_lt)
  have hfiles := foldl_assign_of_nodup _ (fun o : SourceFile × FileReport => o.2) hnames
  simp only [Function.comp_apply, DirectoryReport.withFiles, hown, hfiles]

end Discovery

/-! ### Scans -/

/-- What is reported about the directory at a path, which is reached by `names`. -/
structure DirectoryReport.Covers (fs : FileSystem) (settings : ScanSettings)
    (visited : List (List String)) (path : Path) (names : List String) (node : DirectoryReport) :
    Prop where
  /-- The directories visited from this one come in the order of their names. -/
  subfolders_increase : node.subfolders.Pairwise (· < ·)
  mem_subfolders (name : String) : name ∈ node.subfolders ↔ names ++ [name] ∈ visited
  /-- The files come in the order of their names. -/
  files_increase : (node.files.map (·.1)).Pairwise (· < ·)
  mem_files (name : String) : name ∈ node.files.map (·.1) ↔ fs.IsSource path name
  /-- Every file has an analyzer and the report that the analysis of its path gives. -/
  report_eq (file : String × FileReport) (h : file ∈ node.files) :
    (Analyzer.ofPath? (path.child file.1) settings.reading).isSome ∧
      (surveyFile fs settings (path.child file.1)).report = .ok file.2

/-- The report of a scan, where `visited` are the names that lead from the scanned directory to
the directories in it. -/
structure ProjectReport.Covers (fs : FileSystem) (settings : ScanSettings) (directory : Path)
    (visited : List (List String)) (report : ProjectReport) : Prop where
  /-- The scanned directory itself is covered. -/
  nil_mem : [] ∈ visited
  mem_visited (names : List String) :
    names ∈ visited ↔ fs.Reaches settings.exclude directory names
  /-- A directory comes before those below it and after those beside it with smaller names. -/
  preorder : visited.Pairwise (· < ·)
  keys_eq : report.map (·.1) = visited.map fun names => toString (directory.descend names)
  nodup_keys : (report.map (·.1)).Nodup
  node (names : List String) (h : names ∈ visited) :
    ∃ node, report.lookup (toString (directory.descend names)) = some node ∧
      node.Covers fs settings visited (directory.descend names) names

theorem lt_of_append_lt_append_left {α : Type} [LinearOrder α] {above a b : List α}
    (h : above ++ a < above ++ b) : a < b := by
  induction above with
  | nil => exact h
  | cons first above ih => exact ih (by simpa using h)

theorem Path.extension_child (p : Path) (name : String) :
    (p.child name).extension = extensionOf name := by
  simp [extension, Path.name, child]

section Scan

variable {fs : FileSystem} {directory : Path} {settings : ScanSettings} {order : Nat → List Nat}
  {report : ProjectReport}

/-- The report of a scan is put together from the reports of the discovered files, in whatever
order a pool finishes them. -/
theorem report_scan (horder : ∀ n, (order n).Perm (List.range n)) :
    (scan fs directory settings order).report = do
      let d ← Discovery.ofDirectory fs settings.exclude directory
      let reports ← d.sources.mapM fun f => (surveyFile fs settings f.path).report
      return d.assemble reports := by
  -- both branches hand the same outcomes to the same continuation
  have hturn (d : Discovery) (outcomes : List FileOutcome)
      (h : outcomes = d.sources.map fun f => surveyFile fs settings f.path) :
      (FileOutcome.reports outcomes).map d.assemble = do
        let reports ← d.sources.mapM fun f => (surveyFile fs settings f.path).report
        return d.assemble reports := by
    rw [h, FileOutcome.reports, List.mapM_map]
    simp only [Function.comp_def]
    cases d.sources.mapM fun f => (surveyFile fs settings f.path).report <;> rfl
  rw [scan]
  cases Discovery.ofDirectory fs settings.exclude directory with
  | error e => rfl
  | ok d =>
    dsimp only
    split
    · exact hturn d _ (Pool.gather_finish _ _ (horder _))
    · exact hturn d _ rfl

/-- The reports of the discovered files. -/
def AreReports (fs : FileSystem) (settings : ScanSettings) (d : Discovery)
    (reports : List FileReport) : Prop :=
  List.Forall₂ (fun f r => (surveyFile fs settings f.path).report = .ok r) d.sources reports

theorem exists_of_scan_eq_ok (horder : ∀ n, (order n).Perm (List.range n))
    (h : (scan fs directory settings order).report = .ok report) : ∃ d reports,
      Discovery.ofDirectory fs settings.exclude directory = .ok d ∧
      AreReports fs settings d reports ∧ d.assemble reports = report := by
  rw [report_scan horder] at h
  obtain ⟨d, hd, h⟩ := bind_eq_ok_iff.1 h
  obtain ⟨reports, hreports, h⟩ := bind_eq_ok_iff.1 h
  rw [mapM_eq_ok_iff, ← List.forall₂_eq_eq_eq, List.forall₂_map_left_iff,
    List.forall₂_map_right_iff] at hreports
  exact ⟨d, reports, hd, hreports, Except.ok.inj h⟩

variable {d : Discovery} {reports : List FileReport} {visited : List (List String)}
  {names : List String} {subfolders : List String}

/-- What is put together for a directory covers it. -/
theorem covers_filesIn (hfs : fs.WellFormed)
    (hfinds : Discovery.Finds fs settings.exclude directory d)
    (hreports : AreReports fs settings d reports)
    (hvisited : ∀ names, names ∈ visited ↔ fs.Reaches settings.exclude directory names)
    (hnames : names ∈ visited) (he : (directory.descend names, subfolders) ∈ d.directories) :
    DirectoryReport.Covers fs settings visited (directory.descend names) names
      { files := (d.filesIn reports (directory.descend names)).map fun o => (o.1.name, o.2)
        subfolders } where
  subfolders_increase := (hfinds.subfolders _ he).1
  mem_subfolders name := by
    rw [hvisited, FileSystem.reaches_concat hfs, and_iff_right ((hvisited names).1 hnames)]
    exact (hfinds.subfolders _ he).2 name
  files_increase := by
    rw [List.map_map]
    exact List.pairwise_map.2 (hfinds.pairwise_filesIn hreports.length_eq.symm _)
  mem_files name := by
    rw [List.map_map]
    refine (Discovery.mem_filesIn_iff hreports.length_eq.symm).trans ?_
    exact (hfinds.mem_sources _).trans (and_iff_left (List.mem_map_of_mem he))
  report_eq file hfile := by
    obtain ⟨o, ho, rfl⟩ := List.mem_map.1 hfile
    obtain ⟨ho, hdir⟩ := List.mem_filter.1 ho
    have hdir : o.1.directory = directory.descend names := of_decide_eq_true hdir
    obtain ⟨⟨_, _, -, -, -, hext⟩, -⟩ := (hfinds.mem_sources o.1).1 (List.of_mem_zip ho).1
    have hreport : (surveyFile fs settings o.1.path).report = .ok o.2 :=
      List.forall₂_zip hreports ho
    rw [SourceFile.path, hdir] at hreport
    rw [Analyzer.ofPath?, Path.extension_child]
    exact ⟨(Analyzer.supports_iff _ _).1 hext, hreport⟩

/-- What is put together for a project covers it. -/
theorem covers_assemble (hfs : fs.WellFormed)
    (hfinds : Discovery.Finds fs settings.exclude directory d)
    (hreports : AreReports fs settings d reports) :
    ∃ visited, ProjectReport.Covers fs settings directory visited (d.assemble reports) := by
  obtain ⟨visited, hpaths, hvisited⟩ := hfinds.exists_visited
  have hmem (names : List String) :
      directory.descend names ∈ d.directories.map (·.1) ↔ names ∈ visited := by
    rw [hpaths]
    exact List.mem_map_of_injective fun _ _ => Path.descend_inj.1
  have hassemble := hfinds.assemble_eq_map hfs hreports.length_eq.symm
  have hkeys : (d.assemble reports).map (·.1) = (d.directories.map (·.1)).map toString := by
    rw [hassemble, List.map_map, List.map_map]
    rfl
  have hnodup : ((d.assemble reports).map (·.1)).Nodup := by
    rw [hkeys, List.map_map]
    exact hfinds.nodup_keys hfs
  refine ⟨visited, (hmem []).1 ?_, hvisited, ?_, ?_, hnodup, fun names hnames => ?_⟩
  · rw [Path.descend_nil]
    exact hfinds.self_mem
  · -- all paths start with that of the scanned directory
    have hparts : (visited.map directory.descend).Pairwise fun a b => a.parts < b.parts := by
      rw [← hpaths]
      exact List.pairwise_map.2 hfinds.preorder
    exact (List.pairwise_map.1 hparts).imp lt_of_append_lt_append_left
  · rw [hkeys, hpaths, List.map_map, Function.comp_def]
  · obtain ⟨⟨path, subfolders⟩, he, rfl⟩ := List.mem_map.1 ((hmem names).2 hnames)
    refine ⟨_, ?_, covers_filesIn hfs hfinds hreports hvisited hnames he⟩
    rw [lookup_eq_some_iff_mem hnodup, hassemble]
    exact List.mem_map.2 ⟨_, he, rfl⟩

/-- There is a report when the scanned path leads to a directory and every source file that is
reached from it can be read, and only then. -/
theorem exists_report_iff (hfs : fs.WellFormed) (horder : ∀ n, (order n).Perm (List.range n)) :
    (∃ report, (scan fs directory settings order).report = .ok report) ↔
      fs.isDirectory directory = true ∧ ∀ names name,
        fs.Reaches settings.exclude directory names → fs.IsSource (directory.descend names) name →
        ∃ r, (surveyFile fs settings ((directory.descend names).child name)).report = .ok r := by
  constructor
  · rintro ⟨report, h⟩
    obtain ⟨d, reports, hd, hreports, -⟩ := exists_of_scan_eq_ok horder h
    have hfinds := Discovery.finds_ofDirectory hfs hd
    refine ⟨?_, fun names name hnames hsource => ?_⟩
    · rw [FileSystem.isDirectory_eq_true_iff]
      cases hlist : fs.list directory with
      | error e =>
        rw [Discovery.ofDirectory, hlist] at hd
        cases hd
      | ok entries => exact ⟨entries, rfl⟩
    · have hmem := (hfinds.mem_sources ⟨directory.descend names, name⟩).2
        ⟨hsource, (hfinds.mem_directories _).2 ⟨names, hnames, rfl⟩⟩
      rw [← List.map_fst_zip hreports.length_eq.le] at hmem
      obtain ⟨o, ho, hfile⟩ := List.mem_map.1 hmem
      have hreport : (surveyFile fs settings o.1.path).report = .ok o.2 :=
        List.forall₂_zip hreports ho
      rw [hfile] at hreport
      exact ⟨o.2, hreport⟩
  · rintro ⟨hdir, hread⟩
    obtain ⟨entries, hlist⟩ := FileSystem.isDirectory_eq_true_iff.1 hdir
    have hd := Discovery.ofDirectory_eq_ok hlist settings.exclude
    have hfinds := Discovery.finds_ofDirectory hfs hd
    generalize Discovery.together _ _ = d at hd hfinds
    have hall : ∀ f ∈ d.sources, ∃ r, (surveyFile fs settings f.path).report = .ok r := by
      intro f hf
      obtain ⟨hsource, hplace⟩ := (hfinds.mem_sources f).1 hf
      obtain ⟨names, hnames, hpath⟩ := (hfinds.mem_directories _).1 hplace
      rw [SourceFile.path, ← hpath]
      exact hread names f.name hnames (hpath ▸ hsource)
    obtain ⟨reports, hreports⟩ := exists_mapM_eq_ok hall
    refine ⟨d.assemble reports, ?_⟩
    rw [report_scan horder]
    exact bind_eq_ok_iff.2 ⟨d, hd, bind_eq_ok_iff.2 ⟨reports, hreports, rfl⟩⟩

/-- What a scan of a directory does. -/
structure ScanCovers (fs : FileSystem) (directory : Path) (settings : ScanSettings)
    (order : Nat → List Nat) : Prop where
  /-- The discovery comes to an end: there is no infinite way down. -/
  wellFounded : WellFounded fun below above =>
    ∃ name, fs.Visits settings.exclude above name ∧ below = above.child name
  /-- So it is determined by what it does with one directory and the paths of the entries in
  it. -/
  discovery (discover : Path → Except FileError Discovery) :
    discover = Discovery.ofDirectory fs settings.exclude ↔
      ∀ path, discover path = Discovery.levelOf fs settings.exclude discover path
  /-- There is a report unless there is no such directory or a source file cannot be read. -/
  returns : (∃ report, (scan fs directory settings order).report = .ok report) ↔
    fs.isDirectory directory = true ∧ ∀ names name,
      fs.Reaches settings.exclude directory names → fs.IsSource (directory.descend names) name →
      ∃ r, (surveyFile fs settings ((directory.descend names).child name)).report = .ok r
  covers (report : ProjectReport) (h : (scan fs directory settings order).report = .ok report) :
    ∃ visited, ProjectReport.Covers fs settings directory visited report

/-- **The report of a scan covers what is reached from the scanned directory, and nothing else.** -/
theorem scan_covers (hfs : fs.WellFormed) (directory : Path) (settings : ScanSettings)
    (horder : ∀ n, (order n).Perm (List.range n)) :
    ScanCovers fs directory settings order where
  wellFounded := FileSystem.wellFounded_visited hfs _
  discovery := Discovery.eq_ofDirectory_iff hfs _
  returns := exists_report_iff hfs horder
  covers report h := by
    obtain ⟨d, reports, hd, hreports, rfl⟩ := exists_of_scan_eq_ok horder h
    exact covers_assemble hfs (Discovery.finds_ofDirectory hfs hd) hreports

/-- A directory with a directory, a link to a file, a link back, an excluded directory and a file
without a supported extension. -/
def mixedFiles : FileSystem where
  entries := [("p", .directory [
    ("b", .directory [("c.py", .file [])]),
    ("a.py", .link { parts := ["b", "c.py"] }),
    ("up.c", .link { parts := [".."] }),
    ("out", .directory [("d.py", .file [])]),
    ("notes.txt", .file [])])]

theorem wellFormed_mixedFiles : mixedFiles.WellFormed := by
  have hfile (name : String) (hname : IsName name) :
      (Entry.directory [(name, .file [])]).WellFormed :=
    .directory (List.nodup_singleton _) (by simpa using hname) (by simpa using .file [])
  have hb := hfile "c.py" (by decide)
  have hout := hfile "d.py" (by decide)
  refine .directory (by decide) (by decide) (List.forall_mem_singleton.2 ?_)
  refine .directory (by decide) (by decide) ?_
  simp [hb, hout, Entry.WellFormed.file, Entry.WellFormed.link]

/-- Two files at a time, and nothing from the excluded directory. -/
def mixedSettings : ScanSettings := { jobs := 2, exclude := ["out"] }

-- the pool finishes the last file first
theorem scan_covers_mixedFiles :
    mixedFiles.WellFormed ∧ (∀ n, (List.range n).reverse.Perm (List.range n)) ∧
    ScanCovers mixedFiles { anchor := .root, parts := ["p"] } mixedSettings
      (fun n => (List.range n).reverse) ∧
    (scan mixedFiles { anchor := .root, parts := ["p"] } mixedSettings
      fun n => (List.range n).reverse).report = .ok
        [("/p", { files := [("a.py", {})], subfolders := ["b"] }),
          ("/p/b", { files := [("c.py", {})] })] := by
  have horder (n : Nat) : (List.range n).reverse.Perm (List.range n) := List.reverse_perm _
  exact ⟨wellFormed_mixedFiles, horder, scan_covers wellFormed_mixedFiles _ _ horder,
    by decide +kernel⟩

end Scan

end CodeSurvey
