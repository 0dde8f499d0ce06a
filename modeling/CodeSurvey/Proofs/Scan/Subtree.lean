import CodeSurvey.Proofs.FileSystem.PathReading
import CodeSurvey.Proofs.Scan.Report

/-!
# Scanning a part of a project

What is reported about a directory depends on its path, not on the directory that the scan started
from.  So a scan of a directory that is a key of a report gives the part of the report that is
about this directory and those below it.

* `FileSystem.reaches_append` : what is reached by way of a directory is reached from it;
* `Discovery.Finds.filesIn_eq` : a directory has the same files in every discovery;
* `scan_within` : a scan of a reported directory gives its part of the report.
-/

namespace CodeSurvey

namespace FileSystem

variable {fs : FileSystem} {exclude : List String} {path : Path} {above below : List String}

theorem Reaches.isDirectory (h : fs.Reaches exclude path below) : fs.isDirectory path = true := by
  cases below with
  | nil => exact h
  | cons name rest =>
    obtain ⟨entries, inner, hlist, -⟩ := h.1
    exact isDirectory_eq_true_iff.2 ⟨entries, hlist⟩

/-- What is reached by way of a directory is reached from it. -/
theorem reaches_append : fs.Reaches exclude path (above ++ below) ↔
    fs.Reaches exclude path above ∧ fs.Reaches exclude (path.descend above) below := by
  induction above generalizing path with
  | nil =>
    rw [List.nil_append, Path.descend_nil]
    exact ⟨fun h => ⟨h.isDirectory, h⟩, fun h => h.2⟩
  | cons name rest ih => rw [List.cons_append, Reaches, Reaches, ih, Path.descend_cons, and_assoc]

end FileSystem

/-! ### One directory in two discoveries -/

/-- Two lists that increase and have the same members are the same. -/
theorem eq_of_increasing {α κ : Type} [LinearOrder κ] (key : α → κ) {l l' : List α}
    (h : l.Pairwise fun a b => key a < key b) (h' : l'.Pairwise fun a b => key a < key b)
    (hmem : ∀ a, a ∈ l ↔ a ∈ l') : l = l' := by
  have : Std.Irrefl fun a b => key a < key b := ⟨fun a => lt_irrefl (key a)⟩
  have : Std.Antisymm fun a b => key a < key b := ⟨fun a b hab hba => absurd hba hab.asymm⟩
  exact h.eq_of_mem_iff h' hmem

namespace Discovery

variable {fs : FileSystem} {settings : ScanSettings} {directory directory' : Path}
  {d d' : Discovery} {reports reports' : List FileReport} {path : Path} {names : List String}

/-- The files of a directory have the reports that they have by themselves. -/
theorem mem_filesIn (hreports : AreReports fs settings d reports) {f : SourceFile}
    {r : FileReport} : (f, r) ∈ d.filesIn reports path ↔
      f ∈ d.sources ∧ f.directory = path ∧ (surveyFile fs settings f.path).report = .ok r := by
  rw [filesIn, List.mem_filter, decide_eq_true_eq]
  constructor
  · rintro ⟨ho, hdir⟩
    exact ⟨(List.of_mem_zip ho).1, hdir, List.forall₂_zip hreports ho⟩
  · rintro ⟨hf, hdir, hr⟩
    rw [← List.map_fst_zip hreports.length_eq.le] at hf
    obtain ⟨⟨f', r'⟩, ho, rfl⟩ := List.mem_map.1 hf
    have hr' : (surveyFile fs settings f'.path).report = .ok r' := List.forall₂_zip hreports ho
    obtain rfl : r' = r := Except.ok.inj (hr'.symm.trans hr)
    exact ⟨ho, hdir⟩

/-- A directory has the same files, with the same reports, in every discovery. -/
theorem Finds.filesIn_eq (hfinds : Finds fs settings.exclude directory d)
    (hfinds' : Finds fs settings.exclude directory' d')
    (hreports : AreReports fs settings d reports) (hreports' : AreReports fs settings d' reports')
    (hpath : path ∈ d.directories.map (·.1)) (hpath' : path ∈ d'.directories.map (·.1)) :
    d.filesIn reports path = d'.filesIn reports' path := by
  refine eq_of_increasing (·.1.name) (hfinds.pairwise_filesIn hreports.length_eq.symm path)
    (hfinds'.pairwise_filesIn hreports'.length_eq.symm path) fun o => ?_
  rw [mem_filesIn hreports, mem_filesIn hreports', hfinds.mem_sources, hfinds'.mem_sources]
  constructor
  · rintro ⟨⟨hsource, -⟩, rfl, hr⟩
    exact ⟨⟨hsource, hpath'⟩, rfl, hr⟩
  · rintro ⟨⟨hsource, -⟩, rfl, hr⟩
    exact ⟨⟨hsource, hpath⟩, rfl, hr⟩

/-- A directory has the same directories below it in every discovery. -/
theorem Finds.subfolders_eq (hfinds : Finds fs settings.exclude directory d)
    (hfinds' : Finds fs settings.exclude directory' d') {below below' : List String}
    (h : (path, below) ∈ d.directories) (h' : (path, below') ∈ d'.directories) :
    below = below' := by
  obtain ⟨hsorted, hmem⟩ := hfinds.subfolders _ h
  obtain ⟨hsorted', hmem'⟩ := hfinds'.subfolders _ h'
  exact eq_of_increasing id hsorted hsorted' fun name => (hmem name).trans (hmem' name).symm

/-- What is reported about a directory of a discovery. -/
def entry (d : Discovery) (reports : List FileReport) (e : Path × List String) :
    String × DirectoryReport :=
  (toString e.1,
    { files := (d.filesIn reports e.1).map fun o => (o.1.name, o.2), subfolders := e.2 })

theorem Finds.mem_assemble (hfinds : Finds fs settings.exclude directory d) (hfs : fs.WellFormed)
    (hreports : AreReports fs settings d reports) {e : String × DirectoryReport} :
    e ∈ d.assemble reports ↔
      ∃ path below, (path, below) ∈ d.directories ∧ d.entry reports (path, below) = e := by
  rw [hfinds.assemble_eq_map hfs hreports.length_eq.symm, List.mem_map, Prod.exists]
  rfl

/-- The same is reported about a directory in every discovery. -/
theorem Finds.entry_eq (hfinds : Finds fs settings.exclude directory d)
    (hfinds' : Finds fs settings.exclude directory' d')
    (hreports : AreReports fs settings d reports) (hreports' : AreReports fs settings d' reports')
    {below below' : List String} (h : (path, below) ∈ d.directories)
    (h' : (path, below') ∈ d'.directories) :
    d.entry reports (path, below) = d'.entry reports' (path, below') := by
  obtain rfl := hfinds.subfolders_eq hfinds' h h'
  have hfiles := hfinds.filesIn_eq hfinds' hreports hreports' (List.mem_map_of_mem h)
    (List.mem_map_of_mem h')
  simp only [entry, hfiles]

/-! ### The part of a report below a directory -/

/-- A directory is reported under a key that gives its path back. -/
theorem Finds.ofString_toString (hfinds : Finds fs settings.exclude directory d)
    (hfs : fs.WellFormed) (hnormal : directory.Normal) (hpath : path ∈ d.directories.map (·.1)) :
    Path.ofString (toString path) = path := by
  obtain ⟨names, hnames, rfl⟩ := (hfinds.mem_directories path).1 hpath
  exact Path.ofString_toString (hnormal.descend (hnames.isName hfs))

/-- The keys of a report come in the order of the paths. -/
theorem Finds.increasing_assemble (hfinds : Finds fs settings.exclude directory d)
    (hfs : fs.WellFormed) (hnormal : directory.Normal)
    (hreports : AreReports fs settings d reports) :
    (d.assemble reports).Pairwise fun a b =>
      (Path.ofString a.1).parts < (Path.ofString b.1).parts := by
  rw [hfinds.assemble_eq_map hfs hreports.length_eq.symm, List.pairwise_map]
  refine hfinds.preorder.imp_of_mem fun {a b} ha hb hlt => ?_
  rwa [hfinds.ofString_toString hfs hnormal (List.mem_map_of_mem ha),
    hfinds.ofString_toString hfs hnormal (List.mem_map_of_mem hb)]

/-- The directories found from a directory that is reached are those found below it. -/
theorem Finds.mem_directories_descend (hfinds : Finds fs settings.exclude directory d)
    (hfinds' : Finds fs settings.exclude (directory.descend names) d')
    (hnames : fs.Reaches settings.exclude directory names) :
    path ∈ d'.directories.map (·.1) ↔
      path ∈ d.directories.map (·.1) ∧ path.isWithin (directory.descend names) = true := by
  rw [hfinds.mem_directories, hfinds'.mem_directories, Path.isWithin_iff]
  constructor
  · rintro ⟨rest, hrest, rfl⟩
    exact ⟨⟨names ++ rest, FileSystem.reaches_append.2 ⟨hnames, hrest⟩, Path.descend_append _ _ _⟩,
      rest, rfl⟩
  · rintro ⟨⟨names', hreach, hpath⟩, rest, rfl⟩
    rw [← Path.descend_append, Path.descend_inj] at hpath
    subst hpath
    exact ⟨rest, (FileSystem.reaches_append.1 hreach).2, rfl⟩

/-- What is below a directory that is reached makes up the report of the directory. -/
theorem Finds.assemble_eq_filter (hfinds : Finds fs settings.exclude directory d)
    (hfinds' : Finds fs settings.exclude (directory.descend names) d') (hfs : fs.WellFormed)
    (hnormal : directory.Normal) (hreports : AreReports fs settings d reports)
    (hreports' : AreReports fs settings d' reports')
    (hnames : fs.Reaches settings.exclude directory names) :
    d'.assemble reports' = (d.assemble reports).filter fun e =>
      (Path.ofString e.1).isWithin (directory.descend names) := by
  have hnormal' := hnormal.descend (hnames.isName hfs)
  have hsorted := hfinds'.increasing_assemble hfs hnormal' hreports'
  have hsorted' := (hfinds.increasing_assemble hfs hnormal hreports).filter
    fun e => (Path.ofString e.1).isWithin (directory.descend names)
  refine eq_of_increasing (fun e : String × DirectoryReport => (Path.ofString e.1).parts) hsorted
    hsorted' fun e => ?_
  have hmem (path : Path) : path ∈ d'.directories.map (·.1) ↔
      path ∈ d.directories.map (·.1) ∧ path.isWithin (directory.descend names) = true :=
    hfinds.mem_directories_descend hfinds' hnames
  rw [List.mem_filter, hfinds.mem_assemble hfs hreports, hfinds'.mem_assemble hfs hreports']
  constructor
  · rintro ⟨path, below', h', rfl⟩
    obtain ⟨hpath, hwithin⟩ := (hmem path).1 (List.mem_map_of_mem h')
    obtain ⟨⟨_, below⟩, h, rfl⟩ := List.mem_map.1 hpath
    refine ⟨⟨_, below, h, hfinds.entry_eq hfinds' hreports hreports' h h'⟩, ?_⟩
    rw [entry, hfinds.ofString_toString hfs hnormal hpath]
    exact hwithin
  · rintro ⟨⟨path, below, h, rfl⟩, hwithin⟩
    have hpath : path ∈ d.directories.map (·.1) := List.mem_map_of_mem h
    rw [entry, hfinds.ofString_toString hfs hnormal hpath] at hwithin
    obtain ⟨⟨_, below'⟩, h', rfl⟩ := List.mem_map.1 ((hmem path).2 ⟨hpath, hwithin⟩)
    exact ⟨_, below', h', (hfinds.entry_eq hfinds' hreports hreports' h h').symm⟩

end Discovery

/-! ### Scans -/

section Scan

variable {fs : FileSystem} {settings : ScanSettings} {order order' : Nat → List Nat}
  {report : ProjectReport}

/-- All that a scan of a directory reads, a scan from above has read. -/
theorem exists_report_descend {directory : Path} {names : List String} (hfs : fs.WellFormed)
    (horder : ∀ n, (order n).Perm (List.range n)) (horder' : ∀ n, (order' n).Perm (List.range n))
    (h : (scan fs directory settings order).report = .ok report)
    (hnames : fs.Reaches settings.exclude directory names) :
    ∃ report', (scan fs (directory.descend names) settings order').report = .ok report' := by
  obtain ⟨-, hread⟩ := (exists_report_iff hfs horder).1 ⟨report, h⟩
  refine (exists_report_iff hfs horder').2 ⟨?_, fun rest name hrest hsource => ?_⟩
  · rw [← List.append_nil names] at hnames
    exact (FileSystem.reaches_append.1 hnames).2
  · rw [← Path.descend_append] at hsource ⊢
    exact hread _ name (FileSystem.reaches_append.2 ⟨hnames, hrest⟩) hsource

/-- **A scan of a reported directory gives its part of the report**, the directory itself and
those below it, in the same order and with the same files and directories in them. -/
theorem scan_within {root key : String} (hfs : fs.WellFormed)
    (horder : ∀ n, (order n).Perm (List.range n)) (horder' : ∀ n, (order' n).Perm (List.range n))
    (h : (scan fs (Path.ofString root) settings order).report = .ok report)
    (hkey : key ∈ report.map (·.1)) :
    (scan fs (Path.ofString key) settings order').report = .ok (report.filter fun e =>
      (Path.ofString e.1).isWithin (Path.ofString key)) := by
  have hnormal := Path.normal_ofString root
  generalize Path.ofString root = directory at h hnormal
  obtain ⟨d, reports, hd, hreports, hassemble⟩ := exists_of_scan_eq_ok horder h
  have hfinds := Discovery.finds_ofDirectory hfs hd
  -- the key is the text of the path of a directory that is reached
  rw [← hassemble, hfinds.assemble_eq_map hfs hreports.length_eq.symm, List.map_map] at hkey
  obtain ⟨⟨path, below⟩, he, rfl⟩ := List.mem_map.1 hkey
  have hpath : path ∈ d.directories.map (·.1) := List.mem_map_of_mem he
  obtain ⟨names, hnames, rfl⟩ := (hfinds.mem_directories path).1 hpath
  obtain ⟨report', hreport'⟩ := exists_report_descend hfs horder horder' h hnames
  obtain ⟨d', reports', hd', hreports', rfl⟩ := exists_of_scan_eq_ok horder' hreport'
  have hfinds' := Discovery.finds_ofDirectory hfs hd'
  dsimp only [Function.comp_apply]
  rw [hfinds.ofString_toString hfs hnormal hpath, hreport', ← hassemble,
    hfinds.assemble_eq_filter hfinds' hfs hnormal hreports hreports' hnames]

/-- A file in the working directory, and directories within each other below it. -/
def nestedFiles : FileSystem where
  entries := [("p", .directory [
    ("e.py", .file []),
    ("a", .directory [("c", .directory [("d.py", .file [])]), ("b.py", .file [])]),
    ("f", .directory [])])]
  workingDirectory := ["p"]

theorem wellFormed_nestedFiles : nestedFiles.WellFormed := by
  have hc : (Entry.directory [("d.py", .file [])]).WellFormed :=
    .directory (List.nodup_singleton _) (by decide) (by simpa using .file _)
  have ha : (Entry.directory [("c", .directory [("d.py", .file [])]),
      ("b.py", .file [])]).WellFormed :=
    .directory (by decide) (by decide) (by simp [hc, Entry.WellFormed.file])
  have hf : (Entry.directory []).WellFormed := .directory .nil (by simp) (by simp)
  refine .directory (by decide) (by decide) (List.forall_mem_singleton.2 ?_)
  refine .directory (by decide) (by decide) ?_
  simp [ha, hf, Entry.WellFormed.file]

theorem scan_within_nestedFiles :
    nestedFiles.WellFormed ∧ (∀ n, (List.range n).Perm (List.range n)) ∧
    (∀ n, (List.range n).reverse.Perm (List.range n)) ∧
    (scan nestedFiles (Path.ofString ".") {}).report = .ok
      [(".", { files := [("e.py", {})], subfolders := ["a", "f"] }),
        ("a", { files := [("b.py", {})], subfolders := ["c"] }),
        ("a/c", { files := [("d.py", {})] }), ("f", {})] ∧
    (scan nestedFiles (Path.ofString "a") {} fun n => (List.range n).reverse).report = .ok
      [("a", { files := [("b.py", {})], subfolders := ["c"] }),
        ("a/c", { files := [("d.py", {})] })] := by
  have horder (n : Nat) : (List.range n).Perm (List.range n) := .refl _
  have horder' (n : Nat) : (List.range n).reverse.Perm (List.range n) := List.reverse_perm _
  have hscan : (scan nestedFiles (Path.ofString ".") {}).report = .ok
      [(".", { files := [("e.py", {})], subfolders := ["a", "f"] }),
        ("a", { files := [("b.py", {})], subfolders := ["c"] }),
        ("a/c", { files := [("d.py", {})] }), ("f", {})] := by decide +kernel
  exact ⟨wellFormed_nestedFiles, horder, horder', hscan,
    scan_within wellFormed_nestedFiles horder horder' hscan (by decide)⟩

end Scan

end CodeSurvey
