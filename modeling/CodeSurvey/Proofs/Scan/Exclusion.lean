import CodeSurvey.Proofs.Scan.Subtree

/-!
# Excluded directories

A directory with an excluded name is passed over with all that lies below it, and nothing else
depends on the names that are excluded.  So a scan with exclusions reports what the scan without
them reports about the directories that are left.

* `FileSystem.reaches_iff_of_exclude` : with exclusions those directories are reached that are
  reached anyway, by names none of which is excluded;
* `ProjectReport.Covers.exists_eq_map` : a report is a list of what is said about the visited
  directories;
* `DirectoryReport.Covers.files_eq` : what is said about the files of a directory is settled by
  which source files are in it and what comes of each;
* `scan_without` : **a scan with exclusions gives the report without the excluded directories.**
-/

namespace CodeSurvey

namespace FileSystem

variable {fs : FileSystem} {exclude : List String} {path : Path} {name : String}
  {names : List String}

theorem visits_iff_of_exclude :
    fs.Visits exclude path name ↔ fs.Visits [] path name ∧ name ∉ exclude := by
  constructor
  · rintro ⟨entries, inner, hlist, hname, hkept⟩
    exact ⟨⟨entries, inner, hlist, hname, List.not_mem_nil⟩, hkept⟩
  · rintro ⟨⟨entries, inner, hlist, hname, -⟩, hkept⟩
    exact ⟨entries, inner, hlist, hname, hkept⟩

/-- With exclusions those directories are reached that no excluded name leads to. -/
theorem reaches_iff_of_exclude :
    fs.Reaches exclude path names ↔ fs.Reaches [] path names ∧ ∀ name ∈ names, name ∉ exclude := by
  induction names generalizing path with
  | nil => simp [Reaches]
  | cons first rest ih =>
    rw [Reaches, Reaches, visits_iff_of_exclude, ih, List.forall_mem_cons]
    constructor
    · rintro ⟨⟨hvisits, hfirst⟩, hreach, hrest⟩
      exact ⟨⟨hvisits, hreach⟩, hfirst, hrest⟩
    · rintro ⟨⟨hvisits, hreach⟩, hfirst, hrest⟩
      exact ⟨⟨hvisits, hfirst⟩, hreach, hrest⟩

end FileSystem

/-! ### A report and what it covers -/

section Covers

variable {fs fs' : FileSystem} {settings settings' : ScanSettings} {directory path path' : Path}
  {visited visited' : List (List String)} {names names' : List String}
  {node node' : DirectoryReport} {report : ProjectReport}

/-- A directory has its source files with what comes of each. -/
theorem DirectoryReport.Covers.mem_files_iff
    (h : DirectoryReport.Covers fs settings visited path names node) {name : String}
    {r : FileReport} : (name, r) ∈ node.files ↔
      fs.IsSource path name ∧ (surveyFile fs settings (path.child name)).report = .ok r := by
  constructor
  · intro hfile
    exact ⟨(h.mem_files name).1 (List.mem_map_of_mem hfile), (h.report_eq _ hfile).2⟩
  · rintro ⟨hsource, hr⟩
    obtain ⟨⟨_, r'⟩, hfile, rfl⟩ := List.mem_map.1 ((h.mem_files name).2 hsource)
    have hr' := (h.report_eq _ hfile).2
    rw [hr] at hr'
    cases hr'
    exact hfile

/-- The same is said about the files of two directories that have the same source files, of each
of which the same comes. -/
theorem DirectoryReport.Covers.files_eq
    (h : DirectoryReport.Covers fs settings visited path names node)
    (h' : DirectoryReport.Covers fs' settings' visited' path' names' node')
    (hsources : ∀ name, fs'.IsSource path' name ↔ fs.IsSource path name)
    (hreports : ∀ name, fs.IsSource path name →
      (surveyFile fs' settings' (path'.child name)).report =
        (surveyFile fs settings (path.child name)).report) :
    node'.files = node.files := by
  have hsorted := List.pairwise_map.1 h.files_increase
  have hsorted' := List.pairwise_map.1 h'.files_increase
  refine eq_of_increasing (·.1) hsorted' hsorted fun file => ?_
  obtain ⟨name, r⟩ := file
  rw [h.mem_files_iff, h'.mem_files_iff, hsources]
  refine and_congr_right fun hsource => ?_
  rw [hreports name hsource]

theorem eq_map_lookup {α : Type} (l : List (String × α)) (default : α)
    (h : (l.map (·.1)).Nodup) :
    l = (l.map (·.1)).map fun key => (key, (l.lookup key).getD default) := by
  rw [List.map_map]
  refine (List.map_id l).symm.trans (List.map_congr_left fun p hp => ?_)
  have hp' : l.lookup p.1 = some p.2 := (lookup_eq_some_iff_mem h).2 hp
  simp [hp']

/-- A report says about each visited directory what covers it. -/
theorem ProjectReport.Covers.exists_eq_map
    (h : ProjectReport.Covers fs settings directory visited report) :
    ∃ nodeAt : List String → DirectoryReport,
      report = visited.map (fun names => (toString (directory.descend names), nodeAt names)) ∧
      ∀ names ∈ visited, DirectoryReport.Covers fs settings visited (directory.descend names) names
        (nodeAt names) := by
  refine ⟨fun names => (report.lookup (toString (directory.descend names))).getD {}, ?_, ?_⟩
  · have hreport := eq_map_lookup report {} h.nodup_keys
    rw [h.keys_eq, List.map_map] at hreport
    exact hreport
  · intro names hnames
    obtain ⟨node, hnode, hcovers⟩ := h.node names hnames
    dsimp only
    rw [hnode]
    exact hcovers

/-- The names that lead to visited directories are names of entries. -/
theorem ProjectReport.Covers.isName (hfs : fs.WellFormed)
    (h : ProjectReport.Covers fs settings directory visited report) (hnames : names ∈ visited) :
    ∀ name ∈ names, IsName name := ((h.mem_visited names).1 hnames).isName hfs

end Covers

/-! ### Scans with exclusions -/

/-- The report without the directories that an excluded name below the root leads to.  Nothing is
said about the name of the root, nor about those of files. -/
def ProjectReport.without (report : ProjectReport) (root : Path) (exclude : List String) :
    ProjectReport :=
  (report.filter fun e => ((Path.ofString e.1).parts.drop root.parts.length).all (· ∉ exclude)).map
    fun e => (e.1, { e.2 with subfolders := e.2.subfolders.filter (· ∉ exclude) })

section Scan

variable {fs : FileSystem} {settings : ScanSettings} {order order' : Nat → List Nat}
  {directory : Path} {visited visited' : List (List String)} {names : List String}
  {node node' : DirectoryReport} {report report' : ProjectReport}

/-- All that a scan with exclusions reads, the scan without them has read. -/
theorem exists_report_of_exclude (hfs : fs.WellFormed)
    (horder : ∀ n, (order n).Perm (List.range n)) (horder' : ∀ n, (order' n).Perm (List.range n))
    (h : (scan fs directory { settings with exclude := [] } order).report = .ok report) :
    ∃ report', (scan fs directory settings order').report = .ok report' := by
  obtain ⟨hdirectory, hread⟩ := (exists_report_iff hfs horder).1 ⟨report, h⟩
  refine (exists_report_iff hfs horder').2 ⟨hdirectory, fun names name hnames hsource => ?_⟩
  exact hread names name (FileSystem.reaches_iff_of_exclude.1 hnames).1 hsource

/-- The visited directories are those that no excluded name leads to. -/
theorem visited_eq_filter
    (h : ProjectReport.Covers fs { settings with exclude := [] } directory visited report)
    (h' : ProjectReport.Covers fs settings directory visited' report') :
    visited' = visited.filter fun names => names.all (· ∉ settings.exclude) := by
  refine eq_of_increasing id h'.preorder (h.preorder.filter _) fun names => ?_
  rw [h'.mem_visited, FileSystem.reaches_iff_of_exclude, List.mem_filter, h.mem_visited]
  simp

/-- A directory has the same files, and those of the directories in it that are not excluded. -/
theorem node_eq_of_exclude
    (h : DirectoryReport.Covers fs { settings with exclude := [] } visited path names node)
    (h' : DirectoryReport.Covers fs settings visited' path names node')
    (hvisited : visited' = visited.filter fun names => names.all (· ∉ settings.exclude))
    (hnames : names ∈ visited') :
    node' = { node with subfolders := node.subfolders.filter (· ∉ settings.exclude) } := by
  have hfiles : node'.files = node.files := h.files_eq h' (fun _ => Iff.rfl) fun _ _ => rfl
  have hkept : names.all (· ∉ settings.exclude) = true := by
    rw [hvisited] at hnames
    exact (List.mem_filter.1 hnames).2
  have hsubfolders : node'.subfolders = node.subfolders.filter (· ∉ settings.exclude) := by
    have hincrease := h.subfolders_increase.filter (· ∉ settings.exclude)
    refine eq_of_increasing id h'.subfolders_increase hincrease fun name => ?_
    rw [h'.mem_subfolders, List.mem_filter, h.mem_subfolders, hvisited, List.mem_filter,
      List.all_append, hkept, Bool.true_and, List.all_cons, List.all_nil, Bool.and_true]
  obtain ⟨files, subfolders⟩ := node'
  rw [← hfiles, ← hsubfolders]

/-- **A scan with exclusions gives the report without the excluded directories**: those that are
left come in the same order and have the same files, and only their lists of directories are
shorter.  The scanned directory is never left out. -/
theorem scan_without {root : String} (hfs : fs.WellFormed) (settings : ScanSettings)
    (horder : ∀ n, (order n).Perm (List.range n)) (horder' : ∀ n, (order' n).Perm (List.range n))
    (h : (scan fs (Path.ofString root) { settings with exclude := [] } order).report =
      .ok report) :
    (scan fs (Path.ofString root) settings order').report =
        .ok (report.without (Path.ofString root) settings.exclude) ∧
      toString (Path.ofString root) ∈
        (report.without (Path.ofString root) settings.exclude).map (·.1) := by
  have hnormal := Path.normal_ofString root
  generalize Path.ofString root = directory at h hnormal
  obtain ⟨report', h'⟩ := exists_report_of_exclude hfs horder horder' h
  obtain ⟨visited, hcovers⟩ := (scan_covers hfs directory _ horder).covers report h
  obtain ⟨visited', hcovers'⟩ := (scan_covers hfs directory _ horder').covers report' h'
  have hvisited := visited_eq_filter hcovers hcovers'
  obtain ⟨nodeAt, hreport, hnodes⟩ := hcovers.exists_eq_map
  obtain ⟨nodeAt', hreport', hnodes'⟩ := hcovers'.exists_eq_map
  -- the names below the root are read off the key of a directory
  have hkey : ∀ names ∈ visited,
      (Path.ofString (toString (directory.descend names))).parts.drop directory.parts.length =
        names := by
    intro names hnames
    rw [Path.ofString_toString (hnormal.descend (hcovers.isName hfs hnames))]
    exact List.drop_left
  have hleft : report' = report.without directory settings.exclude := by
    rw [hreport', hreport, ProjectReport.without, List.filter_map, List.map_map, hvisited]
    have hfilter : visited.filter ((fun e : String × DirectoryReport =>
          ((Path.ofString e.1).parts.drop directory.parts.length).all (· ∉ settings.exclude)) ∘
            fun names => (toString (directory.descend names), nodeAt names)) =
        visited.filter fun names => names.all (· ∉ settings.exclude) :=
      List.filter_congr fun names hnames => by simp only [Function.comp_apply, hkey names hnames]
    rw [hfilter]
    refine List.map_congr_left fun names hnames => ?_
    rw [← hvisited] at hnames
    have hnames₀ : names ∈ visited := (List.mem_filter.1 (hvisited ▸ hnames)).1
    rw [node_eq_of_exclude (hnodes names hnames₀) (hnodes' names hnames) hvisited hnames]
    rfl
  refine ⟨hleft ▸ h', ?_⟩
  rw [← hleft, hcovers'.keys_eq]
  exact List.mem_map.2 ⟨[], hcovers'.nil_mem, by rw [Path.descend_nil]⟩

/-- Directories of one name at several depths, one of them the root, and a file that has a name
as directories have. -/
def repeatedNames : FileSystem where
  entries := [("p", .directory [
    ("q.py", .file []),
    ("q", .directory [("r.py", .file [])]),
    ("a", .directory [("p", .directory []), ("b", .directory [("q", .directory [])])])])]

theorem wellFormed_repeatedNames : repeatedNames.WellFormed := by
  have hempty : (Entry.directory []).WellFormed := .directory .nil (by simp) (by simp)
  have hq : (Entry.directory [("r.py", .file [])]).WellFormed :=
    .directory (by decide) (by decide) (by simpa using .file _)
  have hb : (Entry.directory [("q", .directory [])]).WellFormed :=
    .directory (by decide) (by decide) (by simp [hempty])
  have ha : (Entry.directory [("p", .directory []),
      ("b", .directory [("q", .directory [])])]).WellFormed :=
    .directory (by decide) (by decide) (by simp [hempty, hb])
  refine .directory (by decide) (by decide) (List.forall_mem_singleton.2 ?_)
  refine .directory (by decide) (by decide) ?_
  simp [hq, ha, Entry.WellFormed.file]

-- the names of the root and of a file are excluded, and stay
theorem scan_without_repeatedNames :
    repeatedNames.WellFormed ∧ (∀ n, (List.range n).Perm (List.range n)) ∧
    (∀ n, (List.range n).reverse.Perm (List.range n)) ∧
    (scan repeatedNames (Path.ofString "/p") {}).report = .ok
      [("/p", { files := [("q.py", {})], subfolders := ["a", "q"] }),
        ("/p/a", { subfolders := ["b", "p"] }), ("/p/a/b", { subfolders := ["q"] }),
        ("/p/a/b/q", {}), ("/p/a/p", {}), ("/p/q", { files := [("r.py", {})] })] ∧
    (scan repeatedNames (Path.ofString "/p") { exclude := ["q", "p", "q.py"] }
      fun n => (List.range n).reverse).report = .ok
        [("/p", { files := [("q.py", {})], subfolders := ["a"] }),
          ("/p/a", { subfolders := ["b"] }), ("/p/a/b", {})] := by
  have horder (n : Nat) : (List.range n).Perm (List.range n) := .refl _
  have horder' (n : Nat) : (List.range n).reverse.Perm (List.range n) := List.reverse_perm _
  have hscan : (scan repeatedNames (Path.ofString "/p") {}).report = .ok
      [("/p", { files := [("q.py", {})], subfolders := ["a", "q"] }),
        ("/p/a", { subfolders := ["b", "p"] }), ("/p/a/b", { subfolders := ["q"] }),
        ("/p/a/b/q", {}), ("/p/a/p", {}), ("/p/q", { files := [("r.py", {})] })] := by
    decide +kernel
  obtain ⟨hleft, -⟩ := scan_without wellFormed_repeatedNames { exclude := ["q", "p", "q.py"] }
    horder horder' hscan
  exact ⟨wellFormed_repeatedNames, horder, horder', hscan, hleft⟩

end Scan

end CodeSurvey
