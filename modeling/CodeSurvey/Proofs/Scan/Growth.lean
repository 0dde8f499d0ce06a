import CodeSurvey.Proofs.FileSystem.Growth
import CodeSurvey.Proofs.Scan.Exclusion

/-!
# Scans of a grown file system

A scan sees directories, the source files in them, and what comes of these.  When a file system
grows, what has been visited goes on being visited, and what else there is to visit lies in new
directories.

* `FileSystem.Grows.reaches_iff` : the same directories are reached if those reached afterwards
  have been directories before;
* `scan_congr` : a scan gives the same report where the same directories are reached, with the
  same source files and what comes of each.
-/

namespace CodeSurvey

namespace FileSystem

variable {fs fs' : FileSystem} {exclude : List String} {path root : Path} {name : String}
  {names place : List String} {entries : List (String × Entry)} {spot : Spot}

/-! ### What is in a directory -/

/-- The path of a directory goes on from there. -/
theorem locate_child_of_route (h : fs.locate path = .ok (.taken place (.directory entries)))
    (hroute : fs.Route true 0 place [name] spot) : fs.locate (path.child name) = .ok spot := by
  obtain ⟨count, hcount, hpath⟩ := locate_eq_ok_iff.1 h
  refine locate_eq_ok_iff.2 ⟨count, hcount, ?_⟩
  exact (hpath.append_iff (.inl (List.cons_ne_nil name []))).2 ⟨0, rfl, hroute⟩

theorem locate_child_of_isFolder (hfs : fs.WellFormed)
    (h : fs.locate path = .ok (.taken place (.directory entries)))
    {inner : List (String × Entry)}
    (hinner : fs.find? (place ++ [name]) = some (.directory inner)) :
    fs.locate (path.child name) = .ok (.taken (place ++ [name]) (.directory inner)) :=
  locate_child_of_route h (.down (hfs.isName hinner).ne_dotdot hinner (.stay hinner))

theorem locate_child_of_file (hfs : fs.WellFormed)
    (h : fs.locate path = .ok (.taken place (.directory entries))) {content : List UInt8}
    (hcontent : fs.find? (place ++ [name]) = some (.file content)) :
    fs.locate (path.child name) = .ok (.taken (place ++ [name]) (.file content)) :=
  locate_child_of_route h (.file (hfs.isName hcontent).ne_dotdot hcontent)

theorem visits_iff_isFolder (hfs : fs.WellFormed)
    (h : fs.locate path = .ok (.taken place (.directory entries))) :
    fs.Visits exclude path name ↔ fs.IsFolder (place ++ [name]) ∧ name ∉ exclude := by
  have hlist := list_eq_ok_iff.2 ⟨place, h⟩
  rw [visits_iff hlist, IsFolder, find?_concat (find?_of_locate_taken h)]
  simp only [(hfs.list hlist).lookup_eq_some_iff]

theorem isSource_iff_find? (hfs : fs.WellFormed)
    (h : fs.locate path = .ok (.taken place (.directory entries))) (name : String) :
    fs.IsSource path name ↔ (∃ e, fs.find? (place ++ [name]) = some e) ∧
      fs.isDirectory (path.child name) = false ∧
        Analyzer.supports (Path.extensionOf name) = true := by
  have hlist := list_eq_ok_iff.2 ⟨place, h⟩
  rw [isSource_iff hlist, find?_concat (find?_of_locate_taken h)]
  simp only [(hfs.list hlist).lookup_eq_some_iff]

/-! ### What is reached -/

theorem Reaches.isDirectory_descend (h : fs.Reaches exclude path names) :
    fs.isDirectory (path.descend names) = true := by
  rw [← List.append_nil names, reaches_append] at h
  exact h.2

/-- Directories are reached through directories in the place of the scanned one, by names that are
not excluded. -/
theorem reaches_iff_isFolder (hfs : fs.WellFormed)
    (h : fs.locate path = .ok (.taken place (.directory entries))) :
    fs.Reaches exclude path names ↔
      fs.IsFolder (place ++ names) ∧ ∀ name ∈ names, name ∉ exclude := by
  induction names generalizing path place entries with
  | nil =>
    have hdirectory : fs.isDirectory path = true := by rw [isDirectory, h]
    have hfolder : fs.IsFolder place := ⟨entries, find?_of_locate_taken h⟩
    simp [Reaches, hdirectory, hfolder]
  | cons name rest ih =>
    have hplace : place ++ name :: rest = place ++ [name] ++ rest := by simp
    rw [Reaches, visits_iff_isFolder hfs h, List.forall_mem_cons, hplace]
    constructor
    · rintro ⟨⟨⟨inner, hinner⟩, hname⟩, hreach⟩
      have hchild := locate_child_of_isFolder hfs h hinner
      obtain ⟨hfolder, hrest⟩ := (ih hchild).1 hreach
      exact ⟨hfolder, hname, hrest⟩
    · rintro ⟨hfolder, hname, hrest⟩
      obtain ⟨inner, hinner⟩ := hfolder.of_append
      have hchild := locate_child_of_isFolder hfs h hinner
      exact ⟨⟨⟨inner, hinner⟩, hname⟩, (ih hchild).2 ⟨hfolder, hrest⟩⟩

/-- What is reached lies at the place that the names lead to from the place of the scanned
directory. -/
theorem Reaches.exists_locate (hfs : fs.WellFormed)
    (h : fs.locate path = .ok (.taken place (.directory entries)))
    (hreach : fs.Reaches exclude path names) : ∃ below,
      fs.locate (path.descend names) = .ok (.taken (place ++ names) (.directory below)) := by
  induction names generalizing path place entries with
  | nil => exact ⟨entries, by rw [Path.descend_nil, List.append_nil, h]⟩
  | cons name rest ih =>
    obtain ⟨⟨inner, hinner⟩, -⟩ := (visits_iff_isFolder hfs h).1 hreach.1
    obtain ⟨below, hbelow⟩ := ih (locate_child_of_isFolder hfs h hinner) hreach.2
    refine ⟨below, ?_⟩
    rw [Path.descend_cons, hbelow, List.append_assoc, List.singleton_append]

/-- What has been reached is reached in the grown file system. -/
theorem Grows.reaches (hgrows : Grows fs fs') (hfs : fs.WellFormed) (hfs' : fs'.WellFormed)
    (h : fs.Reaches exclude path names) : fs'.Reaches exclude path names := by
  obtain ⟨place, entries, hplace⟩ := exists_locate_of_isDirectory h.isDirectory
  obtain ⟨entries', hplace'⟩ := hgrows.locate_folder hplace
  obtain ⟨hfolder, hnames⟩ := (reaches_iff_isFolder hfs hplace).1 h
  exact (reaches_iff_isFolder hfs' hplace').2 ⟨hgrows.isFolder hfolder, hnames⟩

/-- **The same directories are reached if those that are reached in the grown file system have
been directories before.** -/
theorem Grows.reaches_iff (hgrows : Grows fs fs') (hfs : fs.WellFormed) (hfs' : fs'.WellFormed)
    (hold : ∀ names, fs'.Reaches exclude root names → fs.isDirectory (root.descend names) = true) :
    fs'.Reaches exclude root names ↔ fs.Reaches exclude root names := by
  refine ⟨fun h => ?_, hgrows.reaches hfs hfs'⟩
  have hroot := hold [] h.isDirectory
  rw [Path.descend_nil] at hroot
  obtain ⟨place, entries, hplace⟩ := exists_locate_of_isDirectory hroot
  obtain ⟨entries', hplace'⟩ := hgrows.locate_folder hplace
  obtain ⟨below, hbelow⟩ := h.exists_locate hfs' hplace'
  -- the path of the directory has led to the same place before
  obtain ⟨place₀, entries₀, hplace₀⟩ := exists_locate_of_isDirectory (hold names h)
  obtain ⟨entries₀', hplace₀'⟩ := hgrows.locate_folder hplace₀
  rw [hbelow] at hplace₀'
  cases hplace₀'
  have hnames := ((reaches_iff_isFolder hfs' hplace').1 h).2
  exact (reaches_iff_isFolder hfs hplace).2 ⟨⟨_, find?_of_locate_taken hplace₀⟩, hnames⟩

end FileSystem

/-! ### Scans of two file systems -/

section Scan

variable {fs fs' : FileSystem} {directory : Path} {settings : ScanSettings}
  {order order' : Nat → List Nat} {report : ProjectReport}

theorem scan_congr (hfs : fs.WellFormed) (hfs' : fs'.WellFormed)
    (horder : ∀ n, (order n).Perm (List.range n)) (horder' : ∀ n, (order' n).Perm (List.range n))
    (hreaches : ∀ names, fs'.Reaches settings.exclude directory names ↔
      fs.Reaches settings.exclude directory names)
    (hsources : ∀ names, fs.Reaches settings.exclude directory names → ∀ name,
      (fs'.IsSource (directory.descend names) name ↔ fs.IsSource (directory.descend names) name))
    (hreports : ∀ names, fs.Reaches settings.exclude directory names → ∀ name,
      fs.IsSource (directory.descend names) name →
        (surveyFile fs' settings ((directory.descend names).child name)).report =
          (surveyFile fs settings ((directory.descend names).child name)).report)
    (h : (scan fs directory settings order).report = .ok report) :
    (scan fs' directory settings order').report = .ok report := by
  obtain ⟨hdirectory, hread⟩ := (exists_report_iff hfs horder).1 ⟨report, h⟩
  obtain ⟨report', h'⟩ : ∃ report', (scan fs' directory settings order').report = .ok report' := by
    refine (exists_report_iff hfs' horder').2 ⟨(hreaches []).2 hdirectory, ?_⟩
    intro names name hnames hsource
    have hnames₀ := (hreaches names).1 hnames
    have hsource₀ := (hsources names hnames₀ name).1 hsource
    rw [hreports names hnames₀ name hsource₀]
    exact hread names name hnames₀ hsource₀
  obtain ⟨visited, hcovers⟩ := (scan_covers hfs directory settings horder).covers report h
  obtain ⟨visited', hcovers'⟩ := (scan_covers hfs' directory settings horder').covers report' h'
  -- the visited directories come in the order of their names, so they are the same lists
  have hvisited : visited' = visited := by
    refine eq_of_increasing id hcovers'.preorder hcovers.preorder fun names => ?_
    rw [hcovers'.mem_visited, hreaches, hcovers.mem_visited]
  subst hvisited
  obtain ⟨nodeAt, hreport, hnodes⟩ := hcovers.exists_eq_map
  obtain ⟨nodeAt', hreport', hnodes'⟩ := hcovers'.exists_eq_map
  have hsame : report' = report := by
    rw [hreport, hreport']
    refine List.map_congr_left fun names hnames => ?_
    have hreached := (hcovers.mem_visited names).1 hnames
    have hnode := hnodes names hnames
    have hnode' := hnodes' names hnames
    have hfiles : (nodeAt' names).files = (nodeAt names).files :=
      hnode.files_eq hnode' (hsources names hreached) (hreports names hreached)
    have hsubfolders : (nodeAt' names).subfolders = (nodeAt names).subfolders := by
      refine eq_of_increasing id hnode'.subfolders_increase hnode.subfolders_increase fun name => ?_
      rw [hnode'.mem_subfolders, hnode.mem_subfolders]
    have hnodeAt : nodeAt' names = nodeAt names := calc
      nodeAt' names = ⟨(nodeAt' names).files, (nodeAt' names).subfolders⟩ := rfl
      _ = nodeAt names := by rw [hfiles, hsubfolders]
    rw [hnodeAt]
  rw [← hsame]
  exact h'

end Scan

end CodeSurvey
