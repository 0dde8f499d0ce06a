import CodeSurvey.Proofs.Run.Settings
import CodeSurvey.Proofs.Scan.File
import CodeSurvey.Proofs.Scan.Growth

/-!
# Running again

A second run with the same arguments scans what the first one has left behind, its report and the
directories made for it among the rest.

* `FileSystem.Saved.scan_iff` : a scan gives the same report again exactly when what has been
  written stays out of what is scanned;
* `run_again` : **a second run succeeds, and repeats the first one exactly then.**
-/

namespace CodeSurvey

/-- What has been written stays out of what is scanned: no directory is visited that has been made,
and no source file that leads to the written place has got another report. -/
structure StaysOut (fs fs' : FileSystem) (root : Path) (settings : ScanSettings)
    (place : List String) : Prop where
  directories (names : List String) (h : fs'.Reaches settings.exclude root names) :
    fs.isDirectory (root.descend names) = true
  sources (names : List String) (name : String) (h : fs'.Reaches settings.exclude root names)
      (hsource : fs'.IsSource (root.descend names) name)
      (hleads : fs'.leadsTo ((root.descend names).child name) place = true) :
    (surveyFile fs' settings ((root.descend names).child name)).report =
      (surveyFile fs settings ((root.descend names).child name)).report

/-- A second run with the same arguments repeats the first one. -/
structure Repeats (fs : FileSystem) (a : RunArguments) : Prop where
  result : (run (run fs a).fileSystem a).result = (run fs a).result
  fileSystem : (run (run fs a).fileSystem a).fileSystem = (run fs a).fileSystem
  shown : (run (run fs a).fileSystem a).shown = (run fs a).shown

/-! ### Source files -/

section Sources

variable {fs fs' : FileSystem} {settings : ScanSettings} {root output path : Path}
  {place : List String} {content bytes : List UInt8} {name : String} {names : List String}

/-- A source file has a report if it can be read. -/
theorem exists_report_iff_read (h : Analyzer.supports (Path.extensionOf name) = true) :
    (∃ r, (surveyFile fs settings (path.child name)).report = .ok r) ↔
      ∃ bytes, fs.read (path.child name) = .ok bytes := by
  obtain ⟨a, ha⟩ : ∃ a, Analyzer.ofPath? (path.child name) settings.reading = some a := by
    rw [← Option.isSome_iff_exists, Analyzer.ofPath?, Path.extension_child]
    exact (Analyzer.supports_iff _ _).1 h
  exact exists_surveyFile_report_eq_ok_iff ha

/-- The report of a file depends on what is read. -/
theorem surveyFile_congr (h : fs'.read path = fs.read path) (settings : ScanSettings) :
    surveyFile fs' settings path = surveyFile fs settings path := by
  simp only [surveyFile, h]

namespace FileSystem

/-- What stands at a free place afterwards is the file, or a directory on its way. -/
theorem Saved.eq_or_isFolder (hsaved : Saved output content place fs fs') {other : List String}
    {e : Entry} (hfree : fs.find? other = none) (h : fs'.find? other = some e) :
    other = place ∨ fs'.IsFolder other := by
  cases e with
  | directory entries => exact .inr ⟨entries, h⟩
  | link target =>
    rw [hsaved.grows.link_iff, hfree] at h
    cases h
  | file bytes =>
    by_contra hne
    rw [hsaved.sameFiles (fun heq => hne (.inl heq)), hfree] at h
    cases h

/-- A path that does not lead to the written place leads to the same bytes. -/
theorem Saved.read_of_not_leadsTo (hsaved : Saved output content place fs fs')
    (hread : fs.read path = .ok bytes) (hleads : fs'.leadsTo path place = false) :
    fs'.read path = .ok bytes := by
  obtain ⟨spot, hspot⟩ := read_eq_ok_iff.1 hread
  obtain ⟨bytes', hspot'⟩ := hsaved.grows.locate_file hspot
  have hne : spot ≠ place := by
    rintro rfl
    simp [leadsTo, hspot'] at hleads
  have hold := (hsaved.sameFiles hne bytes').1 (find?_of_locate_taken hspot')
  rw [find?_of_locate_taken hspot] at hold
  cases hold
  exact read_eq_ok_iff.2 ⟨spot, hspot'⟩

theorem isDirectory_eq_false_of_read (hread : fs.read path = .ok bytes) :
    fs.isDirectory path = false := by
  obtain ⟨spot, hspot⟩ := read_eq_ok_iff.1 hread
  rw [isDirectory, hspot]

theorem Grows.exists_read (hgrows : Grows fs fs') (hread : fs.read path = .ok bytes) :
    ∃ bytes', fs'.read path = .ok bytes' := by
  obtain ⟨spot, hspot⟩ := read_eq_ok_iff.1 hread
  obtain ⟨bytes', hspot'⟩ := hgrows.locate_file hspot
  exact ⟨bytes', read_eq_ok_iff.2 ⟨spot, hspot'⟩⟩

theorem Grows.isDirectory_eq_false (hgrows : Grows fs fs') (h : fs'.isDirectory path = false) :
    fs.isDirectory path = false := by
  by_contra hdirectory
  rw [hgrows.isDirectory (by simpa using hdirectory)] at h
  cases h

/-- Every source file of the grown file system can be read if those of the one before can. -/
theorem Saved.exists_read (hsaved : Saved output content place fs fs') (hfs : fs.WellFormed)
    (hfs' : fs'.WellFormed) {exclude : List String}
    (hroot : fs.isDirectory root = true)
    (hread : ∀ names name, fs.Reaches exclude root names → fs.IsSource (root.descend names) name →
      ∃ bytes, fs.read ((root.descend names).child name) = .ok bytes)
    (hreach : fs'.Reaches exclude root names) (hsource : fs'.IsSource (root.descend names) name) :
    ∃ bytes, fs'.read ((root.descend names).child name) = .ok bytes := by
  obtain ⟨above, entries, habove⟩ := exists_locate_of_isDirectory hroot
  obtain ⟨entries', habove'⟩ := hsaved.grows.locate_folder habove
  obtain ⟨below', hbelow'⟩ := hreach.exists_locate hfs' habove'
  obtain ⟨⟨e, he⟩, hno, hsupported⟩ := (isSource_iff_find? hfs' hbelow' name).1 hsource
  cases e with
  | file bytes => exact ⟨bytes, read_eq_ok_iff.2 ⟨_, locate_child_of_file hfs' hbelow' he⟩⟩
  | directory inner =>
    rw [isDirectory, locate_child_of_isFolder hfs' hbelow' he] at hno
    cases hno
  | link target =>
    -- the link has been there before, so the directory around it has been reached
    have hlink := (hsaved.grows.link_iff _ _).1 he
    have hfolder := isFolder_dropLast hlink
    rw [List.dropLast_concat] at hfolder
    have hkept := ((reaches_iff_isFolder hfs' habove').1 hreach).2
    have hreach₀ : fs.Reaches exclude root names :=
      (reaches_iff_isFolder hfs habove).2 ⟨hfolder, hkept⟩
    obtain ⟨below, hbelow⟩ := hreach₀.exists_locate hfs habove
    have hsource₀ : fs.IsSource (root.descend names) name := (isSource_iff_find? hfs hbelow name).2
      ⟨⟨_, hlink⟩, hsaved.grows.isDirectory_eq_false hno, hsupported⟩
    obtain ⟨bytes, hbytes⟩ := hread names name hreach₀ hsource₀
    exact hsaved.grows.exists_read hbytes

/-- A directory has the same source files as before, unless the written file is one of them that
has not been there. -/
theorem Saved.isSource_iff (hsaved : Saved output content place fs fs') (hfs : fs.WellFormed)
    (hfs' : fs'.WellFormed) (hpath : fs.isDirectory path = true)
    (hread : fs.IsSource path name → ∃ bytes, fs.read (path.child name) = .ok bytes)
    (hold : fs'.IsSource path name → fs'.leadsTo (path.child name) place = true →
      ∃ bytes, fs.read (path.child name) = .ok bytes) :
    fs'.IsSource path name ↔ fs.IsSource path name := by
  obtain ⟨above, entries, habove⟩ := exists_locate_of_isDirectory hpath
  obtain ⟨entries', habove'⟩ := hsaved.grows.locate_folder habove
  have hiff := isSource_iff_find? hfs habove name
  have hiff' := isSource_iff_find? hfs' habove' name
  constructor
  · intro hsource
    obtain ⟨⟨e', he'⟩, hno, hsupported⟩ := hiff'.1 hsource
    have hno₀ := hsaved.grows.isDirectory_eq_false hno
    cases he : fs.find? (above ++ [name]) with
    | some e => exact hiff.2 ⟨⟨e, he⟩, hno₀, hsupported⟩
    | none =>
      have hproper := (hfs'.isName he').ne_dotdot
      rcases hsaved.eq_or_isFolder he he' with rfl | ⟨inner, hinner⟩
      · -- the written file could not be read before, since it was not there
        have hplace := locate_child_of_file hfs' habove' (find?_of_locate_taken hsaved.locate)
        obtain ⟨bytes, hbytes⟩ := hold hsource (by simp [leadsTo, hplace])
        obtain ⟨spot, hspot⟩ := read_eq_ok_iff.1 hbytes
        rw [locate_child_of_route habove (.free hproper he)] at hspot
        cases hspot
      · rw [isDirectory, locate_child_of_isFolder hfs' habove' hinner] at hno
        cases hno
  · intro hsource
    obtain ⟨⟨e, he⟩, -, hsupported⟩ := hiff.1 hsource
    obtain ⟨e', he'⟩ := hsaved.grows.exists_find? he
    obtain ⟨bytes, hbytes⟩ := hread hsource
    obtain ⟨bytes', hbytes'⟩ := hsaved.grows.exists_read hbytes
    exact hiff'.2 ⟨⟨e', he'⟩, isDirectory_eq_false_of_read hbytes', hsupported⟩

end FileSystem

end Sources

/-! ### The second scan -/

section Scan

variable {fs fs' : FileSystem} {settings : ScanSettings} {root output : Path}
  {place : List String} {content : List UInt8} {report report' : ProjectReport}

theorem perm_range (n : Nat) : (List.range n).Perm (List.range n) := .refl _

theorem supports_of_isSource {path : Path} {name : String} (h : fs.IsSource path name) :
    Analyzer.supports (Path.extensionOf name) = true := by
  obtain ⟨entries, entry, -, -, -, hsupported⟩ := h
  exact hsupported

/-- What a scan reads. -/
theorem exists_read_of_scan (hfs : fs.WellFormed)
    (h : (scan fs root settings).report = .ok report) {names : List String} {name : String}
    (hreach : fs.Reaches settings.exclude root names)
    (hsource : fs.IsSource (root.descend names) name) :
    ∃ bytes, fs.read ((root.descend names).child name) = .ok bytes := by
  obtain ⟨-, hread⟩ := (exists_report_iff hfs perm_range).1 ⟨report, h⟩
  exact (exists_report_iff_read (supports_of_isSource hsource)).1 (hread names name hreach hsource)

/-- After a report has been saved a scan succeeds again. -/
theorem FileSystem.Saved.exists_scan (hsaved : Saved output content place fs fs')
    (hfs : fs.WellFormed) (hfs' : fs'.WellFormed)
    (h : (scan fs root settings).report = .ok report) :
    ∃ report', (scan fs' root settings).report = .ok report' := by
  obtain ⟨hroot, -⟩ := (exists_report_iff hfs perm_range).1 ⟨report, h⟩
  refine (exists_report_iff hfs' perm_range).2
    ⟨hsaved.grows.isDirectory hroot, fun names name hreach hsource => ?_⟩
  refine (exists_report_iff_read (supports_of_isSource hsource)).2 ?_
  exact hsaved.exists_read hfs hfs' hroot (fun _ _ => exists_read_of_scan hfs h) hreach hsource

/-- Where what has been written stays out, the scan gives the same report. -/
theorem FileSystem.Saved.scan_of_staysOut (hsaved : Saved output content place fs fs')
    (hfs : fs.WellFormed) (hfs' : fs'.WellFormed)
    (h : (scan fs root settings).report = .ok report)
    (hout : StaysOut fs fs' root settings place) :
    (scan fs' root settings).report = .ok report := by
  have hreaches (names : List String) : fs'.Reaches settings.exclude root names ↔
      fs.Reaches settings.exclude root names :=
    hsaved.grows.reaches_iff hfs hfs' hout.directories
  have hread {names : List String} {name : String} (hreach : fs.Reaches settings.exclude root names)
      (hsource : fs.IsSource (root.descend names) name) :
      ∃ bytes, fs.read ((root.descend names).child name) = .ok bytes :=
    exists_read_of_scan hfs h hreach hsource
  refine scan_congr hfs hfs' perm_range perm_range hreaches (fun names hreach name => ?_)
    (fun names hreach name hsource => ?_) h
  · refine hsaved.isSource_iff hfs hfs' hreach.isDirectory_descend (hread hreach)
      fun hsource' hleads => ?_
    -- the report of the written file is the one that came of it before, when it could be read
    have hreach' := (hreaches names).2 hreach
    have hsupported := supports_of_isSource hsource'
    have hsame := hout.sources names name hreach' hsource' hleads
    obtain ⟨hroot, -⟩ := (exists_report_iff hfs perm_range).1 ⟨report, h⟩
    have hread' := hsaved.exists_read hfs hfs' hroot (fun _ _ => hread) hreach' hsource'
    rw [← exists_report_iff_read hsupported, hsame] at hread'
    exact (exists_report_iff_read hsupported).1 hread'
  · obtain ⟨bytes, hbytes⟩ := hread hreach hsource
    cases hleads : fs'.leadsTo ((root.descend names).child name) place with
    | false =>
      have hbytes' := hsaved.read_of_not_leadsTo hbytes hleads
      rw [surveyFile_congr (hbytes'.trans hbytes.symm)]
    | true =>
      have hsource' : fs'.IsSource (root.descend names) name := by
        refine (hsaved.isSource_iff hfs hfs' hreach.isDirectory_descend (hread hreach) ?_).2 hsource
        exact fun _ _ => ⟨bytes, hbytes⟩
      exact hout.sources names name ((hreaches names).2 hreach) hsource' hleads

/-- Where the scan gives the same report, what has been written has stayed out. -/
theorem staysOut_of_scan (hfs : fs.WellFormed) (hfs' : fs'.WellFormed)
    (h : (scan fs root settings).report = .ok report)
    (h' : (scan fs' root settings).report = .ok report) :
    StaysOut fs fs' root settings place := by
  obtain ⟨visited, hcovers⟩ := (scan_covers hfs root settings perm_range).covers report h
  obtain ⟨visited', hcovers'⟩ := (scan_covers hfs' root settings perm_range).covers report h'
  -- a directory is told by its key
  have hvisited : ∀ names ∈ visited', names ∈ visited := by
    intro names hnames
    have hkey : toString (root.descend names) ∈ report.map (·.1) := by
      rw [hcovers'.keys_eq]
      exact List.mem_map_of_mem hnames
    rw [hcovers.keys_eq] at hkey
    obtain ⟨names₀, hnames₀, hsame⟩ := List.mem_map.1 hkey
    have hproper := hcovers.isName hfs hnames₀
    have hproper' := hcovers'.isName hfs' hnames
    rwa [← Path.toString_descend_inj hproper hproper' hsame]
  refine ⟨fun names hreach => ?_, fun names name hreach hsource _ => ?_⟩
  · have hnames := hvisited names ((hcovers'.mem_visited names).2 hreach)
    exact ((hcovers.mem_visited names).1 hnames).isDirectory_descend
  · have hnames' := (hcovers'.mem_visited names).2 hreach
    obtain ⟨node', hnode', hcovered'⟩ := hcovers'.node names hnames'
    obtain ⟨node, hnode, hcovered⟩ := hcovers.node names (hvisited names hnames')
    rw [hnode] at hnode'
    cases hnode'
    obtain ⟨⟨_, r⟩, hfile, rfl⟩ := List.mem_map.1 ((hcovered'.mem_files name).2 hsource)
    rw [(hcovered'.report_eq _ hfile).2, (hcovered.report_eq _ hfile).2]

/-- **A scan gives the same report again exactly when what has been written stays out.** -/
theorem FileSystem.Saved.scan_iff (hsaved : Saved output content place fs fs')
    (hfs : fs.WellFormed) (hfs' : fs'.WellFormed)
    (h : (scan fs root settings).report = .ok report) :
    (scan fs' root settings).report = .ok report ↔ StaysOut fs fs' root settings place :=
  ⟨staysOut_of_scan hfs hfs' h, hsaved.scan_of_staysOut hfs hfs' h⟩

end Scan

/-! ### The path of the report -/

/-- The configuration of a directory names a path in normal form for the report, if any. -/
theorem Config.normal_output {fs : FileSystem} {root : Path} {config : Config}
    (hroot : root.Normal) (h : (Config.load fs root).2 = .ok config) :
    ∀ p ∈ config.output, p.Normal := by
  obtain ⟨value, -, hvalue⟩ := bind_eq_ok_iff.1 h
  intro p hp
  rw [ofValue.eq_def] at hvalue
  split at hvalue
  · cases hvalue
    cases hp
  · next settings =>
    cases hvalue
    rw [ofTable, outputOf.eq_def] at hp
    split at hp
    · split at hp
      · cases hp
      · cases hp
        exact hroot.join (Path.normal_ofString _)
    · cases hp
  · split at hvalue <;> cases hvalue
    cases hp

theorem RunArguments.normal_outputPath {a : RunArguments} {config : Config}
    (ha : ∀ p ∈ a.output, p.Normal) (hconfig : ∀ p ∈ config.output, p.Normal) :
    (a.outputPath config).Normal := by
  have hdefault : defaultOutput.Normal :=
    List.forall_mem_singleton.2 ⟨by decide, by decide, by decide⟩
  rw [outputPath]
  cases houtput : a.output with
  | some p => exact ha p houtput
  | none =>
    cases hconfigured : config.output with
    | some p => exact hconfig p hconfigured
    | none => exact hdefault

/-! ### The second run -/

section Run

variable {fs : FileSystem} {a : RunArguments} {root output : Path} {config : Config}
  {report report' : ProjectReport} {place : List String}

/-- Where a report has been saved, a run that has surveyed the project puts its report in the same
file. -/
theorem run_of_saved {fs' : FileSystem} {content : List UInt8}
    (hsaved : FileSystem.Saved (a.outputPath config) content place fs fs')
    (h : Surveys fs' a root config report) :
    (run fs' a).result = .ok (a.outputPath config, report) ∧
      (run fs' a).fileSystem = fs'.put place (.file (reportContent report)) ∧
      (run fs' a).shown = a.echoOf report := by
  have hsave := hsaved.save_eq (reportContent report)
  rcases run_of_surveys h with ⟨fs'', hsave', hafter, hresult, hshown⟩ | ⟨_, e, hsave', -⟩
  · rw [hsave] at hsave'
    cases hsave'
    exact ⟨hresult, hafter, hshown⟩
  · rw [hsave] at hsave'
    cases hsave'

/-- **A second run succeeds and writes to the same file, and it repeats the first run exactly when
what the first one has written stays out of what is scanned.**  The first run must not have written
its report over a configuration file. -/
theorem run_again (hfs : fs.WellFormed) (hlinks : fs.LinksNormal)
    (houtput : ∀ p ∈ a.output, p.Normal) (h : (run fs a).result = .ok (output, report))
    (hroot : fs.canonical? a.directory = some root)
    (hconfig : (Config.load fs root).2 = .ok config)
    (hplace : (run fs a).fileSystem.leadsTo output place = true)
    (hkept : Config.Kept fs (run fs a).fileSystem root place) :
    (∃ report', (run (run fs a).fileSystem a).result = .ok (output, report')) ∧
      (Repeats fs a ↔
        StaysOut fs (run fs a).fileSystem root (a.scanSettings config) place) := by
  obtain ⟨root', config', hsurveys, rfl, hsave, hshown⟩ := exists_surveys h
  obtain rfl : root' = root := Option.some.inj (hsurveys.canonical.symm.trans hroot)
  obtain rfl : config' = config := Except.ok.inj (hsurveys.load.symm.trans hconfig)
  obtain ⟨place', hsaved⟩ := FileSystem.exists_saved hsave
  obtain rfl : place' = place := by simpa [FileSystem.leadsTo, hsaved.locate] using hplace
  have hfs' : (run fs a).fileSystem.WellFormed := by
    obtain ⟨above, entries, habove⟩ := FileSystem.exists_locate_of_isDirectory hsurveys.isDirectory
    have hnormal := Config.normal_output (hfs.normal habove) hsurveys.load
    exact hfs.save hlinks (a.normal_outputPath houtput hnormal) hsave
  generalize hafter : (run fs a).fileSystem = fs' at *
  -- the second run finds the same directory and the same settings, so only its scan may differ
  have hcanonical := hsaved.grows.canonical? hsurveys.canonical hsurveys.isDirectory
  have hload := (Config.load_of_saved hsaved hkept).trans hsurveys.load
  have hagain {report' : ProjectReport}
      (hscan : (scan fs' root' (a.scanSettings config')).report = .ok report') :
      Surveys fs' a root' config' report' :=
    ⟨hcanonical, hsaved.grows.isDirectory hsurveys.isDirectory, hload, hscan⟩
  refine ⟨?_, ?_⟩
  · obtain ⟨report', hscan⟩ := hsaved.exists_scan hfs hfs' hsurveys.scan
    exact ⟨report', (run_of_saved hsaved (hagain hscan)).1⟩
  · rw [← hsaved.scan_iff hfs hfs' hsurveys.scan]
    constructor
    · intro hrepeats
      have hresult := hrepeats.result.trans h
      rw [hafter] at hresult
      obtain ⟨root₂, config₂, hsurveys₂, -⟩ := exists_surveys hresult
      obtain rfl : root₂ = root' := Option.some.inj (hsurveys₂.canonical.symm.trans hcanonical)
      obtain rfl : config₂ = config' := Except.ok.inj (hsurveys₂.load.symm.trans hload)
      exact hsurveys₂.scan
    · intro hscan
      obtain ⟨hresult, hsame, hshown'⟩ := run_of_saved hsaved (hagain hscan)
      -- the same report is there already
      rw [FileSystem.put_of_find? (FileSystem.find?_of_locate_taken hsaved.locate)] at hsame
      refine ⟨?_, ?_, ?_⟩
      · rw [hafter, hresult, h]
      · rw [hafter, hsame]
      · rw [hafter, hshown', hshown]

/-- The report goes to a new directory in the project. -/
def insideArguments : RunArguments where
  directory := Path.ofString "/p"
  output := some (Path.ofString "/p/new/report.json")

theorem run_again_besideFiles :
    besideFiles.WellFormed ∧ besideFiles.LinksNormal ∧
    (∀ p ∈ outsideArguments.output, p.Normal) ∧
    (run besideFiles outsideArguments).result =
      .ok (Path.ofString "/p/../out/new/report.json", [("/p", { files := [("a.py", {})] })]) ∧
    besideFiles.canonical? outsideArguments.directory = some (Path.ofString "/p") ∧
    (Config.load besideFiles (Path.ofString "/p")).2 = .ok {} ∧
    (run besideFiles outsideArguments).fileSystem.leadsTo
      (Path.ofString "/p/../out/new/report.json") ["out", "new", "report.json"] = true ∧
    Config.Kept besideFiles (run besideFiles outsideArguments).fileSystem (Path.ofString "/p")
      ["out", "new", "report.json"] ∧
    Repeats besideFiles outsideArguments := by
  have hlinks : besideFiles.LinksNormal := FileSystem.linksNormal_of_links_eq_zero (by decide)
  have houtput : ∀ p ∈ outsideArguments.output, p.Normal := by
    rintro p ⟨⟩
    exact Path.normal_ofString _
  have hrun : (run besideFiles outsideArguments).result =
      .ok (Path.ofString "/p/../out/new/report.json", [("/p", { files := [("a.py", {})] })]) := by
    decide +kernel
  have hroot : besideFiles.canonical? outsideArguments.directory = some (Path.ofString "/p") := by
    decide +kernel
  have hconfig : (Config.load besideFiles (Path.ofString "/p")).2 = .ok {} := by decide +kernel
  have hplace : (run besideFiles outsideArguments).fileSystem.leadsTo
      (Path.ofString "/p/../out/new/report.json") ["out", "new", "report.json"] = true := by
    decide +kernel
  have hkept : Config.Kept besideFiles (run besideFiles outsideArguments).fileSystem
      (Path.ofString "/p") ["out", "new", "report.json"] := by
    intro source bytes hread
    have hmissing : (run besideFiles outsideArguments).fileSystem.has
        ((Path.ofString "/p").child source.fileName) = false := by
      cases source <;> decide +kernel
    obtain ⟨place, hlocate⟩ := FileSystem.read_eq_ok_iff.1 hread
    rw [FileSystem.has_eq_true_iff.2 ⟨_, _, hlocate⟩] at hmissing
    cases hmissing
  refine ⟨wellFormed_besideFiles, hlinks, houtput, hrun, hroot, hconfig, hplace, hkept, ?_⟩
  refine (run_again wellFormed_besideFiles hlinks houtput hrun hroot hconfig hplace hkept).2.2 ?_
  -- the project still has one entry, which is no directory and does not lead to the report
  have hlisted : ((run besideFiles outsideArguments).fileSystem.list
      (Path.ofString "/p")).toOption.any (fun entries => entries.all (·.1 = "a.py")) = true := by
    decide +kernel
  have hname {entries : List (String × Entry)} {e : String × Entry} (hlist :
      (run besideFiles outsideArguments).fileSystem.list (Path.ofString "/p") = .ok entries)
      (he : e ∈ entries) : e.1 = "a.py" := by
    rw [hlist] at hlisted
    exact of_decide_eq_true (List.all_eq_true.1 hlisted e he)
  have hnames {names : List String} (hreach : (run besideFiles outsideArguments).fileSystem.Reaches
      [] (Path.ofString "/p") names) : names = [] := by
    cases names with
    | nil => rfl
    | cons name rest =>
      obtain ⟨⟨entries, inner, hlist, hinner, -⟩, hbelow⟩ := hreach
      obtain rfl := hname hlist hinner
      exact absurd hbelow.isDirectory (by decide +kernel)
  refine ⟨fun names hreach => ?_, fun names name hreach hsource hleads => ?_⟩
  · rw [hnames hreach]
    decide +kernel
  · obtain rfl := hnames hreach
    obtain ⟨entries, entry, hlist, hentry, -⟩ := hsource
    obtain rfl := hname hlist hentry
    revert hleads
    decide +kernel

/-- **A run need not repeat itself**: a directory that is made for the report in the project is in
the next report. -/
theorem not_always_repeats : ¬ ∀ (fs : FileSystem) (a : RunArguments) (output : Path)
    (report : ProjectReport), fs.WellFormed → (run fs a).result = .ok (output, report) →
      (run (run fs a).fileSystem a).result = .ok (output, report) := by
  intro h
  have hfirst : (run besideFiles insideArguments).result =
      .ok (Path.ofString "/p/new/report.json", [("/p", { files := [("a.py", {})] })]) := by
    decide +kernel
  have hsecond : (run (run besideFiles insideArguments).fileSystem insideArguments).result =
      .ok (Path.ofString "/p/new/report.json",
        [("/p", { files := [("a.py", {})], subfolders := ["new"] }), ("/p/new", {})]) := by
    decide +kernel
  rw [h _ _ _ _ wellFormed_besideFiles hfirst] at hsecond
  revert hsecond
  decide +kernel

end Run

end CodeSurvey
