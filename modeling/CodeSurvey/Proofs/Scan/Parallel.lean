import CodeSurvey.Proofs.Scan.File
import CodeSurvey.Proofs.Scan.Pool

/-!
# Scanning with several jobs

With several jobs the discovered files are analysed in a pool.  The caller takes the reports in
the order of discovery, so that each of them meets its own file, and an error that shows is that
of the first file that cannot be read, even if the pool has come to a later one before.

* `scan_parallel` : whatever happens in the pool, a scan with several jobs comes to the outcome of
  a scan with one.
-/

namespace CodeSurvey

variable {fs : FileSystem} {directory : Path} {settings : ScanSettings} {jobs : Int}
  {order : Nat → List Nat} {d : Discovery}

/-- The analysis of a discovered file, as a task of a pool. -/
def analysis (fs : FileSystem) (settings : ScanSettings) (f : SourceFile) :
    Except FileError FileReport := (surveyFile fs settings f.path).report

/-- The outcome of a scan is that of the discovered files one after the other. -/
theorem report_scan_of_discovery (hd : Discovery.ofDirectory fs settings.exclude directory = .ok d)
    (horder : ∀ n, (order n).Perm (List.range n)) :
    (scan fs directory { settings with jobs } order).report =
      (d.sources.mapM (analysis fs settings)).map d.assemble := by
  rw [report_scan horder]
  have hsame : Discovery.ofDirectory fs { settings with jobs }.exclude directory = .ok d := hd
  rw [hsame]
  show (d.sources.mapM (analysis fs settings) >>= fun reports => pure (d.assemble reports)) = _
  cases d.sources.mapM (analysis fs settings) <;> rfl

/-- A scan ends in the error of the first file that cannot be read. -/
theorem mapM_analysis_eq_error_iff (hfinds : Discovery.Finds fs settings.exclude directory d)
    {e : FileError} : d.sources.mapM (analysis fs settings) = .error e ↔
      ∃ before f after, d.sources = before ++ f :: after ∧
        (∀ g ∈ before, ∃ bytes, fs.read g.path = .ok bytes) ∧ fs.read f.path = .error e := by
  have hok (g : SourceFile) (hg : g ∈ d.sources) :
      (∃ r, analysis fs settings g = .ok r) ↔ ∃ bytes, fs.read g.path = .ok bytes := by
    obtain ⟨a, ha⟩ := hfinds.exists_analyzer hg settings.reading
    exact exists_surveyFile_report_eq_ok_iff ha
  have herror (f : SourceFile) (hf : f ∈ d.sources) :
      analysis fs settings f = .error e ↔ fs.read f.path = .error e := by
    obtain ⟨a, ha⟩ := hfinds.exists_analyzer hf settings.reading
    exact surveyFile_report_eq_error_iff ha
  rw [mapM_eq_error_iff_exists]
  refine exists_congr fun before => exists_congr fun f => exists_congr fun after =>
    and_congr_right fun hsources => and_congr (forall₂_congr fun g hg => hok g ?_) (herror f ?_)
  · exact hsources ▸ List.mem_append_left _ hg
  · exact hsources ▸ List.mem_append_right _ List.mem_cons_self

/-- What a scan with several jobs does, compared with a scan with one. -/
structure ScanParallel (fs : FileSystem) (directory : Path) (settings : ScanSettings) (jobs : Int) :
    Prop where
  /-- The order in which a pool finishes the files does not show. -/
  report_eq (order : Nat → List Nat) (horder : ∀ n, (order n).Perm (List.range n)) :
    (scan fs directory { settings with jobs } order).report =
      (scan fs directory { settings with jobs := 1 }).report
  /-- Nor does anything else that can happen in a pool of that many workers.  When the pool is
  done, the caller has the outcome of a scan with one job. -/
  outcome_eq (d : Discovery) (hd : Discovery.ofDirectory fs settings.exclude directory = .ok d)
    (s : Pool.State SourceFile FileError FileReport)
    (hs : Pool.Reachable jobs.toNat (analysis fs settings) d.sources s) (hended : s.Ended) :
    s.outcome.map d.assemble = (scan fs directory { settings with jobs := 1 }).report
  /-- Before the pool is done, something more happens in it, -/
  goes_on (sources : List SourceFile) (s : Pool.State SourceFile FileError FileReport)
    (hs : Pool.Reachable jobs.toNat (analysis fs settings) sources s) :
    s.Ended ∨ ∃ t, Pool.Step jobs.toNat (analysis fs settings) s t
  /-- and it comes to be done. -/
  ends : WellFounded fun t s : Pool.State SourceFile FileError FileReport =>
    Pool.Step jobs.toNat (analysis fs settings) s t
  /-- A directory that cannot be listed is the error of both. -/
  discovery_error (e : FileError)
    (he : Discovery.ofDirectory fs settings.exclude directory = .error e) :
    (scan fs directory { settings with jobs := 1 }).report = .error e
  /-- Otherwise the error is that of the first file in the order of discovery that cannot be
  read. -/
  first_error (d : Discovery) (hd : Discovery.ofDirectory fs settings.exclude directory = .ok d)
    (e : FileError) :
    (scan fs directory { settings with jobs := 1 }).report = .error e ↔
      ∃ before f after, d.sources = before ++ f :: after ∧
        (∀ g ∈ before, ∃ bytes, fs.read g.path = .ok bytes) ∧ fs.read f.path = .error e

/-- **A scan with several jobs comes to the outcome of a scan with one**, in whatever order the
files are started and finished. -/
theorem scan_parallel (hfs : fs.WellFormed) (directory : Path) (settings : ScanSettings)
    (hjobs : 1 < jobs) : ScanParallel fs directory settings jobs := by
  have hrange (n : Nat) : (List.range n).Perm (List.range n) := .refl _
  have hworkers : 0 < jobs.toNat := by omega
  exact {
    report_eq := by
      intro order horder
      rw [report_scan horder, report_scan hrange]
      rfl
    outcome_eq := by
      intro d hd s hs hended
      rw [report_scan_of_discovery hd hrange, hs.invariant.outcome_eq hended]
    goes_on := fun sources s hs => hs.invariant.ended_or_step hworkers
    ends := Pool.wellFounded_step
    discovery_error := by
      intro e he
      rw [scan, he]
    first_error := by
      intro d hd e
      rw [report_scan_of_discovery hd hrange,
        ← mapM_analysis_eq_error_iff (Discovery.finds_ofDirectory hfs hd)]
      cases d.sources.mapM (analysis fs settings) <;> simp [Except.map] }

/-- A directory with a file and two links that cannot be read, the one to nothing and the other to
something in a file. -/
def brokenLinks : FileSystem where
  entries := [("p", .directory [
    ("c.py", .link { parts := ["a.py", "x"] }),
    ("a.py", .file []),
    ("b.py", .link { parts := ["x"] })])]

theorem wellFormed_brokenLinks : brokenLinks.WellFormed := by
  refine .directory (by decide) (by decide) (List.forall_mem_singleton.2 ?_)
  refine .directory (by decide) (by decide) ?_
  simp [Entry.WellFormed.file, Entry.WellFormed.link]

-- the pool comes to the last file first, but the error is that of the second
theorem scan_parallel_brokenLinks :
    brokenLinks.WellFormed ∧ (1 : Int) < 3 ∧
    ScanParallel brokenLinks { anchor := .root, parts := ["p"] } {} 3 ∧
    (scan brokenLinks { anchor := .root, parts := ["p"] } { jobs := 3 }
      fun n => (List.range n).reverse).report =
        .error ⟨.missing, { anchor := .root, parts := ["p", "b.py"] }⟩ :=
  ⟨wellFormed_brokenLinks, by decide, scan_parallel wellFormed_brokenLinks _ _ (by decide),
    by decide +kernel⟩

end CodeSurvey
