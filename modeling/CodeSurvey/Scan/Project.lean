import CodeSurvey.Notice
import CodeSurvey.Scan.Discovery
import CodeSurvey.Scan.Pool

/-!
# Scanning a project

`scan` discovers the source files below a directory and assembles the reports of the single files
into the report of the project.  A file that cannot be analysed has an empty report; a file that
cannot be read ends the scan.

With more than one job the files are analysed by a pool.  The order in which the pool finishes
them shows in the order of the notices only, since the reports are gathered in the order of
discovery.
-/

namespace CodeSurvey

/-- What a scan takes into account. -/
structure ScanSettings where
  /-- The number of files that are analysed at a time. -/
  jobs : Int := 1
  /-- The names of the directories that are left out. -/
  exclude : List String := []
  reading : Reading := .scoped
  /-- The number of bytes above which a file is not analysed. -/
  maxFileSize : Int := 5000000
deriving DecidableEq, Repr, Inhabited

/-! ### Single files -/

/-- What comes of a file: its report, unless it could not be read. -/
structure FileOutcome where
  notices : List Notice := []
  report : Except FileError FileReport

/-- What comes of a file by an analyzer, its bytes being at hand. -/
def Analyzer.outcome (a : Analyzer) (limit : Int) (path : String) (bytes : List UInt8) :
    FileOutcome :=
  let size : Int := bytes.length
  if limit < size then ⟨[.fileSkipped path (.tooLarge path size limit)], .ok {}⟩
  else
    match a, a.analyze path bytes with
    | .table _, .ok r =>
      ⟨[.grammarLoaded a.grammar,
        .fileSurveyed path r.functions.length r.dependencies.length], .ok r⟩
    | .script _ _, .ok r => ⟨[.grammarLoaded a.grammar], .ok r⟩
    | _, .error e => ⟨[.grammarLoaded a.grammar, .fileSkipped path e], .ok {}⟩

/-- What comes of the file at a path.  Only files with a supported extension are read. -/
def surveyFile (fs : FileSystem) (settings : ScanSettings) (path : Path) : FileOutcome :=
  match Analyzer.ofPath? path settings.reading with
  | none => ⟨[], .ok {}⟩
  | some a =>
    match fs.read path with
    | .error e => ⟨[], .error e⟩
    | .ok bytes => a.outcome settings.maxFileSize (toString path) bytes

namespace FileOutcome

/-- The outcomes up to the first file that cannot be read, which is included. -/
def reached : List FileOutcome → List FileOutcome
  | [] => []
  | outcome :: rest =>
    match outcome.report with
    | .ok _ => outcome :: reached rest
    | .error _ => [outcome]

/-- The reports of all files, or the error of the first that cannot be read. -/
def reports (outcomes : List FileOutcome) : Except FileError (List FileReport) :=
  outcomes.mapM (·.report)

/-- Analyses files one after the other. -/
def inTurn (work : SourceFile → FileOutcome) (files : List SourceFile) :
    List Notice × Except FileError (List FileReport) :=
  let outcomes := files.map work
  ((reached outcomes).flatMap (·.notices), reports outcomes)

/-- Analyses files in a pool that finishes them in the given order. -/
def pooled (work : SourceFile → FileOutcome) (files : List SourceFile) (order : List Nat) :
    List Notice × Except FileError (List FileReport) :=
  let finished := Pool.finish work files order
  (finished.flatMap (·.2.notices), reports (Pool.gather files.length finished))

end FileOutcome

/-! ### Projects -/

/-- The discovered directories under the texts of their paths, still without files. -/
def Discovery.skeleton (d : Discovery) : ProjectReport :=
  d.directories.foldl (fun report (directory, subfolders) =>
    assign (toString directory) { subfolders } report) []

/-- Puts the report of a file under its name into what is reported under the text of its
directory's path. -/
def ProjectReport.addFile (report : ProjectReport) (file : SourceFile) (r : FileReport) :
    ProjectReport :=
  report.map fun (key, node) =>
    if key = toString file.directory then
      (key, { node with files := assign file.name r node.files })
    else (key, node)

/-- The report of a project from the reports of the discovered files. -/
def Discovery.assemble (d : Discovery) (reports : List FileReport) : ProjectReport :=
  (d.sources.zip reports).foldl (fun report (file, r) => report.addFile file r) d.skeleton

/-- What comes of a scan. -/
structure ScanOutcome where
  notices : List Notice := []
  report : Except FileError ProjectReport

/-- Scans the directory at a path.  `order` says in which order a pool finishes a number of
tasks. -/
def scan (fs : FileSystem) (directory : Path) (settings : ScanSettings)
    (order : Nat → List Nat := List.range) : ScanOutcome :=
  match Discovery.ofDirectory fs settings.exclude directory with
  | .error e => ⟨[], .error e⟩
  | .ok d =>
    let count := d.sources.length
    let work (file : SourceFile) := surveyFile fs settings file.path
    let (notices, reports) :=
      if 1 < settings.jobs ∧ 1 < count then FileOutcome.pooled work d.sources (order count)
      else FileOutcome.inTurn work d.sources
    ⟨.discovered d.directories.length count :: notices, reports.map d.assemble⟩

end CodeSurvey
