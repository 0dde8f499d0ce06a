import CodeSurvey.Config
import CodeSurvey.FileSystem.Change
import CodeSurvey.Report.Json
import CodeSurvey.Scan.Project

/-!
# A whole run

`run` surveys a project: it reads the configuration, lets the arguments of the run overrule it,
scans the project directory and writes the report.  Nothing is written before the scan has ended
well, and the report is the only file that is written.

A file system has no permissions here, so what is there can be read, listed and written.  That a
directory is closed to listing, which ends a run with a notice of its own before anything is read,
is not part of the model.
-/

namespace CodeSurvey

/-- What is asked for in a run.  What is left open comes from the configuration. -/
structure RunArguments where
  directory : Path := {}
  output : Option Path := none
  jobs : Option Int := none
  reading : Option Reading := none
  /-- The report is also shown. -/
  echo : Bool := true
deriving DecidableEq, Repr, Inhabited

/-- Why a run has no report. -/
inductive RunFailure where
  /-- The project directory is a link that leads back to itself. -/
  | linkLoop
  /-- The project directory is no directory; there has been a notice. -/
  | notDirectory
  | configuration (fault : ConfigFault)
  | file (error : FileError)
deriving DecidableEq, Repr, Inhabited

/-- The wording of a failure. -/
def RunFailure.message : RunFailure → String
  | linkLoop => "The project directory is a link that leads back to itself"
  | notDirectory => "The project directory is not a directory"
  | configuration .undecodable => "A configuration file is not UTF-8"
  | configuration .notTable => "A configuration file has no table where the settings belong"
  | file error => error.message

/-- What comes of a run. -/
structure RunOutcome where
  /-- The file system afterwards. -/
  fileSystem : FileSystem
  notices : List Notice := []
  /-- What is shown. -/
  shown : String := ""
  /-- The report and the path it was written to. -/
  result : Except RunFailure (Path × ProjectReport)

/-- Where a report goes that no other place is named for. -/
def defaultOutput : Path := { parts := ["output.json"] }

/-- The scan that the configuration and the arguments of a run ask for. -/
def RunArguments.scanSettings (a : RunArguments) (config : Config) : ScanSettings where
  jobs := a.jobs.getD config.jobs.count
  exclude := config.exclude
  reading := a.reading.getD config.reading
  maxFileSize := config.maxFileSize.count

/-- The place of the report that the configuration and the arguments of a run ask for. -/
def RunArguments.outputPath (a : RunArguments) (config : Config) : Path :=
  (a.output.or config.output).getD defaultOutput

/-- The written text of a report as the content of a file. -/
def reportContent (report : ProjectReport) : List UInt8 := Text.encode (report.render ++ "\n")

/-- Surveys a project.  The report stands in the outcome, in the file and, if asked for, in what
is shown. -/
def run (fs : FileSystem) (a : RunArguments) : RunOutcome :=
  match fs.canonical? a.directory with
  | none => { fileSystem := fs, result := .error .linkLoop }
  | some root =>
    if !fs.isDirectory root then
      { fileSystem := fs
        notices := [.notDirectory (toString root)]
        result := .error .notDirectory }
    else
      let (configNotices, config) := Config.load fs root
      match config with
      | .error fault =>
        { fileSystem := fs, notices := configNotices, result := .error (.configuration fault) }
      | .ok config =>
        let scanned := scan fs root (a.scanSettings config)
        let notices := configNotices ++ scanned.notices
        match scanned.report with
        | .error e => { fileSystem := fs, notices, result := .error (.file e) }
        | .ok report =>
          let files := (report.flatMap fun d => d.2.files).length
          let notices := notices ++ [.finished files report.length]
          let output := a.outputPath config
          match fs.save output (reportContent report) with
          | (changed, some e) => { fileSystem := changed, notices, result := .error (.file e) }
          | (changed, none) =>
            { fileSystem := changed
              notices := notices ++ [.generated (toString output)]
              shown := if a.echo then report.render ++ "\n" else ""
              result := .ok (output, report) }

end CodeSurvey
