import CodeSurvey.Proofs.FileSystem.Saving
import CodeSurvey.Proofs.Text.Ascii
import CodeSurvey.Run

/-!
# What a run does to the file system

A run that fails leaves every file as it is.  A run that ends well writes one file, and makes the
directories that are missing above it.

* `RunArguments.outputPath_eq_iff`, `reportContent_eq` : where a report goes and which bytes it
  has there;
* `run_of_surveys`, `run_of_not_surveys` : a run saves the report of its survey if there is one,
  and does nothing else;
* `result_eq_ok_iff` : when a run ends well;
* `run_effect` : what is different after a run.
-/

namespace CodeSurvey

variable {fs : FileSystem} {a : RunArguments} {root : Path} {config : Config}
  {report : ProjectReport}

/-- All that comes before writing has ended well: the project directory and the configuration have
been found, and the scan has given the report. -/
structure Surveys (fs : FileSystem) (a : RunArguments) (root : Path) (config : Config)
    (report : ProjectReport) : Prop where
  canonical : fs.canonical? a.directory = some root
  isDirectory : fs.isDirectory root = true
  load : (Config.load fs root).2 = .ok config
  scan : (scan fs root (a.scanSettings config)).report = .ok report

/-! ### The written file -/

/-- The report goes to the path: the one that the arguments name, else the one that the
configuration names, else `output.json` in the working directory. -/
inductive RunArguments.IsOutput (a : RunArguments) (config : Config) : Path → Prop where
  | argument {path : Path} (h : a.output = some path) : IsOutput a config path
  | configured {path : Path} (hnone : a.output = none) (h : config.output = some path) :
      IsOutput a config path
  | default (hnone : a.output = none) (hnone' : config.output = none) :
      IsOutput a config { anchor := .relative, parts := ["output.json"] }

theorem RunArguments.outputPath_eq_iff {output : Path} :
    a.outputPath config = output ↔ a.IsOutput config output := by
  rw [outputPath]
  constructor
  · rintro rfl
    cases hargument : a.output with
    | some path => exact .argument hargument
    | none =>
      cases hconfigured : config.output with
      | some path => exact .configured hargument hconfigured
      | none => exact .default hargument hconfigured
  · rintro (h | ⟨hnone, h⟩ | ⟨hnone, hnone'⟩)
    · rw [h, Option.some_or, Option.getD_some]
    · rw [hnone, h, Option.none_or, Option.getD_some]
    · rw [hnone, hnone']
      rfl

theorem ProjectReport.isAscii_text (report : ProjectReport) :
    Json.IsAscii (report.render ++ "\n").toList := by
  intro c hc
  rw [String.toList_append, List.mem_append] at hc
  rcases hc with hc | hc
  · exact Json.isAscii_render _ c hc
  · obtain rfl := List.mem_singleton.1 hc
    decide

/-- The bytes of a written report are the characters of its text and of a line break. -/
theorem reportContent_eq (report : ProjectReport) :
    reportContent report = (report.render ++ "\n").toList.map fun c => UInt8.ofNat c.toNat :=
  Text.encode_of_isAscii report.isAscii_text

/-! ### The run -/

/-- What is shown of a report. -/
def RunArguments.echoOf (a : RunArguments) (report : ProjectReport) : String :=
  if a.echo then report.render ++ "\n" else ""

/-- The report of a survey is saved. -/
theorem run_of_surveys (h : Surveys fs a root config report) :
    (∃ fs', fs.save (a.outputPath config) (reportContent report) = (fs', none) ∧
      (run fs a).fileSystem = fs' ∧ (run fs a).result = .ok (a.outputPath config, report) ∧
      (run fs a).shown = a.echoOf report) ∨
    ∃ fs' e, fs.save (a.outputPath config) (reportContent report) = (fs', some e) ∧
      (run fs a).fileSystem = fs' ∧ (run fs a).result = .error (.file e) := by
  obtain ⟨notices, hload⟩ : ∃ notices, Config.load fs root = (notices, .ok config) :=
    ⟨_, Prod.ext rfl h.load⟩
  rcases hsave : fs.save (a.outputPath config) (reportContent report) with ⟨fs', _ | e⟩
  · refine .inl ⟨fs', rfl, ?_⟩
    simp [run, h.canonical, h.isDirectory, hload, h.scan, hsave, RunArguments.echoOf]
  · refine .inr ⟨fs', e, rfl, ?_⟩
    simp [run, h.canonical, h.isDirectory, hload, h.scan, hsave]

/-- Without a survey nothing is written. -/
theorem run_of_not_surveys (h : ¬ ∃ root config report, Surveys fs a root config report) :
    (run fs a).fileSystem = fs ∧ ∃ failure, (run fs a).result = .error failure := by
  cases hcanonical : fs.canonical? a.directory with
  | none => simp [run, hcanonical]
  | some root =>
    by_cases hdirectory : fs.isDirectory root = true
    swap
    · simp [run, hcanonical, hdirectory]
    rcases hload : Config.load fs root with ⟨notices, fault | config⟩
    · simp [run, hcanonical, hdirectory, hload]
    · cases hscan : (scan fs root (a.scanSettings config)).report with
      | error e => simp [run, hcanonical, hdirectory, hload, hscan]
      | ok report =>
        refine absurd ⟨root, config, report, hcanonical, hdirectory, ?_, hscan⟩ h
        rw [hload]

/-- A run that ends well has surveyed the project and saved the report. -/
theorem exists_surveys {output : Path} (h : (run fs a).result = .ok (output, report)) :
    ∃ root config, Surveys fs a root config report ∧ output = a.outputPath config ∧
      fs.save output (reportContent report) = ((run fs a).fileSystem, none) ∧
      (run fs a).shown = a.echoOf report := by
  by_cases hsurveys : ∃ root config report, Surveys fs a root config report
  swap
  · obtain ⟨-, failure, hfailed⟩ := run_of_not_surveys hsurveys
    rw [hfailed] at h
    cases h
  obtain ⟨root, config, report', hsurveys⟩ := hsurveys
  rcases run_of_surveys hsurveys with
    ⟨fs', hsave, rfl, hresult, hshown⟩ | ⟨fs', e, -, -, hresult⟩
  · rw [hresult] at h
    cases h
    exact ⟨root, config, hsurveys, rfl, hsave, hshown⟩
  · rw [hresult] at h
    cases h

/-- A run ends well when there is a survey and its report can be saved. -/
theorem result_eq_ok_iff {output : Path} : (run fs a).result = .ok (output, report) ↔
    ∃ root config, Surveys fs a root config report ∧ a.IsOutput config output ∧
      fs.IsSavable output := by
  constructor
  · intro h
    obtain ⟨root, config, hsurveys, houtput, hsave, -⟩ := exists_surveys h
    exact ⟨root, config, hsurveys, RunArguments.outputPath_eq_iff.1 houtput.symm,
      FileSystem.exists_save_iff.1 ⟨_, hsave⟩⟩
  · rintro ⟨root, config, hsurveys, houtput, hsavable⟩
    obtain rfl := RunArguments.outputPath_eq_iff.2 houtput
    obtain ⟨fs', hsave⟩ := FileSystem.exists_save_iff.2 hsavable
    rcases run_of_surveys hsurveys with ⟨-, -, -, hresult, -⟩ | ⟨_, _, hfailed, -⟩
    · exact hresult
    · rw [hsave] at hfailed
      cases hfailed

/-- A run that fails has written nothing, though it may have made directories. -/
theorem sameFiles_of_result_eq_error {failure : RunFailure}
    (h : (run fs a).result = .error failure) : fs.SameFiles (run fs a).fileSystem := by
  by_cases hsurveys : ∃ root config report, Surveys fs a root config report
  · obtain ⟨root, config, report, hsurveys⟩ := hsurveys
    rcases run_of_surveys hsurveys with ⟨fs', -, -, hresult, -⟩ | ⟨fs', e, hsave, rfl, -⟩
    · rw [hresult] at h
      cases h
    · exact (FileSystem.laysWay_of_save hsave).sameFiles
  · rw [(run_of_not_surveys hsurveys).1]
    exact (FileSystem.LaysWay.refl {} fs).sameFiles

/-- When a run ends well, and what is different after it. -/
structure RunEffect (fs : FileSystem) (a : RunArguments) : Prop where
  /-- A run ends well when the project can be surveyed and its report can be saved at the path that
  the arguments or the configuration name. -/
  ends_iff (output : Path) (report : ProjectReport) :
    (run fs a).result = .ok (output, report) ↔
      ∃ root config, Surveys fs a root config report ∧ a.IsOutput config output ∧
        fs.IsSavable output
  /-- The path of the report is the one that the arguments name, else the one of the configuration,
  else the default. -/
  output_iff (config : Config) (output : Path) :
    a.outputPath config = output ↔ a.IsOutput config output
  /-- At a path in a directory that is there, a report can be saved unless the path leads to a
  directory or is stopped on its way. -/
  isSavable_iff (output : Path) (h : fs.isDirectory output.parent = true) :
    fs.IsSavable output ↔ fs.IsWritable output
  /-- The written bytes are the text of the report and a line break, a byte for each of their
  characters. -/
  content (report : ProjectReport) :
    Json.IsAscii (report.render ++ "\n").toList ∧
      reportContent report = (report.render ++ "\n").toList.map fun c => UInt8.ofNat c.toNat
  /-- After a failure there are the same files as before, with the same bytes. -/
  failed (failure : RunFailure) (h : (run fs a).result = .error failure) :
    fs.SameFiles (run fs a).fileSystem
  /-- After a run that ends well the report is in the file that the path of the report leads to,
  the other files are the same, and only directories missing above it have been made. -/
  finished (output : Path) (report : ProjectReport)
      (h : (run fs a).result = .ok (output, report)) :
    ∃ root config place, Surveys fs a root config report ∧ output = a.outputPath config ∧
      FileSystem.Saved output (reportContent report) place fs (run fs a).fileSystem ∧
      (run fs a).shown = if a.echo then report.render ++ "\n" else ""

/-- **A run writes its report and leaves every other file as it is; a run that fails leaves all
files as they are.** -/
theorem run_effect (fs : FileSystem) (a : RunArguments) : RunEffect fs a where
  ends_iff output report := result_eq_ok_iff
  output_iff config output := RunArguments.outputPath_eq_iff
  isSavable_iff output h := FileSystem.isSavable_iff_of_isDirectory h
  content report := ⟨report.isAscii_text, reportContent_eq report⟩
  failed failure h := sameFiles_of_result_eq_error h
  finished output report h := by
    obtain ⟨root, config, hsurveys, houtput, hsave, hshown⟩ := exists_surveys h
    obtain ⟨place, hsaved⟩ := FileSystem.exists_saved hsave
    exact ⟨root, config, place, hsurveys, houtput, hsaved, hshown⟩

/-- A project with a source file, and a directory beside it. -/
def besideFiles : FileSystem where
  entries := [("p", .directory [("a.py", .file [])]), ("out", .directory [])]

theorem wellFormed_besideFiles : besideFiles.WellFormed := by
  have hp : (Entry.directory [("a.py", .file [])]).WellFormed :=
    .directory (by decide) (by decide) (List.forall_mem_singleton.2 (.file []))
  have hout : (Entry.directory []).WellFormed := .directory .nil (by simp) (by simp)
  exact .directory (by decide) (by decide)
    (List.forall_mem_cons.2 ⟨hp, List.forall_mem_singleton.2 hout⟩)

/-- The report goes to a new directory beside the project. -/
def outsideArguments : RunArguments where
  directory := Path.ofString "/p"
  output := some (Path.ofString "/p/../out/new/report.json")

/-- There is no such project. -/
def strayArguments : RunArguments where
  directory := Path.ofString "/q"
  output := some (Path.ofString "/out/report.json")

theorem run_effect_besideFiles :
    (run besideFiles outsideArguments).result =
      .ok (Path.ofString "/p/../out/new/report.json", [("/p", { files := [("a.py", {})] })]) ∧
    (∃ place, FileSystem.Saved (Path.ofString "/p/../out/new/report.json")
      (reportContent [("/p", { files := [("a.py", {})] })]) place besideFiles
      (run besideFiles outsideArguments).fileSystem) ∧
    (run besideFiles strayArguments).result = .error .notDirectory ∧
    besideFiles.SameFiles (run besideFiles strayArguments).fileSystem := by
  have hended : (run besideFiles outsideArguments).result =
      .ok (Path.ofString "/p/../out/new/report.json", [("/p", { files := [("a.py", {})] })]) := by
    decide +kernel
  have hfailed : (run besideFiles strayArguments).result = .error .notDirectory := by
    decide +kernel
  obtain ⟨root, config, place, -, -, hsaved, -⟩ :=
    (run_effect besideFiles outsideArguments).finished _ _ hended
  exact ⟨hended, ⟨place, hsaved⟩, hfailed, (run_effect besideFiles strayArguments).failed _ hfailed⟩

end CodeSurvey
