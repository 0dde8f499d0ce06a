import CodeSurvey.Proofs.FileSystem.Routes
import CodeSurvey.Run

/-!
# When there is a configuration

A configuration file is passed over, holds a document, or is no text (`Config.PassedOver`,
`Config.Holds`, `Config.Undecodable`).  The files are gone through in their order up to the first
that is not passed over (`Config.LooksAt`), and this one decides.

* `Config.found` : what a file comes to, with one lemma for each of the three cases;
* `Config.settings_cons`, `Config.load_congr` : the settings come from what is found in the files,
  and depend on nothing else;
* `Config.bind_settings_eq_error_iff`, `Config.mem_notices_iff` : what goes wrong and what is told,
  by induction over the files;
* `Config.load_outcome` : **there is a configuration unless the file that decides is no text or has
  no table where one belongs**, and a file that is passed over is as good as absent.
-/

namespace CodeSurvey

namespace Config

variable {fs fs' : FileSystem} {directory path : Path} {source : Source} {document : Toml.Table}
  {sources : List Source} {fault : ConfigFault}

/-! ### What a configuration file comes to -/

/-- There is nothing to read, or what is read is a text but no document. -/
def PassedOver (fs : FileSystem) (path : Path) : Prop :=
  ∀ bytes, fs.read path = .ok bytes →
    ∃ text, Text.decode? bytes = some text ∧ Toml.parse text = none

/-- What is read is a document. -/
def Holds (fs : FileSystem) (path : Path) (document : Toml.Table) : Prop :=
  ∃ bytes text, fs.read path = .ok bytes ∧ Text.decode? bytes = some text ∧
    Toml.parse text = some document

/-- What is read is no text. -/
def Undecodable (fs : FileSystem) (path : Path) : Prop :=
  ∃ bytes, fs.read path = .ok bytes ∧ Text.decode? bytes = none

/-- The document of a configuration file, `none` when there is none or it is passed over. -/
def found (fs : FileSystem) (path : Path) : Except ConfigFault (Option Toml.Table) :=
  if fs.has path then document? fs path else .ok none

theorem found_of_read_error {e : FileError} (h : fs.read path = .error e) :
    found fs path = .ok none := by
  rw [found, document?, h]
  split <;> rfl

theorem found_of_read {bytes : List UInt8} (h : fs.read path = .ok bytes) :
    found fs path = match Text.decode? bytes with
      | none => .error .undecodable
      | some text => .ok (Toml.parse text) := by
  obtain ⟨place, hplace⟩ := FileSystem.read_eq_ok_iff.1 h
  have hhas := FileSystem.has_eq_true_iff.2 ⟨_, _, hplace⟩
  cases hdecode : Text.decode? bytes <;> simp [found, hhas, document?, h, hdecode]

theorem found_eq_error_iff :
    found fs path = .error fault ↔ fault = .undecodable ∧ Undecodable fs path := by
  cases hread : fs.read path with
  | error e => simp [found_of_read_error hread, Undecodable, hread]
  | ok bytes =>
    rw [found_of_read hread]
    cases hdecode : Text.decode? bytes <;> simp [Undecodable, hread, hdecode, eq_comm]

theorem found_eq_none_iff : found fs path = .ok none ↔ PassedOver fs path := by
  cases hread : fs.read path with
  | error e => simp [found_of_read_error hread, PassedOver, hread]
  | ok bytes =>
    rw [found_of_read hread]
    cases hdecode : Text.decode? bytes <;> simp [PassedOver, hread, hdecode]

theorem found_eq_some_iff : found fs path = .ok (some document) ↔ Holds fs path document := by
  cases hread : fs.read path with
  | error e => simp [found_of_read_error hread, Holds, hread]
  | ok bytes =>
    rw [found_of_read hread]
    cases hdecode : Text.decode? bytes <;> simp [Holds, hread, hdecode]

/-- What is not there is passed over. -/
theorem passedOver_of_not_has (h : fs.has path = false) : PassedOver fs path :=
  found_eq_none_iff.1 (by rw [found, h]; rfl)

/-! ### From file to file -/

/-- The first file decides unless it is passed over, and then it is told of if it is there. -/
theorem settings_cons (fs : FileSystem) (directory : Path) (source : Source)
    (rest : List Source) : settings fs directory (source :: rest) =
      match found fs (directory.child source.fileName) with
      | .error fault => ([], .error fault)
      | .ok (some document) => ([], source.settings document)
      | .ok none =>
        ((if fs.has (directory.child source.fileName) then
            [.settingsIgnored source.fileName] else []) ++ (settings fs directory rest).1,
          (settings fs directory rest).2) := by
  rw [settings, found]
  dsimp only
  split
  · rcases document? fs (directory.child source.fileName) with fault | _ | document <;> rfl
  · rfl

/-- The settings depend on what the configuration files have in them. -/
theorem load_congr (h : ∀ source : Source, found fs' (directory.child source.fileName) =
      found fs (directory.child source.fileName)) :
    (load fs' directory).2 = (load fs directory).2 := by
  have hsettings (sources : List Source) :
      (settings fs' directory sources).2 = (settings fs directory sources).2 := by
    induction sources with
    | nil => rfl
    | cons source rest ih =>
      rw [settings_cons, settings_cons, h source]
      rcases found fs (directory.child source.fileName) with fault | _ | document
      · rfl
      · exact ih
      · rfl
  simp only [load, hsettings]

/-- The source is looked at: those before it in the list are passed over. -/
inductive LooksAt (fs : FileSystem) (directory : Path) : List Source → Source → Prop
  | here (source : Source) (rest : List Source) : LooksAt fs directory (source :: rest) source
  | next {first source : Source} {rest : List Source}
      (passed : PassedOver fs (directory.child first.fileName))
      (later : LooksAt fs directory rest source) : LooksAt fs directory (first :: rest) source

theorem not_looksAt_nil : ¬ LooksAt fs directory [] source := nofun

theorem looksAt_cons {first : Source} {rest : List Source} :
    LooksAt fs directory (first :: rest) source ↔ source = first ∨
      PassedOver fs (directory.child first.fileName) ∧ LooksAt fs directory rest source := by
  constructor
  · rintro (_ | ⟨passed, later⟩)
    · exact .inl rfl
    · exact .inr ⟨passed, later⟩
  · rintro (rfl | ⟨passed, later⟩)
    · exact .here _ _
    · exact .next passed later

/-- A notice is given for each file that is looked at, is there and is passed over. -/
theorem mem_notices_iff {notice : Notice} : notice ∈ (settings fs directory sources).1 ↔
    ∃ source, LooksAt fs directory sources source ∧
      fs.has (directory.child source.fileName) = true ∧
      PassedOver fs (directory.child source.fileName) ∧
      notice = .settingsIgnored source.fileName := by
  induction sources with
  | nil => simp [settings, not_looksAt_nil]
  | cons first rest ih =>
    rw [settings_cons]
    simp only [looksAt_cons, or_and_right, exists_or, exists_eq_left]
    by_cases hpassed : PassedOver fs (directory.child first.fileName)
    · rw [found_eq_none_iff.2 hpassed]
      by_cases hhas : fs.has (directory.child first.fileName) = true <;> simp [hhas, hpassed, ih]
    · -- the file decides, and the rest of the list is not looked at
      rcases hfound : found fs (directory.child first.fileName) with fault | _ | document
      · simp [hpassed]
      · exact absurd (found_eq_none_iff.1 hfound) hpassed
      · simp [hpassed]

/-! ### What is wrong with a file -/

/-- A value in the place of the settings that stands for something and is no table. -/
def Misplaced (value : Toml.Value) : Prop :=
  value.isNothing = false ∧ ∀ entries, value ≠ .table entries

/-- The document has something else where a table belongs.  In the place of the table around the
settings even a value that stands for nothing is out of place. -/
def Misfit : Source → Toml.Table → Prop
  | .own, document => ∃ value, document.lookup "codeatlas" = some value ∧ Misplaced value
  | .project, document =>
    (∃ value, document.lookup "tool" = some value ∧ ∀ entries, value ≠ .table entries) ∨
      ∃ tool value, document.lookup "tool" = some (.table tool) ∧
        tool.lookup "codeatlas" = some value ∧ Misplaced value

/-- What a configuration file has wrong with it when it is not passed over. -/
inductive Faulty (fs : FileSystem) (directory : Path) (source : Source) : ConfigFault → Prop
  | undecodable (bytes : Undecodable fs (directory.child source.fileName)) :
      Faulty fs directory source .undecodable
  | notTable {document : Toml.Table}
      (holds : Holds fs (directory.child source.fileName) document)
      (misfit : Misfit source document) : Faulty fs directory source .notTable

theorem ofValue_of_ne_table {value : Toml.Value} (h : ∀ entries, value ≠ .table entries) :
    ofValue directory (some value) = if value.isNothing then .ok {} else .error .notTable := by
  cases value with
  | table entries => exact absurd rfl (h entries)
  | _ => rfl

theorem ofValue_eq_error_iff {value : Option Toml.Value} :
    ofValue directory value = .error fault ↔
      fault = .notTable ∧ ∃ v, value = some v ∧ Misplaced v := by
  cases value with
  | none => simp [ofValue]
  | some v =>
    by_cases htable : ∃ entries, v = .table entries
    · obtain ⟨entries, rfl⟩ := htable
      simp [ofValue, Misplaced]
    · rw [not_exists] at htable
      rw [ofValue_of_ne_table htable]
      cases hnothing : v.isNothing <;>
        simp [Misplaced, htable, hnothing, eq_comm (a := ConfigFault.notTable)]

/-- A value that stands for nothing leaves the defaults. -/
theorem ofValue_of_isNothing {value : Option Toml.Value}
    (h : ∀ v, value = some v → v.isNothing = true) : ofValue directory value = .ok {} := by
  rcases value with _ | v
  · rfl
  · have hnothing := h v rfl
    cases v with
    | table entries =>
      obtain rfl : entries = [] := by simpa [Toml.Value.isNothing] using hnothing
      rfl
    | _ => exact if_pos hnothing

theorem Source.bind_settings_eq_error_iff :
    (source.settings document).bind (ofValue directory) = .error fault ↔
      fault = .notTable ∧ Misfit source document := by
  cases source with
  | own => exact ofValue_eq_error_iff
  | project =>
    rw [Source.settings, Misfit]
    rcases document.lookup "tool" with _ | value
    · simp [Except.bind, ofValue]
    · cases value with
      | table tool => simp [Except.bind, ofValue_eq_error_iff]
      | _ => simp [Except.bind, eq_comm]

theorem faulty_iff : Faulty fs directory source fault ↔
    found fs (directory.child source.fileName) = .error fault ∨
      ∃ document, found fs (directory.child source.fileName) = .ok (some document) ∧
        (source.settings document).bind (ofValue directory) = .error fault := by
  simp only [found_eq_error_iff, found_eq_some_iff, Source.bind_settings_eq_error_iff]
  constructor
  · rintro (bytes | ⟨holds, misfit⟩)
    · exact .inl ⟨rfl, bytes⟩
    · exact .inr ⟨_, holds, rfl, misfit⟩
  · rintro (⟨rfl, bytes⟩ | ⟨document, holds, rfl, misfit⟩)
    · exact .undecodable bytes
    · exact .notTable holds misfit

/-- Going through the files fails with what is wrong with the one that decides. -/
theorem bind_settings_eq_error_iff :
    (settings fs directory sources).2.bind (ofValue directory) = .error fault ↔
      ∃ source, LooksAt fs directory sources source ∧ Faulty fs directory source fault := by
  induction sources with
  | nil => simp [settings, Except.bind, ofValue, not_looksAt_nil]
  | cons first rest ih =>
    rw [settings_cons]
    simp only [looksAt_cons, or_and_right, exists_or, exists_eq_left, ← found_eq_none_iff]
    rcases hfound : found fs (directory.child first.fileName) with fault' | _ | document
    · simp [faulty_iff, hfound, Except.bind]
    · have hfirst : ¬ Faulty fs directory first fault := by simp [faulty_iff, hfound]
      simp [hfirst, ih]
    · simp [faulty_iff, hfound]

/-- The document of the file that decides has the settings. -/
theorem bind_settings_of_holds (hlooks : LooksAt fs directory sources source)
    (hholds : Holds fs (directory.child source.fileName) document) :
    (settings fs directory sources).2.bind (ofValue directory) =
      (source.settings document).bind (ofValue directory) := by
  induction hlooks with
  | here source rest => rw [settings_cons, found_eq_some_iff.2 hholds]
  | next passed later ih => rw [settings_cons, found_eq_none_iff.2 passed, ih hholds]

theorem bind_settings_of_passedOver
    (h : ∀ source ∈ sources, PassedOver fs (directory.child source.fileName)) :
    (settings fs directory sources).2.bind (ofValue directory) = .ok {} := by
  induction sources with
  | nil => rfl
  | cons first rest ih =>
    rw [settings_cons, found_eq_none_iff.2 (h first List.mem_cons_self)]
    exact ih fun source hsource => h source (List.mem_cons_of_mem _ hsource)

/-! ### The configuration -/

theorem load_eq (fs : FileSystem) (directory : Path) : load fs directory =
    ((settings fs directory [.own, .project]).1,
      (settings fs directory [.own, .project]).2.bind (ofValue directory)) := rfl

theorem load_eq_error_iff : (load fs directory).2 = .error fault ↔
    ∃ source, LooksAt fs directory [.own, .project] source ∧ Faulty fs directory source fault := by
  rw [load_eq, bind_settings_eq_error_iff]

theorem load_of_holds (hlooks : LooksAt fs directory [.own, .project] source)
    (hholds : Holds fs (directory.child source.fileName) document) :
    (load fs directory).2 = (source.settings document).bind (ofValue directory) := by
  rw [load_eq, bind_settings_of_holds hlooks hholds]

/-- A run is aborted by the configuration when there is none. -/
theorem run_eq_configuration_iff {a : RunArguments}
    (hroot : fs.canonical? a.directory = some directory)
    (hdirectory : fs.isDirectory directory = true) :
    (run fs a).result = .error (.configuration fault) ↔ (load fs directory).2 = .error fault := by
  rcases hload : load fs directory with ⟨notices, fault' | config⟩
  · simp [run, hroot, hdirectory, hload]
  · cases hscan : (scan fs directory (a.scanSettings config)).report with
    | error e => simp [run, hroot, hdirectory, hload, hscan]
    | ok report =>
      rcases hsave : fs.save (a.outputPath config) (reportContent report) with ⟨fs', _ | e⟩ <;>
        simp [run, hroot, hdirectory, hload, hscan, hsave]

/-- How loading the configuration of a project ends. -/
structure LoadOutcome (fs : FileSystem) (directory : Path) : Prop where
  /-- Loading fails with what is wrong with the first file that is not passed over. -/
  faults (fault : ConfigFault) : (load fs directory).2 = .error fault ↔
    ∃ source, LooksAt fs directory [.own, .project] source ∧ Faulty fs directory source fault
  /-- Where nothing is wrong there is a configuration. -/
  returns : (∃ config, (load fs directory).2 = .ok config) ↔
    ¬ ∃ source fault, LooksAt fs directory [.own, .project] source ∧
      Faulty fs directory source fault
  /-- A file that is passed over is as good as absent. -/
  absent (source : Source) (h : PassedOver fs (directory.child source.fileName))
      (fs' : FileSystem) (hmissing : fs'.has (directory.child source.fileName) = false)
      (hothers : ∀ other, other ≠ source → fs'.read (directory.child other.fileName) =
        fs.read (directory.child other.fileName)) :
    (load fs' directory).2 = (load fs directory).2
  /-- Where both files are passed over the defaults hold. -/
  defaults (h : ∀ source : Source, PassedOver fs (directory.child source.fileName)) :
    (load fs directory).2 = .ok {}
  /-- The defaults hold also where the file that decides has a value that stands for nothing in
  the place of the settings, or no value there. -/
  silent (source : Source) (hlooks : LooksAt fs directory [.own, .project] source)
      (document : Toml.Table) (hholds : Holds fs (directory.child source.fileName) document)
      (value : Option Toml.Value) (hvalue : source.settings document = .ok value)
      (hnothing : ∀ v, value = some v → v.isNothing = true) :
    (load fs directory).2 = .ok {}
  /-- A file that is there and is passed over is told of if it is looked at. -/
  told (notice : Notice) : notice ∈ (load fs directory).1 ↔
    ∃ source, LooksAt fs directory [.own, .project] source ∧
      fs.has (directory.child source.fileName) = true ∧
      PassedOver fs (directory.child source.fileName) ∧
      notice = .settingsIgnored source.fileName
  /-- What is wrong with the file that decides ends a run in the directory. -/
  aborts (a : RunArguments) (hroot : fs.canonical? a.directory = some directory)
      (hdirectory : fs.isDirectory directory = true) (fault : ConfigFault) :
    (run fs a).result = .error (.configuration fault) ↔
      ∃ source, LooksAt fs directory [.own, .project] source ∧ Faulty fs directory source fault

/-- **A configuration file that is passed over is as good as absent; one that is no text, or has
no table where one belongs, leaves no configuration if it is looked at.** -/
theorem load_outcome (fs : FileSystem) (directory : Path) : LoadOutcome fs directory where
  faults fault := load_eq_error_iff
  returns := by
    cases hload : (load fs directory).2 with
    | error fault =>
      obtain ⟨source, hlooks, hfaulty⟩ := load_eq_error_iff.1 hload
      exact iff_of_false nofun fun h => h ⟨source, fault, hlooks, hfaulty⟩
    | ok config =>
      refine iff_of_true ⟨config, rfl⟩ ?_
      rintro ⟨source, fault, hlooks, hfaulty⟩
      have hfault : (load fs directory).2 = .error fault :=
        load_eq_error_iff.2 ⟨source, hlooks, hfaulty⟩
      rw [hload] at hfault
      cases hfault
  absent source h fs' hmissing hothers := by
    refine load_congr fun other => ?_
    by_cases hother : other = source
    · rw [hother, found_eq_none_iff.2 h, found_eq_none_iff.2 (passedOver_of_not_has hmissing)]
    · have hread := hothers other hother
      cases hbytes : fs.read (directory.child other.fileName) with
      | error e => rw [found_of_read_error (hread.trans hbytes), found_of_read_error hbytes]
      | ok bytes => rw [found_of_read (hread.trans hbytes), found_of_read hbytes]
  defaults h := by
    rw [load_eq]
    exact bind_settings_of_passedOver fun source _ => h source
  silent source hlooks document hholds value hvalue hnothing := by
    rw [load_of_holds hlooks hholds, hvalue]
    exact ofValue_of_isNothing hnothing
  told notice := by rw [load_eq, mem_notices_iff]
  aborts a hroot hdirectory fault :=
    (run_eq_configuration_iff hroot hdirectory).trans load_eq_error_iff

/-- There is not always a configuration: a file with a byte that begins no character leaves
none. -/
theorem not_always_loaded :
    ¬ ∀ (fs : FileSystem) (directory : Path), ∃ config, (load fs directory).2 = .ok config := by
  intro h
  obtain ⟨config, hconfig⟩ := h { entries := [(".codeatlas.toml", .file [0xff])] } {}
  have hfault : (load { entries := [(".codeatlas.toml", .file [0xff])] } {}).2 =
      .error .undecodable := by decide +kernel
  rw [hfault] at hconfig
  cases hconfig

end Config

end CodeSurvey
