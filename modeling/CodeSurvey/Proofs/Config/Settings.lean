import CodeSurvey.Proofs.Config.Loading
import CodeSurvey.Proofs.Scan.File

/-!
# What the settings are read as

A table of settings is read one setting at a time: `Config.Reads` says, for each of them, which
values count and what they are taken for, and that all others leave the default.

* `Config.readsAmount_iff`, `Config.reads_iff` : the readings are those of the program, and a table
  has one;
* `Config.alike_ofTable` : a setting depends on the value under its own key;
* `Config.load_settings` : **the settings of the file that decides are read one by one**.  An amount
  is also taken from `true`, which as a limit of the file size leaves next to no file to analyse.
-/

namespace CodeSurvey

namespace Config

variable {fs : FileSystem} {directory : Path} {t t' : Toml.Table} {config : Config}

/-! ### The reading of each setting -/

/-- What an amount is read as: a number above zero stands for itself, `true` is kept as it was
given, and every other value leaves the default. -/
inductive ReadsAmount (default : Amount) : Option Toml.Value → Amount → Prop
  | number {n : Int} (positive : 0 < n) : ReadsAmount default (some (.integer n)) (.number n)
  | given : ReadsAmount default (some (.boolean true)) .given
  | otherwise {value : Option Toml.Value}
      (noNumber : ∀ n : Int, 0 < n → value ≠ some (.integer n))
      (notTrue : value ≠ some (.boolean true)) : ReadsAmount default value default

/-- What a table of settings is read as in the project directory. -/
structure Reads (directory : Path) (t : Toml.Table) (config : Config) : Prop where
  /-- The report goes where a text that is not empty says, as seen from the project directory. -/
  output (path : Path) : config.output = some path ↔ ∃ text,
    t.lookup "output" = some (.string text) ∧ text ≠ "" ∧ path = directory.join (.ofString text)
  jobs : ReadsAmount (.number 1) (t.lookup "jobs") config.jobs
  /-- Directories named by the texts of the items of an array are left out. -/
  exclude (items : List Toml.Value) (h : t.lookup "exclude" = some (.array items)) :
    config.exclude = items.map Toml.Value.text
  /-- None is left out if there is no array. -/
  excludeNone (h : ∀ items, t.lookup "exclude" ≠ some (.array items)) : config.exclude = []
  /-- Only `true` asks for the flat reading. -/
  reading : config.reading = .flat ↔ t.lookup "legacy_js_context" = some (.boolean true)
  maxFileSize : ReadsAmount (.number 5000000) (t.lookup "max_file_size") config.maxFileSize

theorem readsAmount_iff {default amount : Amount} {value : Option Toml.Value} :
    ReadsAmount default value amount ↔ amount = amountOf default value := by
  constructor
  · rintro (positive | _ | ⟨noNumber, notTrue⟩)
    · exact (if_pos positive).symm
    · rfl
    · unfold amountOf
      split
      next n => exact (if_neg fun positive => noNumber n positive rfl).symm
      next => exact absurd rfl notTrue
      next => rfl
  · rintro rfl
    unfold amountOf
    split
    next n =>
      split_ifs with hpositive
      · exact .number hpositive
      · exact .otherwise (by rintro _ hn ⟨⟩; exact hpositive hn) nofun
    next => exact .given
    next hnumber htrue => exact .otherwise (fun n _ => hnumber n) htrue

theorem outputOf_eq_some_iff {value : Option Toml.Value} {path : Path} :
    outputOf directory value = some path ↔ ∃ text,
      value = some (.string text) ∧ text ≠ "" ∧ path = directory.join (.ofString text) := by
  unfold outputOf
  split
  next text => by_cases htext : text = "" <;> simp [htext, eq_comm]
  next hother => exact iff_of_false nofun fun ⟨text, htext, _⟩ => hother text htext

theorem excludeOf_of_ne_array {value : Option Toml.Value}
    (h : ∀ items, value ≠ some (.array items)) : excludeOf value = [] := by
  unfold excludeOf
  split
  next items => exact absurd rfl (h items)
  next => rfl

theorem readingOf_eq_flat_iff {value : Option Toml.Value} :
    readingOf value = .flat ↔ value = some (.boolean true) := by
  unfold readingOf
  split
  next => simp
  next hother => exact iff_of_false nofun hother

/-- An amount that counts other than its default without being written as a number is `true`, as
long as the default is not one. -/
theorem count_amountOf_ne_iff {n : Int} (hn : n ≠ 1) {value : Option Toml.Value} :
    ((amountOf (.number n) value).count ≠ n ∧ ∀ m, value ≠ some (.integer m)) ↔
      value = some (.boolean true) := by
  unfold amountOf
  split
  next m => simp
  next => simpa [Amount.count] using hn.symm
  next hother => exact iff_of_false (fun h => h.1 rfl) hother

/-- A table has one reading. -/
theorem reads_iff : Reads directory t config ↔ config = ofTable directory t := by
  constructor
  · intro h
    have houtput : config.output = outputOf directory (t.lookup "output") :=
      Option.ext fun path => by rw [h.output, outputOf_eq_some_iff]
    have hexclude : config.exclude = excludeOf (t.lookup "exclude") := by
      by_cases harray : ∃ items, t.lookup "exclude" = some (.array items)
      · obtain ⟨items, hitems⟩ := harray
        rw [h.exclude items hitems, hitems, excludeOf]
      · rw [not_exists] at harray
        rw [h.excludeNone harray, excludeOf_of_ne_array harray]
    have hreading : config.reading = readingOf (t.lookup "legacy_js_context") := by
      have hflat := h.reading.trans readingOf_eq_flat_iff.symm
      cases hc : config.reading <;> cases hr : readingOf (t.lookup "legacy_js_context") <;>
        simp [hc, hr] at hflat ⊢
    rw [ofTable, ← houtput, ← hexclude, ← hreading, ← readsAmount_iff.1 h.jobs,
      ← readsAmount_iff.1 h.maxFileSize]
  · rintro rfl
    exact {
      output := fun path => outputOf_eq_some_iff
      jobs := readsAmount_iff.2 rfl
      exclude := fun items hitems => by rw [ofTable, hitems, excludeOf]
      excludeNone := excludeOf_of_ne_array
      reading := readingOf_eq_flat_iff
      maxFileSize := readsAmount_iff.2 rfl }

/-! ### Settings apart from each other -/

/-- A setting of the survey. -/
inductive Setting where
  | output | jobs | exclude | reading | maxFileSize
deriving DecidableEq, Repr

/-- The key that a setting is written under. -/
def Setting.key : Setting → String
  | output => "output"
  | jobs => "jobs"
  | exclude => "exclude"
  | reading => "legacy_js_context"
  | maxFileSize => "max_file_size"

/-- The configurations have the same in a setting. -/
def Setting.Alike (c c' : Config) : Setting → Prop
  | output => c.output = c'.output
  | jobs => c.jobs = c'.jobs
  | exclude => c.exclude = c'.exclude
  | reading => c.reading = c'.reading
  | maxFileSize => c.maxFileSize = c'.maxFileSize

/-- A setting depends on the value under its own key. -/
theorem alike_ofTable {setting : Setting} (h : t'.lookup setting.key = t.lookup setting.key) :
    setting.Alike (ofTable directory t) (ofTable directory t') := by
  cases setting <;> simp only [Setting.key] at h <;> simp only [Setting.Alike, ofTable, h]

/-! ### The settings of the file that decides -/

/-- The file that decides has the table in the place of the settings. -/
def Supplies (fs : FileSystem) (directory : Path) (t : Toml.Table) : Prop :=
  ∃ source document, LooksAt fs directory [.own, .project] source ∧
    Holds fs (directory.child source.fileName) document ∧
    source.settings document = .ok (some (.table t))

theorem load_of_supplies (h : Supplies fs directory t) :
    (load fs directory).2 = .ok (ofTable directory t) := by
  obtain ⟨source, document, hlooks, hholds, hsettings⟩ := h
  rw [load_of_holds hlooks hholds, hsettings]
  rfl

/-- How the table in the place of the settings is used. -/
structure SettingsUsed (fs : FileSystem) (directory : Path) (t : Toml.Table) (config : Config) :
    Prop where
  loaded : (load fs directory).2 = .ok config
  /-- Each setting is the value under its key if that value counts, else the default. -/
  reads : Reads directory t config
  /-- A setting is the same with every table that has the same under its key, so what is changed
  under one key changes no other setting. -/
  apart (setting : Setting) (fs' : FileSystem) (t' : Toml.Table)
      (hsupplies : Supplies fs' directory t')
      (hkey : t'.lookup setting.key = t.lookup setting.key) (config' : Config)
      (hloaded : (load fs' directory).2 = .ok config') : setting.Alike config config'
  /-- The limit of the file size is another than the default, without being written as a number,
  exactly when `true` stands in its place. -/
  unwritten : (config.maxFileSize.count ≠ 5000000 ∧
      ∀ n, t.lookup "max_file_size" ≠ some (.integer n)) ↔
    t.lookup "max_file_size" = some (.boolean true)
  /-- With `true` in the place of the limit every file of two bytes or more has an empty
  report. -/
  emptied (h : t.lookup "max_file_size" = some (.boolean true)) (a : RunArguments) (path : Path)
      (bytes : List UInt8) (hread : fs.read path = .ok bytes) (hbytes : 1 < bytes.length) :
    (surveyFile fs (a.scanSettings config) path).report = .ok {}

/-- **The settings are read one by one, and what is no setting leaves the default, except that
`true` is taken for an amount.** -/
theorem load_settings (h : Supplies fs directory t) :
    ∃ config, SettingsUsed fs directory t config := by
  refine ⟨ofTable directory t, load_of_supplies h, reads_iff.2 rfl, ?_, ?_, ?_⟩
  · intro setting fs' t' hsupplies hkey config' hloaded
    rw [load_of_supplies hsupplies] at hloaded
    cases hloaded
    exact alike_ofTable hkey
  · exact count_amountOf_ne_iff (by decide)
  · intro htrue a path bytes hread hbytes
    refine surveyFile_report_of_limit_lt hread ?_
    have hlimit : (a.scanSettings (ofTable directory t)).maxFileSize = 1 := by
      rw [RunArguments.scanSettings, ofTable, htrue]
      rfl
    rw [hlimit]
    exact_mod_cast hbytes

/-! ### A project that answers every setting with `true` -/

/-- One value for settings of all kinds. -/
def allTrueText : String :=
  "[codeatlas]\noutput = true\njobs = true\nexclude = true\n" ++
    "legacy_js_context = true\nmax_file_size = true\n"

/-- A project with these settings. -/
def allTrueSettings : FileSystem where
  entries := [(".codeatlas.toml", .file (Text.encode allTrueText))]

/-- The settings as a table. -/
def allTrueTable : Toml.Table :=
  [("output", .boolean true), ("jobs", .boolean true), ("exclude", .boolean true),
    ("legacy_js_context", .boolean true), ("max_file_size", .boolean true)]

theorem supplies_allTrueSettings : Supplies allTrueSettings {} allTrueTable := by
  have hread : allTrueSettings.read (({} : Path).child Source.own.fileName) =
      .ok (Text.encode allTrueText) := rfl
  have hdecode : Text.decode? (Text.encode allTrueText) = some allTrueText := by decide +kernel
  have hparse : Toml.parse allTrueText = some [("codeatlas", .table allTrueTable)] := rfl
  exact ⟨.own, _, .here _ _, ⟨_, _, hread, hdecode, hparse⟩, rfl⟩

theorem load_settings_allTrueSettings : Supplies allTrueSettings {} allTrueTable ∧
    ∃ config, SettingsUsed allTrueSettings {} allTrueTable config :=
  ⟨supplies_allTrueSettings, load_settings supplies_allTrueSettings⟩

example : (load allTrueSettings {}).2 =
    .ok { jobs := .given, reading := .flat, maxFileSize := .given } := by
  decide +kernel

/-- A limit of the file size is not always written as a number. -/
theorem not_always_written :
    ¬ ∀ (fs : FileSystem) (directory : Path) (t : Toml.Table) (config : Config),
      Supplies fs directory t → (load fs directory).2 = .ok config →
        config.maxFileSize.count ≠ 5000000 →
          ∃ n, t.lookup "max_file_size" = some (.integer n) := by
  intro h
  obtain ⟨n, hn⟩ := h allTrueSettings {} allTrueTable _ supplies_allTrueSettings
    (load_of_supplies supplies_allTrueSettings) (by decide)
  cases hn

end Config

end CodeSurvey
