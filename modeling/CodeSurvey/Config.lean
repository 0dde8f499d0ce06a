import CodeSurvey.FileSystem.Follow
import CodeSurvey.Notice
import CodeSurvey.Text.Utf8
import CodeSurvey.Toml.Document

/-!
# Configuration

The settings of a project come from the table `codeatlas` of its file `.codeatlas.toml`, else from
the table `tool.codeatlas` of its file `pyproject.toml`.  A file that cannot be read or is
malformed is passed over with a notice; a file that is in order but silent about the survey
settles that the defaults hold.

`Config.ofTable` reads each setting on its own, and a value of the wrong type leaves the default.
-/

namespace CodeSurvey

/-- An amount.  `true` is accepted in the place of a number, is kept as it was given and counts
one. -/
inductive Amount where
  | number (n : Int)
  | given
deriving DecidableEq, Repr, Inhabited

/-- What an amount counts. -/
def Amount.count : Amount → Int
  | number n => n
  | given => 1

/-- The settings of a survey. -/
structure Config where
  /-- Where the report goes, if that is not left to the default. -/
  output : Option Path := none
  /-- The number of files that are analysed at a time. -/
  jobs : Amount := .number 1
  /-- The names of the directories that are left out. -/
  exclude : List String := []
  /-- How calls in scripts are credited. -/
  reading : Reading := .scoped
  /-- The number of bytes above which a file is not analysed. -/
  maxFileSize : Amount := .number 5000000
deriving DecidableEq, Repr, Inhabited

/-- Why there is no configuration. -/
inductive ConfigFault where
  /-- A configuration file is no well-formed UTF-8. -/
  | undecodable
  /-- A table was expected and something else is there. -/
  | notTable
deriving DecidableEq, Repr, Inhabited

namespace Config

/-! ### The settings of a table -/

/-- The path of the report, as seen from the project directory; an empty text names none. -/
def outputOf (directory : Path) : Option Toml.Value → Option Path
  | some (.string text) => if text = "" then none else some (directory.join (Path.ofString text))
  | _ => none

/-- An amount above zero. -/
def amountOf (default : Amount) : Option Toml.Value → Amount
  | some (.integer n) => if 0 < n then .number n else default
  | some (.boolean true) => .given
  | _ => default

/-- The texts of the items of an array. -/
def excludeOf : Option Toml.Value → List String
  | some (.array items) => items.map Toml.Value.text
  | _ => []

/-- The reading of scripts; `true` asks for the flat one. -/
def readingOf : Option Toml.Value → Reading
  | some (.boolean true) => .flat
  | _ => .scoped

/-- The configuration that a table of settings makes for a project directory. -/
def ofTable (directory : Path) (settings : Toml.Table) : Config where
  output := outputOf directory (settings.lookup "output")
  jobs := amountOf (.number 1) (settings.lookup "jobs")
  exclude := excludeOf (settings.lookup "exclude")
  reading := readingOf (settings.lookup "legacy_js_context")
  maxFileSize := amountOf (.number 5000000) (settings.lookup "max_file_size")

/-- The configuration that a value in the place of the settings makes.  A value that stands for
nothing leaves the defaults. -/
def ofValue (directory : Path) : Option Toml.Value → Except ConfigFault Config
  | none => .ok {}
  | some (.table settings) => .ok (ofTable directory settings)
  | some value => if value.isNothing then .ok {} else .error .notTable

/-! ### Configuration files -/

/-- A file that may hold the settings. -/
inductive Source where
  | own
  | project
deriving DecidableEq, Repr, Inhabited

/-- The name of a configuration file. -/
def Source.fileName : Source → String
  | own => ".codeatlas.toml"
  | project => "pyproject.toml"

/-- What a configuration file has in the place of the settings. -/
def Source.settings : Source → Toml.Table → Except ConfigFault (Option Toml.Value)
  | own, document => .ok (document.lookup "codeatlas")
  | project, document =>
    match document.lookup "tool" with
    | none => .ok none
    | some (.table tool) => .ok (tool.lookup "codeatlas")
    | some _ => .error .notTable

/-- The document in the file at a path, `none` when the file cannot be read or is malformed. -/
def document? (fs : FileSystem) (path : Path) : Except ConfigFault (Option Toml.Table) :=
  match fs.read path with
  | .error _ => .ok none
  | .ok bytes =>
    match Text.decode? bytes with
    | none => .error .undecodable
    | some text => .ok (Toml.parse text)

/-- What the first of the files that can be used has in the place of the settings, with notices
about those before it. -/
def settings (fs : FileSystem) (directory : Path) :
    List Source → List Notice × Except ConfigFault (Option Toml.Value)
  | [] => ([], .ok none)
  | source :: rest =>
    let path := directory.child source.fileName
    if fs.has path then
      match document? fs path with
      | .error fault => ([], .error fault)
      | .ok (some document) => ([], source.settings document)
      | .ok none =>
        let (notices, found) := settings fs directory rest
        (.settingsIgnored source.fileName :: notices, found)
    else settings fs directory rest

/-- The configuration of the project in a directory. -/
def load (fs : FileSystem) (directory : Path) : List Notice × Except ConfigFault Config :=
  let (notices, found) := settings fs directory [.own, .project]
  (notices, found.bind (ofValue directory))

end Config

end CodeSurvey
