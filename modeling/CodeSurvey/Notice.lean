import CodeSurvey.Analyzer

/-!
# Notices

What the survey tells about its own progress, each notice with a level and a wording.
-/

namespace CodeSurvey

/-- How much a notice matters. -/
inductive Level where
  | debug | info | warning | error
deriving DecidableEq, Repr, Inhabited

namespace Level

/-- The name of a level. -/
def name : Level → String
  | debug => "DEBUG"
  | info => "INFO"
  | warning => "WARNING"
  | error => "ERROR"

/-- The place of a level in the order of the levels. -/
def rank : Level → Nat
  | debug => 0
  | info => 1
  | warning => 2
  | error => 3

end Level

/-- A notice. -/
inductive Notice where
  /-- The directories have been searched for source files. -/
  | discovered (directories sources : Nat)
  /-- A grammar is about to be used for the first time. -/
  | grammarLoaded (grammar : Grammar)
  /-- The file at a path has been read by a table. -/
  | fileSurveyed (path : String) (functions dependencies : Nat)
  /-- The file at a path gets an empty report. -/
  | fileSkipped (path : String) (error : AnalysisError)
  /-- A configuration file cannot be read or is malformed. -/
  | settingsIgnored (fileName : String)
  /-- The project directory is no directory. -/
  | notDirectory (path : String)
  /-- All files have been analysed. -/
  | finished (files directories : Nat)
  /-- The report has been written. -/
  | generated (path : String)
deriving DecidableEq, Repr, Inhabited

namespace Notice

/-- The level of a notice. -/
def level : Notice → Level
  | discovered _ _ | grammarLoaded _ | fileSurveyed _ _ _ | finished _ _ => .debug
  | generated _ => .info
  | fileSkipped _ _ | settingsIgnored _ => .warning
  | notDirectory _ => .error

/-- The wording of a notice. -/
def message : Notice → String
  | discovered directories sources =>
    "Discovered " ++ toString directories ++ " directories, " ++ toString sources ++
      " source files"
  | grammarLoaded grammar => "Loaded " ++ grammar.name ++ " grammar from " ++ grammar.package
  | fileSurveyed path functions dependencies =>
    path ++ ": " ++ toString functions ++ " functions, " ++ toString dependencies ++
      " dependencies"
  | fileSkipped path error => "Could not analyze " ++ path ++ ": " ++ error.message
  | settingsIgnored fileName => "Ignoring " ++ fileName
  | notDirectory path => "Not a readable directory: " ++ path
  | finished files directories =>
    "Analyzed " ++ toString files ++ " files in " ++ toString directories ++ " directories"
  | generated path => "Generated " ++ path

/-- The notices of at least the given level. -/
def atLeast (least : Level) (notices : List Notice) : List Notice :=
  notices.filter fun n => least.rank ≤ n.level.rank

/-- The notices about grammars, of which every other one is kept as it is, only where the grammar
is new; `known` are the grammars named before. -/
def announcedOnce (known : List Grammar) : List Notice → List Notice
  | [] => []
  | grammarLoaded g :: rest =>
    if g ∈ known then announcedOnce known rest
    else grammarLoaded g :: announcedOnce (g :: known) rest
  | notice :: rest => notice :: announcedOnce known rest

end Notice

end CodeSurvey
