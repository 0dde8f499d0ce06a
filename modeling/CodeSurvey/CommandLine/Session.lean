import CodeSurvey.CommandLine.Invocation

/-!
# Sessions

A session answers one command line: it shows the help text, refuses the command line, or runs the
survey.  Notices go to the error output, those below a warning only if the command line asks for
them.
-/

namespace CodeSurvey

namespace CommandLine

/-- How the program is called. -/
def usage : String :=
  "usage: codeatlas [-h] [-o OUTPUT] [-j JOBS] [--legacy-js-context] [-q] [-v]\n" ++
  "                 [project_dir]\n"

/-- The help text. -/
def helpText : String :=
  usage ++
  "\n" ++
  "Scan a source tree and report functions, call edges and imports as JSON.\n" ++
  "\n" ++
  "positional arguments:\n" ++
  "  project_dir           Root directory to scan (default: current directory)\n" ++
  "\n" ++
  "options:\n" ++
  "  -h, --help            show this help message and exit\n" ++
  "  -o OUTPUT, --output OUTPUT\n" ++
  "                        Output JSON file path (default: output.json)\n" ++
  "  -j JOBS, --jobs JOBS  Number of files to analyze in parallel (default: 1)\n" ++
  "  --legacy-js-context   Credit JS/TS calls to the most recently declared\n" ++
  "                        function, as older releases did\n" ++
  "  -q, --quiet           Do not echo the report to standard output\n" ++
  "  -v, --verbose         Enable verbose (debug) output\n"

/-- What the error output says about a refused command line. -/
def refusalText (reason : Refusal) : String :=
  usage ++ "codeatlas: error: " ++ reason.message ++ "\n"

/-- The notices of a run as lines of the error output. -/
def noticeText (verbose : Bool) (notices : List Notice) : String :=
  let shown := Notice.atLeast (if verbose then .debug else .warning) notices
  String.join ((Notice.announcedOnce [] shown).map fun n => n.message ++ "\n")

/-- What comes of a session. -/
structure Session where
  /-- The file system afterwards. -/
  fileSystem : FileSystem
  /-- The exit status. -/
  exit : Nat := 0
  output : String := ""
  errors : String := ""
  /-- What went wrong without an account of it in the error output. -/
  failure : Option RunFailure := none

/-- The session of a run. -/
def Session.ofRun (verbose : Bool) (outcome : RunOutcome) : Session :=
  let errors := noticeText verbose outcome.notices
  match outcome.result with
  | .ok _ => { fileSystem := outcome.fileSystem, output := outcome.shown, errors }
  | .error .notDirectory => { fileSystem := outcome.fileSystem, exit := 1, errors }
  | .error e => { fileSystem := outcome.fileSystem, exit := 1, errors, failure := some e }

/-- Answers a command line. -/
def session (fs : FileSystem) (words : List String) : Session :=
  match Invocation.read words with
  | .help => { fileSystem := fs, output := helpText }
  | .refused reason => { fileSystem := fs, exit := 2, errors := refusalText reason }
  | .run arguments verbose => Session.ofRun verbose (run fs arguments)

end CommandLine

end CodeSurvey
