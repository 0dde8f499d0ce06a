import CodeSurvey.CommandLine.Session

/-!
# The program

The outer layer of the command line.  It copies the part of the real file system that a run looks
at — the project directory with all that is below it and the ways to it and to the report — into a
`FileSystem`, answers the command line, and writes the report if there is one.  Files that are
neither analysed nor hold settings are copied without their content.
-/

namespace CodeSurvey

namespace Program

/-- The text of the absolute path to a place. -/
def pathText (place : List String) : String := toString ({ anchor := .root, parts := place } : Path)

/-- The kind of the entry of that name in the directory at a place. -/
def kindOf? (directory : List String) (name : String) : IO (Option IO.FS.FileType) := do
  let entry : IO.FS.DirEntry := { root := pathText directory, fileName := name }
  try
    return some (← entry.path.symlinkMetadata).type
  catch _ => return none

/-- The place that a link or directory leads to, if there is anything. -/
def realPlace? (place : List String) : IO (Option (List String)) := do
  try
    let real ← IO.FS.realPath (pathText place)
    return some (Path.ofString real.toString).parts
  catch _ => return none

/-- The content of the file at a place, if it matters to a run. -/
def contentOf (place : List String) : IO (List UInt8) := do
  let name := place.getLast?.getD ""
  let settings := [Config.Source.own.fileName, Config.Source.project.fileName]
  if Analyzer.supports (Path.extensionOf name) || settings.contains name then
    return (← IO.FS.readBinFile (pathText place)).toList
  else return []

/-- Puts an entry at a place; the directories above it are made. -/
def graft (fs : FileSystem) (place : List String) (entry : Entry) : FileSystem :=
  let above : Path := { anchor := .root, parts := place.dropLast }
  (fs.makeDirectories above).1.put place entry

/-- Copies the way along `names` from the directory at a place. -/
partial def copyWay (fs : FileSystem) (here : List String) : List String → IO FileSystem
  | [] => return fs
  | ".." :: rest => copyWay fs here.dropLast rest
  | name :: rest => do
    let place := here ++ [name]
    match ← kindOf? here name with
    | some .dir =>
      let fs := if (fs.find? place).isNone then graft fs place (.directory []) else fs
      copyWay fs place rest
    | some .symlink =>
      match ← realPlace? place with
      | some real =>
        let fs ← copyWay fs [] real
        copyWay (graft fs place (.link { anchor := .root, parts := real })) real rest
      | none => return graft fs place (.link { anchor := .root, parts := place })
    | some _ => return graft fs place (.file (← contentOf place))
    | none => return fs

/-- Copies what is below the directory at a place. -/
partial def copyBelow (fs : FileSystem) (place : List String) : IO FileSystem := do
  let directory ← IO.FS.realPath (pathText place)
  let mut fs := fs
  for entry in ← directory.readDir do
    let below := place ++ [entry.fileName]
    match ← kindOf? place entry.fileName with
    | some .dir => fs ← copyBelow (graft fs below (.directory [])) below
    | _ => fs ← copyWay fs place [entry.fileName]
  return fs

/-- Copies the way to a path and, if it leads to a directory, what is below it. -/
def copyProject (fs : FileSystem) (path : Path) : IO FileSystem := do
  let fs ← copyWay fs (FileSystem.start fs.workingDirectory path) path.parts
  match fs.locate path with
  | .ok (.taken place (.directory _)) => copyBelow fs place
  | _ => return fs

/-- Copies what a run looks at. -/
def copyFor (arguments : RunArguments) : IO FileSystem := do
  let here := (Path.ofString (← IO.FS.realPath ".").toString).parts
  let fs ← copyWay { workingDirectory := here } [] here
  let fs ← copyProject fs arguments.directory
  let config := ((Config.load fs (fs.canonical arguments.directory)).2.toOption).getD {}
  let output := arguments.outputPath config
  copyWay fs (FileSystem.start here output) output.parts

/-- Runs the survey and writes the report. -/
def survey (arguments : RunArguments) (verbose : Bool) : IO CommandLine.Session := do
  let outcome := run (← copyFor arguments) arguments
  if let .ok (output, report) := outcome.result then
    IO.FS.createDirAll (toString output.parent)
    IO.FS.writeBinFile (toString output) (ByteArray.mk (reportContent report).toArray)
  return .ofRun verbose outcome

/-- Answers a command line. -/
def answer (words : List String) : IO CommandLine.Session := do
  match CommandLine.Invocation.read words with
  | .run arguments verbose => survey arguments verbose
  | _ => return CommandLine.session {} words

end Program

end CodeSurvey

open CodeSurvey in
def main (words : List String) : IO UInt32 := do
  let session ← Program.answer words
  IO.eprint session.errors
  if let some failure := session.failure then IO.eprintln failure.message
  IO.print session.output
  return session.exit.toUInt32
