import CodeSurvey.Analyzer
import CodeSurvey.FileSystem.Follow

/-!
# Discovering source files

`Discovery.ofDirectory` goes through a directory and the directories below it.  A directory comes
before what is in it, and the entries of a directory come in the order of their names.
Directories with an excluded name and links to directories are passed over.  Any other entry whose
extension is supported is a source file, links to files and links to nothing among them.
-/

namespace CodeSurvey

/-- A file to analyse. -/
structure SourceFile where
  /-- The directory it was found in. -/
  directory : Path
  name : String
deriving DecidableEq, Repr, Inhabited

/-- The path of a source file. -/
def SourceFile.path (f : SourceFile) : Path := f.directory.child f.name

/-- What has been discovered. -/
structure Discovery where
  /-- The directories, each with the names of those directly below it. -/
  directories : List (Path × List String) := []
  sources : List SourceFile := []
deriving DecidableEq, Repr, Inhabited

namespace Discovery

/-! ### Order -/

/-- Puts a named thing in front of the first whose name is not smaller. -/
def insertByName {α : Type} (new : String × α) : List (String × α) → List (String × α)
  | [] => [new]
  | next :: rest =>
    if new.1 ≤ next.1 then new :: next :: rest else next :: insertByName new rest

/-- Named things in the order of their names. -/
def sortByName {α : Type} (l : List (String × α)) : List (String × α) := l.foldr insertByName []

/-! ### Discovery -/

/-- What an entry of a directory adds to a discovery. -/
inductive Contribution where
  | nothing
  | source (file : SourceFile)
  /-- The entry is a directory that has been gone through. -/
  | directory (found : Discovery)
deriving Repr, Inhabited

namespace Contribution

/-- The entry is a directory that has been gone through. -/
def isDirectory : Contribution → Bool
  | directory _ => true
  | _ => false

/-- The directories that an entry adds. -/
def directories : Contribution → List (Path × List String)
  | directory found => found.directories
  | _ => []

/-- The source files that an entry adds. -/
def sources : Contribution → List SourceFile
  | nothing => []
  | source file => [file]
  | directory found => found.sources

end Contribution

/-- The discovery of one directory from what its entries add, which are given in the order of
their names. -/
def together (directory : Path) (parts : List (String × Contribution)) : Discovery where
  directories :=
    (directory, (parts.filter (·.2.isDirectory)).map (·.1)) :: parts.flatMap (·.2.directories)
  sources := parts.flatMap (·.2.sources)

/-- What an entry adds that is no directory: a source file, if its extension is supported. -/
def ofName (directory : Path) (name : String) : Contribution :=
  if Analyzer.supports (Path.extensionOf name) then .source ⟨directory, name⟩ else .nothing

mutual

/-- What the entry of that name adds. -/
def ofEntry (fs : FileSystem) (exclude : List String) (directory : Path) (name : String) :
    Entry → Contribution
  | .directory entries =>
    if name ∈ exclude then .nothing
    else
      let path := directory.child name
      .directory (together path (sortByName (ofEntries fs exclude path entries)))
  | .file _ => ofName directory name
  | .link _ =>
    if fs.isDirectory (directory.child name) then .nothing else ofName directory name

/-- What the entries of a directory add. -/
def ofEntries (fs : FileSystem) (exclude : List String) (directory : Path) :
    List (String × Entry) → List (String × Contribution)
  | [] => []
  | (name, entry) :: rest =>
    (name, ofEntry fs exclude directory name entry) :: ofEntries fs exclude directory rest

end

/-- The discovery in a directory; its own name may be an excluded one. -/
def ofDirectory (fs : FileSystem) (exclude : List String) (directory : Path) :
    Except FileError Discovery :=
  match fs.list directory with
  | .ok entries => .ok (together directory (sortByName (ofEntries fs exclude directory entries)))
  | .error e => .error e

end Discovery

end CodeSurvey
