import CodeSurvey.FileSystem.Follow

/-!
# Changing files and directories

`FileSystem.makeDirectories` makes a directory together with the directories missing above it,
and `FileSystem.write` gives a file its content.  A step that fails leaves what earlier steps have
made, so every operation returns the file system beside its error.
-/

namespace CodeSurvey

namespace FileSystem

/-- Makes the directory at a path, in a directory that has to be there. -/
def makeDirectory (fs : FileSystem) (path : Path) : Except FileError FileSystem :=
  match path.parts with
  | [] => .error ⟨.alreadyThere, path⟩
  | _ :: _ =>
    match fs.locateLink path with
    | .ok (.vacant place) => .ok (fs.put place (.directory []))
    | .ok (.taken _ _) => .error ⟨.alreadyThere, path⟩
    | .error obstacle => .error ⟨obstacle, path⟩

/-- Makes the directory at a path unless the path leads to a directory already. -/
def ensureDirectory (fs : FileSystem) (path : Path) : FileSystem × Option FileError :=
  match fs.makeDirectory path with
  | .ok changed => (changed, none)
  | .error e =>
    if e.obstacle ≠ .missing ∧ fs.isDirectory path then (fs, none) else (fs, some e)

/-- Makes the directory at a path and those missing above it.  The names of the path are given
from last to first. -/
def ensureDirectories (fs : FileSystem) (anchor : Anchor) :
    (reversedNames : List String) → FileSystem × Option FileError
  | [] => fs.ensureDirectory { anchor }
  | name :: above =>
    let path : Path := { anchor, parts := (name :: above).reverse }
    match fs.ensureDirectory path with
    | (fs, none) => (fs, none)
    | (fs, some e) =>
      if e.obstacle = .missing then
        match fs.ensureDirectories anchor above with
        | (fs, none) => fs.ensureDirectory path
        | (fs, some e) => (fs, some e)
      else (fs, some e)

/-- Makes the directory at a path and those missing above it. -/
def makeDirectories (fs : FileSystem) (path : Path) : FileSystem × Option FileError :=
  fs.ensureDirectories path.anchor path.parts.reverse

/-- Gives the file that a path leads to its content.  A name that is free in its directory
becomes a file. -/
def write (fs : FileSystem) (path : Path) (content : List UInt8) :
    FileSystem × Option FileError :=
  match fs.locate path with
  | .ok (.vacant place) => (fs.put place (.file content), none)
  | .ok (.taken place (.file _)) => (fs.put place (.file content), none)
  | .ok (.taken _ (.directory _)) => (fs, some ⟨.isDirectory, path⟩)
  | .ok (.taken _ (.link _)) => (fs, some ⟨.tooManyLinks, path⟩)
  | .error obstacle => (fs, some ⟨obstacle, path⟩)

/-- Gives the file at a path its content after making the directories missing above it. -/
def save (fs : FileSystem) (path : Path) (content : List UInt8) : FileSystem × Option FileError :=
  match fs.makeDirectories path.parent with
  | (fs, none) => fs.write path content
  | (fs, some e) => (fs, some e)

/-- Makes a link at a path, in a directory that has to be there. -/
def makeLink (fs : FileSystem) (path target : Path) : Except FileError FileSystem :=
  match fs.locateLink path with
  | .ok (.vacant place) => .ok (fs.put place (.link target))
  | .ok (.taken _ _) => .error ⟨.alreadyThere, path⟩
  | .error obstacle => .error ⟨obstacle, path⟩

/-- The file system without what stands at a path; a link is taken away, not its target. -/
def erase (fs : FileSystem) (path : Path) : FileSystem :=
  match fs.locateLink path with
  | .ok (.taken place _) => fs.remove place
  | _ => fs

end FileSystem

end CodeSurvey
