import CodeSurvey.FileSystem.Basic
import CodeSurvey.Text.Quoted

/-!
# Following paths

`FileSystem.locate` leads a path to the place that it names.  It goes from directory to
directory; `..` leads back, and a link is followed by going on along its target and then along
the rest of the path.  At most `linkLimit` links are followed for one path, so that links which
lead to each other are an obstacle instead of a way without end.
-/

namespace CodeSurvey

/-! ### What can stand in the way -/

/-- Why something cannot be done with a path. -/
inductive Obstacle where
  | missing
  | alreadyThere
  | notDirectory
  | isDirectory
  | tooManyLinks
deriving DecidableEq, Repr, Inhabited

namespace Obstacle

/-- The number under which systems report the obstacle. -/
def number : Obstacle → Nat
  | missing => 2
  | alreadyThere => 17
  | notDirectory => 20
  | isDirectory => 21
  | tooManyLinks => 40

/-- The words in which systems report the obstacle. -/
def words : Obstacle → String
  | missing => "No such file or directory"
  | alreadyThere => "File exists"
  | notDirectory => "Not a directory"
  | isDirectory => "Is a directory"
  | tooManyLinks => "Too many levels of symbolic links"

end Obstacle

/-- An obstacle and the path that was to be used. -/
structure FileError where
  obstacle : Obstacle
  path : Path
deriving DecidableEq, Repr, Inhabited

/-- The wording of a file error. -/
def FileError.message (e : FileError) : String :=
  "[Errno " ++ toString e.obstacle.number ++ "] " ++ e.obstacle.words ++ ": " ++
    Text.quoted (toString e.path)

/-! ### From a path to a place -/

/-- Where a path leads. -/
inductive Spot where
  /-- To an entry. -/
  | taken (place : List String) (entry : Entry)
  /-- To a name that is free in a directory. -/
  | vacant (place : List String)
deriving Repr, Inhabited

namespace FileSystem

/-- The number of links that are followed for one path. -/
def linkLimit : Nat := 40

/-- Goes on from the directory `here` along the names of a path.  Where a link has to be
followed, `onLink` takes over with the directory that its target starts from and the names still
to go; a link under the last name is followed only if `toTarget` holds. -/
def advance (fs : FileSystem) (toTarget : Bool)
    (onLink : List String → List String → Except Obstacle Spot) :
    List String → List String → Except Obstacle Spot
  | here, [] =>
    match fs.find? here with
    | some entry => .ok (.taken here entry)
    | none => .error .missing
  | here, name :: rest =>
    if name = ".." then advance fs toTarget onLink here.dropLast rest
    else
      let next := here ++ [name]
      match fs.find? next with
      | none => if rest = [] then .ok (.vacant next) else .error .missing
      | some (.directory _) => advance fs toTarget onLink next rest
      | some (.file content) =>
        if rest = [] then .ok (.taken next (.file content)) else .error .notDirectory
      | some (.link target) =>
        if rest = [] ∧ !toTarget then .ok (.taken next (.link target))
        else onLink (start here target) (target.parts ++ rest)

/-- Goes on from the directory `here` along the names of a path, with the number of links that
may still be followed. -/
def follow (fs : FileSystem) (toTarget : Bool) :
    (budget : Nat) → List String → List String → Except Obstacle Spot
  | 0 => advance fs toTarget fun _ _ => .error .tooManyLinks
  | budget + 1 => advance fs toTarget (follow fs toTarget budget)

/-- Where a path leads. -/
def locate (fs : FileSystem) (path : Path) : Except Obstacle Spot :=
  fs.follow true linkLimit (start fs.workingDirectory path) path.parts

/-- Where a path leads when a link under its last name is not followed. -/
def locateLink (fs : FileSystem) (path : Path) : Except Obstacle Spot :=
  fs.follow false linkLimit (start fs.workingDirectory path) path.parts

/-! ### Looking at files and directories -/

/-- The path leads to an entry. -/
def has (fs : FileSystem) (path : Path) : Bool :=
  match fs.locate path with
  | .ok (.taken _ _) => true
  | _ => false

/-- The path leads to a directory. -/
def isDirectory (fs : FileSystem) (path : Path) : Bool :=
  match fs.locate path with
  | .ok (.taken _ (.directory _)) => true
  | _ => false

/-- The bytes of the file that the path leads to. -/
def read (fs : FileSystem) (path : Path) : Except FileError (List UInt8) :=
  match fs.locate path with
  | .ok (.taken _ (.file content)) => .ok content
  | .ok (.taken _ (.directory _)) => .error ⟨.isDirectory, path⟩
  | .ok (.taken _ (.link _)) => .error ⟨.tooManyLinks, path⟩
  | .ok (.vacant _) => .error ⟨.missing, path⟩
  | .error obstacle => .error ⟨obstacle, path⟩

/-- The entries of the directory that the path leads to. -/
def list (fs : FileSystem) (path : Path) : Except FileError (List (String × Entry)) :=
  match fs.locate path with
  | .ok (.taken _ (.directory entries)) => .ok entries
  | .ok (.taken _ (.file _)) => .error ⟨.notDirectory, path⟩
  | .ok (.taken _ (.link _)) => .error ⟨.tooManyLinks, path⟩
  | .ok (.vacant _) => .error ⟨.missing, path⟩
  | .error obstacle => .error ⟨obstacle, path⟩

/-! ### Canonical paths -/

/-- Goes on from the place `here` along the names of a path, whether or not there is anything at
the places on the way.  Where there is a link, `onLink` says which place the link leads to.  When
it cannot, the names it could reach are the answer, with those still to go behind them. -/
def canonicalPlace (fs : FileSystem)
    (onLink : List String → Path → Except (List String) (List String)) :
    List String → List String → Except (List String) (List String)
  | here, [] => .ok here
  | here, name :: rest =>
    if name = ".." then canonicalPlace fs onLink here.dropLast rest
    else
      let next := here ++ [name]
      match fs.find? next with
      | some (.link target) =>
        match onLink next target with
        | .ok place => canonicalPlace fs onLink place rest
        | .error reached => .error (reached ++ rest)
      | _ => canonicalPlace fs onLink next rest

/-- Goes on from the place `here` along the names of a path.  `followed` are the links that are
being followed; a link leads nowhere within itself.  No more links than there are, `depth`, can be
followed within each other. -/
def canonicalWithin (fs : FileSystem) : (depth : Nat) → (followed : List (List String)) →
    List String → List String → Except (List String) (List String)
  | 0, _ => canonicalPlace fs fun link _ => .error link
  | depth + 1, followed => canonicalPlace fs fun link target =>
    if link ∈ followed then .error link
    else canonicalWithin fs depth (link :: followed) (start link.dropLast target) target.parts

/-- Takes every `..` together with the name before it out of a list of names. -/
def collapse (names : List String) : List String :=
  names.foldl (fun above name => if name = ".." then above.dropLast else above ++ [name]) []

/-- The path from the root, without links and without `..`, that leads where `path` leads.  Names
that there are no entries for are kept.  A link that leads back to itself is kept as well, and
after it `..` takes away the name before. -/
def canonical (fs : FileSystem) (path : Path) : Path :=
  let depth := Entry.linksOfEntries fs.entries
  let parts :=
    match fs.canonicalWithin depth [] (start fs.workingDirectory path) path.parts with
    | .ok place => place
    | .error reached => collapse reached
  { anchor := .root, parts }

/-- The canonical path, unless there are too many links on it. -/
def canonical? (fs : FileSystem) (path : Path) : Option Path :=
  match fs.locate (fs.canonical path) with
  | .error .tooManyLinks => none
  | _ => some (fs.canonical path)

end FileSystem

end CodeSurvey
