import CodeSurvey.AssociationList
import CodeSurvey.Path

/-!
# File systems

A file system is a tree of entries below its root directory: regular files with their bytes,
symbolic links with the path they lead to, and directories.  The order in which a directory
lists its entries carries no meaning, and a name stands in it once.

A *place* is the list of the names from the root to an entry, through directories only.
`FileSystem.find?` is the view that all operations are about: it says what stands at a place.
-/

namespace CodeSurvey

/-- What stands under a name in a directory. -/
inductive Entry where
  | file (content : List UInt8)
  /-- A link leads to its target as seen from the directory that the link is in. -/
  | link (target : Path)
  | directory (entries : List (String × Entry))
deriving Repr, Inhabited

namespace Entry

/-- The entry at the end of a list of names; links on the way are not followed. -/
def descend : List String → Entry → Option Entry
  | [], entry => some entry
  | name :: rest, directory entries => (entries.lookup name).bind (descend rest)
  | _ :: _, _ => none

mutual

/-- The number of links in and below an entry. -/
def links : Entry → Nat
  | file _ => 0
  | link _ => 1
  | directory entries => linksOfEntries entries

/-- The number of links in and below the entries of a directory. -/
def linksOfEntries : List (String × Entry) → Nat
  | [] => 0
  | (_, entry) :: rest => links entry + linksOfEntries rest

end

/-- Puts an entry at the end of a list of names.  The directories on the way have to be there;
where one is missing nothing changes. -/
def put (entry : Entry) : List String → List (String × Entry) → List (String × Entry)
  | [], entries => entries
  | [name], entries => assign name entry entries
  | name :: rest, entries =>
    match entries.lookup name with
    | some (directory inner) => assign name (directory (put entry rest inner)) entries
    | _ => entries

/-- Takes away what stands at the end of a list of names. -/
def remove : List String → List (String × Entry) → List (String × Entry)
  | [], entries => entries
  | [name], entries => entries.filter (·.1 ≠ name)
  | name :: rest, entries =>
    match entries.lookup name with
    | some (directory inner) => assign name (directory (remove rest inner)) entries
    | _ => entries

end Entry

/-- A file system and the place of the working directory, from which relative paths start. -/
structure FileSystem where
  entries : List (String × Entry) := []
  workingDirectory : List String := []
deriving Repr, Inhabited

namespace FileSystem

/-- What stands at a place. -/
def find? (fs : FileSystem) (place : List String) : Option Entry :=
  (Entry.directory fs.entries).descend place

/-- The file system with an entry put at a place. -/
def put (fs : FileSystem) (place : List String) (entry : Entry) : FileSystem :=
  { fs with entries := Entry.put entry place fs.entries }

/-- The file system without the entry at a place. -/
def remove (fs : FileSystem) (place : List String) : FileSystem :=
  { fs with entries := Entry.remove place fs.entries }

/-- The place where a path starts that is used in the directory `here`. -/
def start (here : List String) (path : Path) : List String :=
  if path.isAbsolute then [] else here

end FileSystem

end CodeSurvey
