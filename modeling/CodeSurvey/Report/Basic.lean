import CodeSurvey.AssociationList

/-!
# Reports

What the survey says about one file: the functions it defines, the calls credited to each of
them, and what the file depends on.  Lines count from one and both ends belong to a function.
-/

namespace CodeSurvey

/-- Where a function stands.  A place without lines is a file alone. -/
structure Location where
  file : String
  startLine : Option Int := none
  endLine : Option Int := none
deriving DecidableEq, Repr, Inhabited

/-- What makes two calls of one caller the same edge. -/
structure EdgeKey where
  callee : String
  file : String
  line : Option Int := none
deriving DecidableEq, Repr, Inhabited

/-- The key `new` adds nothing beside `existing`: they name the same callee in the same file, and
`new` has no line or the same line.  The relation is not symmetric, since a key without a line is
covered by one with a line but not the other way round. -/
def EdgeKey.coveredBy (new existing : EdgeKey) : Bool :=
  new.callee == existing.callee && new.file == existing.file &&
    (new.line.isNone || new.line == existing.line)

/-- A call to `name`, which is defined at `location`. -/
structure CallEdge where
  name : String
  location : Location
deriving DecidableEq, Repr, Inhabited

/-- The key of a call edge. -/
def CallEdge.key (e : CallEdge) : EdgeKey := ⟨e.name, e.location.file, e.location.startLine⟩

/-- The survey of one file. -/
structure FileReport where
  /-- The names in the order of definition; a name defined twice stands twice. -/
  functions : List String := []
  /-- What the file imports or includes, without repetition. -/
  dependencies : List String := []
  /-- The calls credited to each defined name, in the order of the first definitions. -/
  calls : List (String × List CallEdge) := []
deriving DecidableEq, Repr, Inhabited

/-- The calls credited to a name, `none` when the name is not defined. -/
def FileReport.callsOf? (r : FileReport) (caller : String) : Option (List CallEdge) :=
  r.calls.lookup caller

/-- The survey of one directory. -/
structure DirectoryReport where
  /-- The surveyed files by name. -/
  files : List (String × FileReport) := []
  /-- The names of the directories directly below. -/
  subfolders : List String := []
deriving DecidableEq, Repr, Inhabited

/-- The survey of a project: the directories by path, in the order in which they are visited. -/
abbrev ProjectReport := List (String × DirectoryReport)

end CodeSurvey
