/-!
# Paths

A path is an anchor followed by the names on the way.  `Path.ofString` brings a text to this
form: empty and `.` components vanish, `..` stays a component of its own, and a leading run of
slashes is an anchor — exactly two slashes are an anchor different from one, three or more are
the same as one.  `Path.toString` writes the form back; the path without anchor and names is
`.`.
-/

namespace CodeSurvey

/-- Where a path starts. -/
inductive Anchor where
  /-- At the directory that the path is used in. -/
  | relative
  /-- At the root directory. -/
  | root
  /-- At the root spelled with exactly two slashes. -/
  | doubleRoot
deriving DecidableEq, Repr, Inhabited

/-- A path in normal form. -/
structure Path where
  anchor : Anchor := .relative
  /-- The names on the way, none of them empty, `.` or with a slash. -/
  parts : List String := []
deriving DecidableEq, Repr, Inhabited

namespace Path

/-- Cuts a list of characters at every slash. -/
def splitSlashes : List Char → List (List Char)
  | [] => [[]]
  | c :: rest =>
    if c = '/' then [] :: splitSlashes rest
    else match splitSlashes rest with
      | [] => [[c]]
      | part :: parts => (c :: part) :: parts

/-- The anchor that a leading run of `n` slashes means. -/
def anchorOfSlashes : Nat → Anchor
  | 0 => .relative
  | 2 => .doubleRoot
  | _ => .root

/-- Reads a path. -/
def ofString (text : String) : Path where
  anchor := anchorOfSlashes (text.toList.takeWhile (· = '/')).length
  parts := ((splitSlashes text.toList).filter fun part => part ≠ [] ∧ part ≠ ['.']).map String.ofList

/-- The text of an anchor. -/
def anchorText : Anchor → String
  | .relative => ""
  | .root => "/"
  | .doubleRoot => "//"

/-- The text of a path. -/
protected def toString (p : Path) : String :=
  if p.anchor = .relative ∧ p.parts = [] then "."
  else anchorText p.anchor ++ "/".intercalate p.parts

instance : ToString Path := ⟨Path.toString⟩

/-- The path that leads on from `p` by one name. -/
def child (p : Path) (name : String) : Path := { p with parts := p.parts ++ [name] }

/-- The path `q` seen from the directory `p`: an anchored `q` stands for itself. -/
def join (p q : Path) : Path :=
  if q.anchor = .relative then { p with parts := p.parts ++ q.parts } else q

/-- The path without its last name; a path without names is its own parent. -/
def parent (p : Path) : Path := { p with parts := p.parts.dropLast }

/-- The last name of the path, empty when there is none. -/
def name (p : Path) : String := p.parts.getLast?.getD ""

/-- The path is anchored. -/
def isAbsolute (p : Path) : Bool := p.anchor != .relative

/-- The characters after the last dot of a name; empty when there is no dot or the dot is the
first or the last character. -/
def extensionOf (name : String) : String :=
  let fromRight := name.toList.reverse
  let after := fromRight.takeWhile (· ≠ '.')
  let before := (fromRight.dropWhile (· ≠ '.')).drop 1
  if after = [] ∨ before = [] then "" else String.ofList after.reverse

/-- The extension of the path's last name. -/
def extension (p : Path) : String := extensionOf p.name

end Path

end CodeSurvey
