import CodeSurvey.Analysis.Walk
import CodeSurvey.Language.Naming
import CodeSurvey.Text.Blank

/-!
# Reading a tree by a language's table

A definition with a name opens a unit: its body is read with that name as caller, and the rest
of it is not read.  A definition without a name is passed through.  A call inside a unit is
credited to the unit; a dependency counts wherever it stands.
-/

namespace CodeSurvey

namespace Language

/-- The name a definition opens a unit with, if it has one. -/
def unitName? (l : Language) (n : Node) : Option String :=
  match l.functionName? n with
  | some name => if name = "" then none else some name
  | none => none

/-- The call event of a call node in a unit. -/
def callEvents (l : Language) (unit : Option String) (n : Node) : List Event :=
  match unit, l.callee? n with
  | some caller, some callee => if callee = "" then [] else [.call caller callee]
  | _, _ => []

/-- The visit of one node. -/
def visit (l : Language) (n : Node) (unit : Option String) : Visit :=
  match l.roleOf? n.kind with
  | some .dependency => ⟨[.dependency (Text.trim n.text)], n.children, unit⟩
  | some .definition =>
    match l.unitName? n with
    | some name => ⟨[.define name ⟨n.startRow, n.endRow⟩], l.functionBody n, some name⟩
    | none => ⟨[], n.children, unit⟩
  | some .call => ⟨l.callEvents unit n, n.children, unit⟩
  | none => ⟨[], n.children, unit⟩

theorem forestSize_visit_below_le (l : Language) (n : Node) (unit : Option String) :
    Node.forestSize (l.visit n unit).below ≤ Node.forestSize n.children := by
  have := forestSize_functionBody_le l n
  unfold visit
  split
  · exact Nat.le_refl _
  · split
    · exact this
    · exact Nat.le_refl _
  · exact Nat.le_refl _
  · exact Nat.le_refl _

/-- The walk of a language, which has nothing to remember. -/
def walk (l : Language) : Walk Unit where
  visit _ n unit := (l.visit n unit, ())
  goesDown _ n unit := forestSize_visit_below_le l n unit

/-- The events of a syntax tree of the language. -/
def events (l : Language) (root : Node) : List Event := l.walk.events () root

end Language

end CodeSurvey
