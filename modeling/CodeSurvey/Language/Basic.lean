import CodeSurvey.Syntax.Node

/-!
# Languages read by tables

For five languages a table says which kinds of nodes define functions, which are calls and
which import something.  Only those three roles matter; every other kind is passed through.
-/

namespace CodeSurvey

/-- A language that is read by its table of node kinds. -/
inductive Language where
  | python | java | cpp | c | go
deriving DecidableEq, Repr, Inhabited

/-- What a kind of node is to the survey. -/
inductive Role where
  /-- The node defines a function. -/
  | definition
  /-- The node calls something. -/
  | call
  /-- The node names something the file depends on. -/
  | dependency
deriving DecidableEq, Repr, Inhabited

namespace Language

/-- The name of a language. -/
def name : Language → String
  | python => "python"
  | java => "java"
  | cpp => "cpp"
  | c => "c"
  | go => "go"

/-- All languages that are read by tables. -/
def all : List Language := [python, java, cpp, c, go]

/-- The language with the given name. -/
def ofName? (name : String) : Option Language := all.find? (·.name = name)

/-- The kinds that are dependencies in every language. -/
def commonDependencies : List String :=
  ["import_statement", "import_declaration", "package_declaration", "include_directive",
    "using_declaration"]

/-- The kinds that are dependencies in one language only. -/
def ownDependencies : Language → List String
  | python => ["import_from_statement", "future_import_statement"]
  | java => []
  | cpp | c => ["preproc_include"]
  | go => ["package_clause"]

/-- The kinds that define functions. -/
def definitions : Language → List String
  | python | cpp | c => ["function_definition"]
  | java => ["method_declaration"]
  | go => []

/-- The kinds that are calls. -/
def calls : Language → List String
  | python => ["call"]
  | java => ["method_invocation"]
  | cpp | c => ["call_expression"]
  | go => []

/-- The role of a kind of node. -/
def roleOf? (l : Language) (kind : String) : Option Role :=
  if kind ∈ l.definitions then some .definition
  else if kind ∈ l.calls then some .call
  else if kind ∈ commonDependencies ∨ kind ∈ l.ownDependencies then some .dependency
  else none

/-- The language has functions and calls in its table. -/
def hasFunctions (l : Language) : Bool := l != go

end Language

end CodeSurvey
