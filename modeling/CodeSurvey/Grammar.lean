/-!
# Grammars

The grammars that source text is parsed by.  `typescript` reads scripts without markup and
`tsx` reads scripts with markup.
-/

namespace CodeSurvey

/-- A grammar. -/
inductive Grammar where
  | python | java | cpp | c | go | typescript | tsx
deriving DecidableEq, Repr, Inhabited

namespace Grammar

/-- The name of a grammar. -/
def name : Grammar → String
  | python => "python"
  | java => "java"
  | cpp => "cpp"
  | c => "c"
  | go => "go"
  | typescript => "typescript"
  | tsx => "tsx"

/-- All grammars. -/
def all : List Grammar := [python, java, cpp, c, go, typescript, tsx]

/-- The grammar with the given name. -/
def ofName? (name : String) : Option Grammar := all.find? (·.name = name)

/-- The package that a grammar is part of. -/
def package : Grammar → String
  | python => "tree_sitter_python"
  | java => "tree_sitter_java"
  | cpp => "tree_sitter_cpp"
  | c => "tree_sitter_c"
  | go => "tree_sitter_go"
  | typescript | tsx => "tree_sitter_typescript"

/-- The complaint about a grammar that there is not. -/
def unknownMessage (quotedName : String) : String := "No grammar registered for " ++ quotedName

end Grammar

end CodeSurvey
