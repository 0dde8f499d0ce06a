import CodeSurvey.Parsing.Lexeme
import CodeSurvey.Parsing.Token

/-!
# Go: package clauses and imports

A survey of Go asks for the package that a file belongs to and for its imports, which stand
outside all functions.  So the grammar resolves these alone; every other token is passed over,
and of it matters only where it ends: a string or a comment may contain anything.
-/

namespace CodeSurvey

namespace GoGrammar

open Parse

/-- A parse by the grammar, which has no rules that refer to each other. -/
abbrev P := Parse Unit

/-! ### Tokens -/

/-- The words of Go; no mark is asked for that could be the beginning of another one. -/
def lexicon : Lexicon where
  marks := []
  word := span Lexeme.isWordChar

/-- What stands between tokens. -/
def extra : Extras := fun s i =>
  match span Lexeme.isBlankChar s i with
  | some j => some (none, j)
  | none => ((Lexeme.lineComment s i).or (Lexeme.blockComment s i)).map fun j => (some "comment", j)

/-- A text between back quotes, in which nothing has a meaning of its own. -/
def rawString (s : Source) (i : Nat) : Option Nat :=
  if s.charAt i = '\x60' then some (min s.size (s.skipWhile (· != '\x60') (i + 1) + 1)) else none

/-- Any other token. -/
def otherToken (s : Source) (i : Nat) : Option Nat :=
  ((Lexeme.quoted '"' s i).or (Lexeme.quoted '\'' s i)).or <|
    (rawString s i).or <| (span Lexeme.isWordChar s i).or <|
    if i < s.size then some (i + 1) else none

/-! ### Clauses -/

/-- The package of a file. -/
def packageClause : P Unit :=
  node "package_clause" do
    lexicon.keyword "package"
    leaf "package_identifier" lexicon.word

/-- One import: a path, perhaps under a name, all names or no name. -/
def importSpec : P Unit :=
  node "import_spec" do
    perhaps <| label "name" <| choice [
      leaf "dot" (exact "."),
      lexicon.keywordNode "blank_identifier" "_",
      leaf "package_identifier" lexicon.word]
    label "path" <|
      leaf "interpreted_string_literal" (Lexeme.quoted '"') <|> leaf "raw_string_literal" rawString

/-- One import, or some between parentheses. -/
def importDeclaration : P Unit :=
  node "import_declaration" do
    lexicon.keyword "import"
    importSpec <|> node "import_spec_list" do
      symbol "("
      many do
        importSpec
        perhaps (symbol ";")
      symbol ")"

/-- A clause, or a token that is passed over. -/
def item : P Unit := choice [packageClause, importDeclaration, do extras; scan otherToken]

/-- The syntax tree of a file. -/
def parse (source : Source) : Node :=
  match run source extra (fun _ => fail) (do many item; extras) with
  | some (nodes, _) => nodeOver source "source_file" 0 source.size nodes
  | none => nodeOver source "source_file" 0 source.size []

end GoGrammar

end CodeSurvey
