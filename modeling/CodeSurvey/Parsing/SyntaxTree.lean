import CodeSurvey.Grammar
import CodeSurvey.Parsing.C.Statement
import CodeSurvey.Parsing.Go
import CodeSurvey.Parsing.Java.Declaration
import CodeSurvey.Parsing.Python.Statement
import CodeSurvey.Parsing.Script.Grammar

/-!
# Syntax trees of source texts

`Grammar.parse` parses the bytes of a file.  The grammars of scripts refuse a text with a syntax
error; the other grammars are for texts without one.
-/

namespace CodeSurvey

/-- A parsed text. -/
structure SyntaxTree where
  root : Node
  /-- The text does not follow the grammar. -/
  hasError : Bool := false
deriving Repr, Inhabited

/-- The tree of a text that a script grammar refuses. -/
def SyntaxTree.refused : SyntaxTree := { root := { kind := "program" }, hasError := true }

/-- The syntax tree of the bytes of a file. -/
def Grammar.parse (g : Grammar) (bytes : List UInt8) : SyntaxTree :=
  let source := Source.ofBytes bytes
  match g with
  | .python => { root := PythonGrammar.parse source }
  | .java => { root := JavaGrammar.parse source }
  | .cpp => { root := CGrammar.parse true source }
  | .c => { root := CGrammar.parse false source }
  | .go => { root := GoGrammar.parse source }
  | .typescript | .tsx =>
    match ScriptGrammar.parse? (g = .tsx) source with
    | some root => { root }
    | none => .refused

end CodeSurvey
