import CodeSurvey.Analysis.Script
import CodeSurvey.Analysis.Table
import CodeSurvey.Parsing.SyntaxTree
import CodeSurvey.Path
import CodeSurvey.Text.Grouped

/-!
# Analyzers

An analyzer turns the bytes of a file into the file's report.  `Analyzer.ofExtension?` picks it
by the extension of the file.  A script with a syntax error has no report; for the languages that
are read by tables every text has one.
-/

namespace CodeSurvey

/-- The two families of scripts. -/
inductive Dialect where
  /-- Scripts without markup. -/
  | plain
  /-- Scripts with markup, in which classes are units. -/
  | markup
deriving DecidableEq, Repr, Inhabited

namespace Dialect

/-- The name of a family. -/
def name : Dialect → String
  | plain => "js/ts"
  | markup => "jsx/tsx"

/-- The grammar of a family. -/
def grammar : Dialect → Grammar
  | plain => .typescript
  | markup => .tsx

/-- What the analysis of a family takes into account. -/
def script (d : Dialect) (reading : Reading) : Script :=
  match d with
  | plain => { unwrapAwait := true, reading }
  | markup => { classesAsUnits := true, reading }

end Dialect

/-- The grammar of a language. -/
def Language.grammar : Language → Grammar
  | python => .python
  | java => .java
  | cpp => .cpp
  | c => .c
  | go => .go

/-! ### Failures -/

/-- Why a file has no report of its own. -/
inductive AnalysisError where
  /-- The text of the file at `path` does not follow the grammar of `language`. -/
  | unparsable (path language detail : String)
  /-- The file at `path` has `size` bytes where only `limit` are allowed. -/
  | tooLarge (path : String) (size limit : Int)
deriving DecidableEq, Repr, Inhabited

/-- The wording of a failure. -/
def AnalysisError.message : AnalysisError → String
  | unparsable path language detail =>
    "Failed to parse " ++ path ++ " as " ++ language ++
      (if detail = "" then "" else ": " ++ detail)
  | tooLarge path size limit =>
    "File " ++ path ++ " is " ++ Text.grouped size ++ " bytes, exceeds limit of " ++
      Text.grouped limit ++ " bytes"

/-! ### Analyzers -/

/-- How the files of one extension are analysed. -/
inductive Analyzer where
  | table (language : Language)
  | script (dialect : Dialect) (reading : Reading)
deriving DecidableEq, Repr, Inhabited

namespace Analyzer

/-- The language of each extension that is read by a table. -/
def tableExtensions : List (String × Language) :=
  [("py", .python), ("java", .java), ("cpp", .cpp), ("c", .c), ("go", .go)]

/-- The family of each extension of a script. -/
def scriptExtensions : List (String × Dialect) :=
  [("js", .plain), ("ts", .plain), ("jsx", .markup), ("tsx", .markup)]

/-- The analyzer of an extension. -/
def ofExtension? (extension : String) (reading : Reading) : Option Analyzer :=
  match scriptExtensions.lookup extension with
  | some dialect => some (script dialect reading)
  | none => (tableExtensions.lookup extension).map table

/-- The analyzer of a file. -/
def ofPath? (path : Path) (reading : Reading) : Option Analyzer :=
  ofExtension? path.extension reading

/-- The extensions of the files that are analysed. -/
def supportedExtensions : List String := tableExtensions.map (·.1) ++ scriptExtensions.map (·.1)

/-- Files with this extension are analysed. -/
def supports (extension : String) : Bool := extension ∈ supportedExtensions

/-- An extension is supported when there is an analyzer for it, in whatever reading. -/
theorem supports_iff (extension : String) (reading : Reading) :
    supports extension = true ↔ (ofExtension? extension reading).isSome := by
  have hsome : (ofExtension? extension reading).isSome ↔
      (tableExtensions.lookup extension).isSome ∨ (scriptExtensions.lookup extension).isSome := by
    rw [ofExtension?]
    cases scriptExtensions.lookup extension <;> simp
  rw [hsome, isSome_lookup_iff_mem_keys, isSome_lookup_iff_mem_keys, ← List.mem_append]
  exact decide_eq_true_iff

/-- The name of what an analyzer reads. -/
def name : Analyzer → String
  | table language => language.name
  | script dialect _ => dialect.name

/-- The grammar an analyzer parses by. -/
def grammar : Analyzer → Grammar
  | table language => language.grammar
  | script dialect _ => dialect.grammar

/-- The report of the file at `path`, whose syntax tree is given. -/
def analyzeTree (a : Analyzer) (path : String) (tree : SyntaxTree) :
    Except AnalysisError FileReport :=
  match a with
  | table language => .ok (FileReport.ofEvents path (language.events tree.root))
  | script dialect reading =>
    if tree.hasError then .error (.unparsable path dialect.name "syntax error")
    else .ok (FileReport.ofEvents path ((dialect.script reading).events tree.root))

/-- The report of the file at `path`, whose content is given. -/
def analyze (a : Analyzer) (path : String) (source : List UInt8) :
    Except AnalysisError FileReport :=
  a.analyzeTree path (a.grammar.parse source)

end Analyzer

end CodeSurvey
