import CodeSurvey.Analysis.Script
import CodeSurvey.Analysis.Table
import CodeSurvey.Analysis.Walk
import CodeSurvey.Analyzer
import CodeSurvey.AssociationList
import CodeSurvey.CommandLine.Invocation
import CodeSurvey.CommandLine.Session
import CodeSurvey.CommandLine.Switch
import CodeSurvey.Config
import CodeSurvey.FileSystem.Basic
import CodeSurvey.FileSystem.Change
import CodeSurvey.FileSystem.Follow
import CodeSurvey.Grammar
import CodeSurvey.Language.Basic
import CodeSurvey.Language.Naming
import CodeSurvey.Main
import CodeSurvey.Notice
import CodeSurvey.Number.Binary64
import CodeSurvey.Parsing.C.Declaration
import CodeSurvey.Parsing.C.Expression
import CodeSurvey.Parsing.C.Rule
import CodeSurvey.Parsing.C.Statement
import CodeSurvey.Parsing.C.Type
import CodeSurvey.Parsing.Go
import CodeSurvey.Parsing.Java.Declaration
import CodeSurvey.Parsing.Java.Expression
import CodeSurvey.Parsing.Java.Rule
import CodeSurvey.Parsing.Lexeme
import CodeSurvey.Parsing.Parse
import CodeSurvey.Parsing.Python.Expression
import CodeSurvey.Parsing.Python.Rule
import CodeSurvey.Parsing.Python.Statement
import CodeSurvey.Parsing.Script.Expression
import CodeSurvey.Parsing.Script.Grammar
import CodeSurvey.Parsing.Script.Markup
import CodeSurvey.Parsing.Script.Rule
import CodeSurvey.Parsing.Script.Statement
import CodeSurvey.Parsing.Script.Type
import CodeSurvey.Parsing.Source
import CodeSurvey.Parsing.SyntaxTree
import CodeSurvey.Parsing.Token
import CodeSurvey.Path
import CodeSurvey.Proofs.Analysis.Awaiting
import CodeSurvey.Proofs.Analysis.Completeness
import CodeSurvey.Proofs.Analysis.FlatReading
import CodeSurvey.Proofs.Analysis.LatestDefinition
import CodeSurvey.Proofs.Analysis.Readings
import CodeSurvey.Proofs.Analysis.Rearrangement
import CodeSurvey.Proofs.Analysis.Scoping
import CodeSurvey.Proofs.Analysis.Script
import CodeSurvey.Proofs.Analysis.ScriptNode
import CodeSurvey.Proofs.Analysis.Table
import CodeSurvey.Proofs.Analysis.Walk
import CodeSurvey.Proofs.Config.Loading
import CodeSurvey.Proofs.Config.Settings
import CodeSurvey.Proofs.FileSystem.Growth
import CodeSurvey.Proofs.FileSystem.Listing
import CodeSurvey.Proofs.FileSystem.Outline
import CodeSurvey.Proofs.FileSystem.PathReading
import CodeSurvey.Proofs.FileSystem.PathText
import CodeSurvey.Proofs.FileSystem.Putting
import CodeSurvey.Proofs.FileSystem.Routes
import CodeSurvey.Proofs.FileSystem.Saving
import CodeSurvey.Proofs.Language.Declarator
import CodeSurvey.Proofs.Report.History
import CodeSurvey.Proofs.Report.JsonReader
import CodeSurvey.Proofs.Report.JsonText
import CodeSurvey.Proofs.Report.ReadBack
import CodeSurvey.Proofs.Run.Effect
import CodeSurvey.Proofs.Run.Rerun
import CodeSurvey.Proofs.Run.Settings
import CodeSurvey.Proofs.Scan.Discovery
import CodeSurvey.Proofs.Scan.Exclusion
import CodeSurvey.Proofs.Scan.File
import CodeSurvey.Proofs.Scan.Growth
import CodeSurvey.Proofs.Scan.Isolation
import CodeSurvey.Proofs.Scan.Parallel
import CodeSurvey.Proofs.Scan.Pool
import CodeSurvey.Proofs.Scan.Report
import CodeSurvey.Proofs.Scan.Subtree
import CodeSurvey.Proofs.Syntax.Address
import CodeSurvey.Proofs.Syntax.Search
import CodeSurvey.Proofs.Text.Ascii
import CodeSurvey.Proofs.Text.Trimming
import CodeSurvey.Report.Basic
import CodeSurvey.Report.Builder
import CodeSurvey.Report.Json
import CodeSurvey.Run
import CodeSurvey.Scan.Discovery
import CodeSurvey.Scan.Pool
import CodeSurvey.Scan.Project
import CodeSurvey.Syntax.Node
import CodeSurvey.Text.Blank
import CodeSurvey.Text.Digit
import CodeSurvey.Text.Grouped
import CodeSurvey.Text.Integer
import CodeSurvey.Text.Printable
import CodeSurvey.Text.Quoted
import CodeSurvey.Text.Utf8
import CodeSurvey.Toml.Document
import CodeSurvey.Toml.Lexeme
import CodeSurvey.Toml.Value
