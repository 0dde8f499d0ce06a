import CodeSurvey.Parsing.Script.Markup
import CodeSurvey.Parsing.Script.Statement

/-!
# Scripts: the grammar

The bodies of all rules, and the parse of a whole script.  A script is accepted when statements
make it up to its end; otherwise it has a syntax error.
-/

namespace CodeSurvey

namespace ScriptGrammar

open Parse

/-- The body of each rule. -/
def body (markup : Bool) : Rule → P Unit
  | .statement => statementBody
  | .declaration => declaration
  | .block => blockBody
  | .expression mode => remembered (.expression mode) (expressionBody mode)
  | .binary level mode => binaryBody level mode
  | .operand mode => remembered (.operand mode) (operandBody mode)
  | .simple mode => simpleBody mode
  | .arrow mode => arrowFunction mode
  | .angled mode => angledBody markup mode
  | .pattern => remembered .pattern patternBody
  | .parameters => remembered .parameters parametersBody
  | .classBody => classBodyBody
  | .type mode => remembered (.type mode) (typeBody mode)
  | .typeOperand mode => typeOperandBody mode
  | .objectType => objectTypeBody
  | .element => elementBody

/-- A line in front of the script that names its interpreter. -/
def interpreterLine (s : Source) (i : Nat) : Option Nat :=
  if s.startsWith i ['#', '!'] then some (s.skipWhile (fun c => c != '\n') i) else none

/-- A whole script. -/
def program : P Unit := do
  perhaps (leaf "hash_bang_line" interpreterLine)
  statements
  extras
  perhaps (leafAtOnce "html_comment" markupComment)

/-- The syntax tree of a script, `none` if the script has a syntax error. -/
def parse? (markup : Bool) (source : Source) : Option Node :=
  match run source extra (body markup) program with
  | some (nodes, stop) =>
    if stop = source.size then some (nodeOver source "program" 0 stop nodes) else none
  | none => none

end ScriptGrammar

end CodeSurvey
