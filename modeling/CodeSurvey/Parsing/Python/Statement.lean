import CodeSurvey.Parsing.Python.Expression

/-!
# Python: statements

Simple statements stand on lines, compound statements govern blocks.  A few words introduce a
statement only where what follows fits; elsewhere they are names: `match`, `type`, and the older
statements `print` and `exec`.
-/

namespace CodeSurvey

namespace PythonGrammar

open Parse

/-! ### Simple statements -/

/-- A name with dots. -/
def dottedName : P Unit := node "dotted_name" (separated identifier (mark "."))

/-- An imported name, perhaps under another one. -/
def importedName : P Unit := do
  extras
  let start ← position
  let n ← single dottedName
  (do
    leave (← extend "aliased_import" start (inField "name" n) do
      keyword "as"
      label "alias" identifier)) <|> leave n

/-- Imported names. -/
def importedNames : P Unit := commaList (label "name" importedName)

/-- The import of modules. -/
def importStatement : P Unit :=
  node "import_statement" do
    keyword "import"
    importedNames

/-- The import of names from a module. -/
def importFromStatement : P Unit :=
  nodeOfKind do
    keyword "from"
    if (← nextWord) = "__future__" then
      keyword "__future__"
      keyword "import"
      names
      return "future_import_statement"
    else
      label "module_name" moduleName
      keyword "import"
      names <|> node "wildcard_import" (mark "*")
      return "import_from_statement"
where
  /-- A module, by its name or by the way to it. -/
  moduleName : P Unit :=
    dottedName <|> node "relative_import" do
      node "import_prefix" (atLeastOne (symbol "."))
      perhaps dottedName
  /-- Imported names, perhaps between parentheses. -/
  names : P Unit := bracketed "(" importedNames ")" <|> importedNames

/-- The end of a simple statement follows. -/
def statementEnds : P Unit := ahead do
  lineEnd <|> mark ";"

/-- The operators of assignments that compute the new value. -/
def updatingMarks : List String :=
  ["+=", "-=", "*=", "/=", "@=", "//=", "%=", "**=", ">>=", "<<=", "&=", "^=", "|="]

/-- The value of an assignment, which may be an assignment again; assignments nest `depth` deep. -/
def assigned : (depth : Nat) → P Unit
  | 0 => fail
  | depth + 1 => do
    extras
    let start ← position
    let left ← single (yieldExpression <|> expressions)
    let m ← nextMark
    if m = "=" then
      leave (← extend "assignment" start (inField "left" left) do
        mark m
        label "right" (assigned depth))
    else if m = ":" then
      leave (← extend "assignment" start (inField "left" left) do
        mark m
        label "type" typeExpression
        perhaps do
          mark "="
          label "right" (assigned depth))
    else if m ∈ updatingMarks then
      leave (← extend "augmented_assignment" start (inField "left" left) do
        label "operator" (mark m)
        label "right" (assigned depth))
    else leave left

/-- An expression or assignment on its own. -/
def expressionStatement : P Unit :=
  node "expression_statement" do
    let s ← source
    assigned (s.size + 1)
    statementEnds

/-- The older form of printing. -/
def printStatement : P Unit :=
  node "print_statement" do
    keyword "print"
    (do
      node "chevron" do
        mark ">>"
        expression
      many do
        mark ","
        label "argument" expression) <|>
    separated (label "argument" expression) (mark ",")
    perhaps (mark ",")
    statementEnds

/-- The older form of executing a text. -/
def execStatement : P Unit :=
  node "exec_statement" do
    keyword "exec"
    label "code" (strings <|> identifier)
    perhaps do
      keyword "in"
      separated expression (mark ",")
    statementEnds

/-- A simple statement. -/
def simpleStatement : P Unit := do
  let w ← nextWord
  match w with
  | "import" => importStatement
  | "from" => importFromStatement
  | "pass" => node "pass_statement" (keyword w)
  | "break" => node "break_statement" (keyword w)
  | "continue" => node "continue_statement" (keyword w)
  | "return" => node "return_statement" do
      keyword w
      perhaps expressions
  | "del" => node "delete_statement" do
      keyword w
      expressions
  | "assert" => node "assert_statement" do
      keyword w
      commaList expression
  | "raise" => node "raise_statement" do
      keyword w
      perhaps expressions
      perhaps do
        keyword "from"
        label "cause" expression
  | "global" => node "global_statement" do
      keyword w
      commaList identifier
  | "nonlocal" => node "nonlocal_statement" do
      keyword w
      commaList identifier
  | "print" => expressionStatement <|> printStatement
  | "exec" => expressionStatement <|> execStatement
  | "type" =>
    (node "type_alias_statement" do
      keyword w
      label "left" typeExpression
      mark "="
      label "right" typeExpression) <|> expressionStatement
  | _ => expressionStatement

/-- Simple statements on one line. -/
def simpleStatements : P Unit := do
  separated simpleStatement (mark ";")
  perhaps (mark ";")
  lineEnd

/-! ### Compound statements -/

/-- A block after a colon: statements on the same line, or lines of their own. -/
def suite (indent : Nat) (field : String := "body") : P Unit := do
  mark ":"
  extras
  label field (indentedBlock indent (fun inner => call (.statement inner)) <|>
    node "block" simpleStatements)

/-- A further part of a compound statement, on a later line. -/
def clause (indent : Nat) (word : String) (p : P Unit) : P Unit := do
  nextLine indent
  ensure ((← nextWord) = word)
  p

/-- What happens when a loop or a list of conditions comes to its end. -/
def elseClause (indent : Nat) : P Unit :=
  clause indent "else" <| label "alternative" <| node "else_clause" do
    keyword "else"
    suite indent

/-- A condition. -/
def ifStatement (indent : Nat) : P Unit :=
  node "if_statement" do
    keyword "if"
    label "condition" expression
    suite indent
    many <| clause indent "elif" <| label "alternative" <| node "elif_clause" do
      keyword "elif"
      label "condition" expression
      suite indent
    perhaps (elseClause indent)

/-- A loop with a condition. -/
def whileStatement (indent : Nat) : P Unit :=
  node "while_statement" do
    keyword "while"
    label "condition" expression
    suite indent
    perhaps (elseClause indent)

/-- A loop over values. -/
def forStatement (indent : Nat) : P Unit :=
  node "for_statement" do
    perhaps (keyword "async")
    keyword "for"
    label "left" targets
    keyword "in"
    label "right" expressions
    suite indent
    perhaps (elseClause indent)

/-- A block whose errors are handled. -/
def tryStatement (indent : Nat) : P Unit :=
  node "try_statement" do
    keyword "try"
    suite indent
    many <| clause indent "except" <| node "except_clause" do
      keyword "except"
      perhaps (mark "*")
      perhaps do
        separated expression (mark ",")
        perhaps do
          keyword "as"
          expression
      suite indent
    perhaps (elseClause indent)
    perhaps <| clause indent "finally" <| node "finally_clause" do
      keyword "finally"
      suite indent

/-- What a block works with. -/
def withStatement (indent : Nat) : P Unit :=
  node "with_statement" do
    perhaps (keyword "async")
    keyword "with"
    node "with_clause" (do
      bracketed "(" (commaList item) ")"
      ensure ((← nextMark) = ":")) <|>
    node "with_clause" (commaList item)
    suite indent
where
  /-- A value, perhaps under a name. -/
  item : P Unit :=
    node "with_item" <| label "value" do
      extras
      let start ← position
      let value ← single expression
      (do
        leave (← extend "as_pattern" start value do
          keyword "as"
          label "alias" (node "as_pattern_target" (call .primary)))) <|> leave value

/-- A function. -/
def functionDefinition (indent : Nat) : P Unit :=
  node "function_definition" do
    perhaps (keyword "async")
    keyword "def"
    label "name" anyName
    perhaps (label "type_parameters" typeParameters)
    label "parameters" parameters
    perhaps do
      mark "->"
      label "return_type" typeExpression
    suite indent

/-- A class. -/
def classDefinition (indent : Nat) : P Unit :=
  node "class_definition" do
    keyword "class"
    label "name" anyName
    perhaps (label "type_parameters" typeParameters)
    perhaps <| label "superclasses" <|
      node "argument_list" (bracketed "(" (perhaps (commaList argument)) ")")
    suite indent

/-- A function or class with decorators. -/
def decoratedDefinition (indent : Nat) : P Unit :=
  node "decorated_definition" do
    atLeastOne do
      node "decorator" do
        mark "@"
        expression
        lineEnd
      nextLine indent
    label "definition" (functionDefinition indent <|> classDefinition indent)

/-! ### Pattern matching -/

/-- A pattern. -/
def casePattern : P Unit := node "case_pattern" (call .casePattern)

/-- A pattern without alternatives and name. -/
def closedPattern : P Unit := do
  match ← nextMark with
  | "(" => node "tuple_pattern" (bracketed "(" (perhaps (commaList casePattern)) ")")
  | "[" => node "list_pattern" (bracketed "[" (perhaps (commaList casePattern)) "]")
  | "\x7b" => node "dict_pattern" <| bracketed "\x7b" (perhaps (commaList (choice [
      splatPattern,
      do
        label "key" closedKey
        mark ":"
        label "value" casePattern]))) "\x7d"
  | "*" | "**" => splatPattern
  | _ => closedKey <|> classOrName
where
  /-- The rest of a sequence or dictionary. -/
  splatPattern : P Unit :=
    node "splat_pattern" do
      mark "*" <|> mark "**"
      identifier
  /-- A literal, or a name with dots. -/
  closedKey : P Unit := choice [
    strings,
    do
      perhaps (mark "-")
      leaf "float" float <|> leaf "integer" integer
      perhaps do
        mark "+" <|> mark "-"
        leaf "float" float <|> leaf "integer" integer,
    lexicon.keywordNode "none" "None",
    lexicon.keywordNode "true" "True",
    lexicon.keywordNode "false" "False",
    do
      dottedName
      ensure ((← nextMark) != "(")]
  /-- A class with patterns of its attributes. -/
  classOrName : P Unit :=
    node "class_pattern" do
      dottedName
      bracketed "(" (perhaps (commaList (node "case_pattern" ((node "keyword_pattern" do
        identifier
        mark "="
        call .casePattern) <|> call .casePattern)))) ")"

/-- A pattern with alternatives and perhaps a name. -/
def casePatternBody : P Unit := do
  separated closedPattern (mark "|")
  perhaps do
    keyword "as"
    identifier

/-- The choice among cases. -/
def matchStatement (indent : Nat) : P Unit :=
  node "match_statement" do
    keyword "match"
    commaList (label "subject" expression)
    mark ":"
    extras
    label "body" (indentedBlock indent caseClause)
where
  /-- A case. -/
  caseClause (indent : Nat) : P Unit :=
    label "alternative" <| node "case_clause" do
      keyword "case"
      commaList casePattern
      perhaps <| label "guard" <| node "if_clause" do
        keyword "if"
        expression
      suite indent "consequence"

/-! ### Statements -/

/-- The rest of a line that no rule fits. -/
def strayLine : P Unit :=
  leafAtOnce "ERROR" (span (· != '\n'))

/-- The statements of a line, or a compound statement. -/
def statementBody (indent : Nat) : P Unit := do
  let w ← nextWord
  let compound : P Unit :=
    match w with
    | "if" => ifStatement indent
    | "while" => whileStatement indent
    | "for" => forStatement indent
    | "try" => tryStatement indent
    | "with" => withStatement indent
    | "def" => functionDefinition indent
    | "class" => classDefinition indent
    | "async" => choice [functionDefinition indent, forStatement indent, withStatement indent]
    | "match" => matchStatement indent
    | "" => decoratedDefinition indent
    | _ => fail
  choice [compound, simpleStatements, strayLine]

/-- The body of each rule. -/
def body : Rule → P Unit
  | .statement indent => statementBody indent
  | .expression => remembered .expression expressionBody
  | .binary level => binaryBody level
  | .operand => remembered .operand operandBody
  | .primary => remembered .primary primaryBody
  | .string => stringBody
  | .casePattern => casePatternBody

/-- A whole program. -/
def program : P Unit := do
  extras
  lines 0 (call (.statement 0))

/-- The syntax tree of a program.  A text that does not follow the grammar has one too: what no
rule fits is left out of it line by line. -/
def parse (source : Source) : Node :=
  match run source lineExtra body program with
  | some (nodes, _) => nodeOver source "module" 0 source.size nodes
  | none => nodeOver source "module" 0 source.size []

end PythonGrammar

end CodeSurvey
