import CodeSurvey.Parsing.C.Declaration

/-!
# C and C++: statements and files

What begins like a call is read as an expression if it can be one, and what begins with a type
and a name as a declaration; the other reading comes second.  Directives stand between items, and
the items between the branches of a condition are all read.
-/

namespace CodeSurvey

namespace CGrammar

open Parse

/-! ### Directives -/

/-- Goes on to the end of the line of a directive, looking at `fuel` characters.  A comment that
begins on the line belongs to it. -/
def lineRestEnd (s : Source) : (fuel : Nat) → Nat → Nat
  | 0, i => i
  | fuel + 1, i =>
    if i ≥ s.size || s.charAt i = '\n' then i
    else
      lineRestEnd s fuel (((hiddenBreak s i).or (Lexeme.blockComment s i)).getD (i + 1))

/-- The rest of the line of a directive with its line break. -/
def lineRest (s : Source) (i : Nat) : Option Nat :=
  some (min s.size (lineRestEnd s (s.size - i) i + 1))

/-- A text that stands for another one, perhaps with parameters. -/
def definition : P String := do
  keyword "define"
  label "name" (leaf "identifier" word)
  let parameterized ← succeeds <| label "parameters" <| node "preproc_params" do
    symbolAtOnce "("
    commaList (mark "..." <|> leaf "identifier" word)
    mark ")"
  extras
  scan lineRest
  return if parameterized then "preproc_function_def" else "preproc_def"

/-- The text of another file. -/
def inclusion : P String := do
  keyword "include"
  label "path" <| choice [
    leaf "string_literal" (Lexeme.quoted '"'),
    leaf "system_lib_string" angledPath,
    call .conditionToken]
  extras
  scan lineRest
  return "preproc_include"
where
  /-- A path between angle brackets. -/
  angledPath (s : Source) (i : Nat) : Option Nat :=
    if s.charAt i = '<' then
      let j := s.skipWhile (fun c => c != '>' && c != '\n') i
      if s.charAt j = '>' then some (j + 1) else none
    else none

/-- Any other directive. -/
def otherDirective : P String := do
  ensure ((← nextWord) ∉ ["if", "ifdef", "ifndef", "elif", "elifdef", "elifndef", "else", "endif"])
  scan lineRest
  return "preproc_call"

/-- A directive between items, or a part that depends on conditions. -/
def directive (items : P Unit) : P Unit :=
  (nodeOfKind do
    symbol "#"
    among lineExtra (choice [inclusion, definition, otherDirective])) <|> conditional items

/-- A token of the condition of a directive: a macro with its arguments, a test whether a macro is
defined, or anything else. -/
def conditionTokenBody : P Unit := choice [
  node "preproc_defined" do
    keyword "defined"
    (do
      symbol "("
      leaf "identifier" word
      symbol ")") <|> leaf "identifier" word,
  node "call_expression" do
    label "function" (leaf "identifier" word)
    label "arguments" <| node "argument_list" do
      symbol "("
      many do
        ensure ((← nextMark) != ")")
        call .conditionToken
      symbol ")",
  leaf "identifier" word,
  leaf "number_literal" Lexeme.number,
  leaf "char_literal" (quoted '\''),
  leaf "string_literal" (Lexeme.quoted '"'),
  do
    let m ← nextMark
    ensure (m != "")
    mark m]

/-! ### Statements -/

/-- A statement. -/
def statement : P Unit := call .statement

/-- An expression with a semicolon behind it, or the semicolon alone. -/
def expressionStatement : P Unit :=
  node "expression_statement" do
    perhaps commaExpression
    mark ";"

/-- A variable with the value that it begins with, as a condition. -/
def conditionDeclaration (plus : Bool) : P Unit :=
  node "declaration" do
    ensure plus
    specifiers true
    label "declarator" (call (.declarator .value) <|> structuredBinding true)
    (do
      mark "="
      label "value" (call .initializerList <|> expression)) <|>
      label "value" (call .initializerList)

/-- What stands in front of the semicolon of a condition or loop. -/
def initStatement (plus : Bool) : P Unit := choice [
  definitionOrDeclaration plus,
  if plus then usingDeclaration else fail,
  expressionStatement]

/-- A condition between parentheses. -/
def condition (plus : Bool) : P Unit :=
  label "condition" <|
    if plus then node "condition_clause" <| parenthesized do
      perhaps <| label "initializer" <| node "init_statement" (initStatement true)
      label "value" (conditionDeclaration true <|> commaExpression)
    else node "parenthesized_expression" (parenthesized commaExpression)

/-- A choice between two statements. -/
def ifStatement (plus : Bool) : P Unit :=
  node "if_statement" do
    keyword "if"
    perhaps (keyword "constexpr")
    (condition plus) <|> do
      perhaps (mark "!")
      keyword "consteval"
    label "consequence" statement
    perhaps <| label "alternative" <| node "else_clause" do
      keyword "else"
      statement

/-- A loop with a counter, or over the values of a range. -/
def forStatement (plus : Bool) : P Unit := nodeOfKind do
  keyword "for"
  mark "("
  (do
    ensure plus
    perhaps (label "initializer" (node "init_statement" (initStatement true)))
    specifiers true
    label "declarator" (call (.declarator .value) <|> structuredBinding true)
    mark ":"
    label "right" (call .initializerList <|> expression)
    mark ")"
    label "body" statement
    return "for_range_loop") <|> do
    (label "initializer" (definitionOrDeclaration plus)) <|> do
      perhaps (label "initializer" commaExpression)
      mark ";"
    perhaps (label "condition" (conditionDeclaration plus <|> commaExpression))
    mark ";"
    perhaps (label "update" commaExpression)
    mark ")"
    label "body" statement
    return "for_statement"

/-- A case of a switch with the statements behind it. -/
def caseStatement (plus : Bool) : P Unit :=
  node "case_statement" do
    keyword "default" <|> do
      keyword "case"
      label "value" expression
      perhaps do
        mark "..."
        expression
    mark ":"
    many do
      ensure ((← nextWord) ∉ ["case", "default"])
      ensure ((← nextMark) != "#")
      attributes plus
      choice [typeDefinition plus, item]

/-- A statement of a keyword, what it governs, and a semicolon. -/
def simple (kind word : String) (p : P Unit) : P Unit :=
  node kind do
    keyword word
    p
    mark ";"

/-- A statement that a keyword begins; fails for other words. -/
def keywordStatement (plus : Bool) (word : String) : P Unit :=
  match word with
  | "if" => ifStatement plus
  | "switch" =>
    node "switch_statement" do
      keyword word
      condition plus
      label "body" statement
  | "while" =>
    node "while_statement" do
      keyword word
      condition plus
      label "body" statement
  | "do" =>
    node "do_statement" do
      keyword word
      label "body" statement
      keyword "while"
      label "condition" (node "parenthesized_expression" (parenthesized commaExpression))
      mark ";"
  | "for" => forStatement plus
  | "case" | "default" => caseStatement plus
  | "return" => simple "return_statement" word (perhaps (call .initializerList <|> commaExpression))
  | "break" => simple "break_statement" word (pure ())
  | "continue" => simple "continue_statement" word (pure ())
  | "goto" => simple "goto_statement" word <|
      (label "label" (leaf "statement_identifier" CGrammar.word)) <|> expression
  | "__try" =>
    node "seh_try_statement" do
      keyword word
      label "body" (call .block)
      (node "seh_except_clause" do
        keyword "__except"
        node "parenthesized_expression" (parenthesized commaExpression)
        label "body" (call .block)) <|>
        node "seh_finally_clause" do
          keyword "__finally"
          label "body" (call .block)
  | "__leave" => simple "seh_leave_statement" word (pure ())
  | "try" => if plus then tryStatement else fail
  | "throw" => if plus then simple "throw_statement" word (perhaps expression) else fail
  | "co_return" =>
    if plus then
      simple "co_return_statement" word (perhaps (call .initializerList <|> commaExpression))
    else fail
  | "co_yield" =>
    if plus then simple "co_yield_statement" word (call .initializerList <|> expression) else fail
  | _ => fail

/-- A statement that a label can be jumped to. -/
def labeledStatement (plus : Bool) : P Unit :=
  node "labeled_statement" do
    label "label" (lexicon.nameExcept "statement_identifier" (reservedWords plus))
    mark ":"
    perhaps item

/-- A statement. -/
def statementBody (plus : Bool) : P Unit := do
  attributes plus
  let w ← nextWord
  choice [
    call .block,
    keywordStatement plus w,
    labeledStatement plus,
    expressionStatement]

/-! ### Items -/

/-- The next tokens are a type, or anything with a name, and an opening parenthesis. -/
def looksLikeCall (plus : Bool) : P Bool := ahead <| succeeds do
  if plus then basicType <|> typeName true else typeName false
  ensure ((← nextMark) = "(")

/-- An item that starts with no word of its own. -/
def plainItem (plus : Bool) : P Unit := do
  if ← looksLikeCall plus then choice [
    expressionStatement,
    definitionOrDeclaration plus,
    if plus then constructor else fail]
  else choice [
    labeledStatement plus,
    definitionOrDeclaration plus,
    lonelyType plus,
    if plus then conversion <|> constructor else fail,
    do
      attributes plus
      expressionStatement,
    do
      attributes plus
      statement]

/-- An item of a file or block. -/
def itemBody (plus : Bool) : P Unit := do
  if (← nextMark) = "#" then directive item
  else if (← nextMark) = "\x7b" then call .block
  else
    let w ← nextWord
    match w with
    | "typedef" | "__extension__" => typeDefinition plus <|> plainItem plus
    | "extern" => linkage plus <|> plainTemplate <|> plainItem plus
    | "inline" | "namespace" =>
      if plus then namespaceDefinition <|> plainItem plus else plainItem plus
    | "using" => if plus then usingDeclaration else plainItem plus
    | "template" => if plus then template else plainItem plus
    | "static_assert" => if plus then staticAssertion else plainItem plus
    | "concept" => if plus then conceptDefinition else plainItem plus
    | "asm" => expressionStatement
    | _ => keywordStatement plus w <|> plainItem plus
where
  /-- A template whose instance is made elsewhere. -/
  plainTemplate : P Unit := do
    ensure plus
    node "template_instantiation" do
      keyword "extern"
      keyword "template"
      choice [lonelyType true, definitionOrDeclaration true]

/-- A block. -/
def blockBody : P Unit :=
  node "compound_statement" do
    mark "\x7b"
    many item
    mark "\x7d"

/-! ### Files -/

/-- The body of each rule. -/
def body (plus : Bool) : Rule → P Unit
  | .expression => remembered .expression (expressionBody plus)
  | .binary level angled => binaryBody plus level angled
  | .operand => remembered .operand (operandBody plus)
  | .primary => remembered .primary (primaryBody plus)
  | .initializerList => remembered .initializerList (initializerListBody plus)
  | .templateArguments => remembered .templateArguments templateArgumentsBody
  | .descriptor => remembered .descriptor (descriptorBody plus)
  | .declarator naming => remembered (.declarator naming) (declaratorBody plus naming)
  | .abstractDeclarator => remembered .abstractDeclarator (abstractDeclaratorBody plus)
  | .parameters => remembered .parameters (parametersBody plus)
  | .memberList => remembered .memberList memberListBody
  | .block => remembered .block blockBody
  | .statement => statementBody plus
  | .item => itemBody plus
  | .member => memberBody plus (directive (call .member))
  | .conditionToken => conditionTokenBody

/-- A whole file.  What no rule fits is passed over character by character. -/
def program : P Unit := do
  many <| item <|> node "ERROR" (scan fun s i => if i < s.size then some (i + 1) else none)
  extras

/-- The syntax tree of a file. -/
def parse (plus : Bool) (source : Source) : Node :=
  match run source extra (body plus) program with
  | some (nodes, _) => nodeOver source "translation_unit" 0 source.size nodes
  | none => nodeOver source "translation_unit" 0 source.size []

end CGrammar

end CodeSurvey
