import CodeSurvey.Parsing.Script.Expression

/-!
# Scripts: statements and declarations

A word decides which statement begins.  Where the word may also be a name, as `type` may, the
statement that the word announces comes first and the expression that begins with the name second.
-/

namespace CodeSurvey

namespace ScriptGrammar

open Parse

/-! ### Members of classes -/

/-- A method of a class, with its body or without. -/
def classMethod : P Unit := do
  extras
  let method ← single <| nodeOfKind do
    optionalAccessibility
    let isAbstract ← succeeds (modifier (keyword "abstract"))
    if isAbstract then optionalOverride
    else
      optionalModifier "static"
      optionalOverride
      optionalModifier "readonly"
      optionalModifier "async"
    methodPrefix
    label "name" propertyName
    perhaps (mark "?")
    callSignature .ending
    if isAbstract then return "abstract_method_signature"
    else if (← nextChar) = '\x7b' then
      label "body" (call .block)
      return "method_definition"
    else return "method_signature"
  leave method
  if method.kind != "method_definition" then mark "," <|> semicolon false

/-- What a field is, in front of its name. -/
def fieldModifiers : P Unit := do
  let isAccessor ← succeeds (modifier (keyword "accessor"))
  if !isAccessor then
    let start ← position
    optionalModifier "static"
    optionalOverride
    if start = (← position) then
      optionalModifier "abstract"
      optionalModifier "readonly"
      optionalModifier "abstract"
    else optionalModifier "readonly"

/-- A field of a class. -/
def classField : P Unit := do
  extras
  let start ← position
  let (initialized, nodes) ← gathered do
    optionalModifier "declare"
    optionalAccessibility
    optionalModifier "declare"
    fieldModifiers
    label "name" propertyName
    perhaps (mark "?" <|> mark "!")
    perhaps (label "type" (colonType .ending))
    succeeds (initializer .ending)
  finish "public_field_definition" start nodes
  mark "," <|> semicolon initialized

/-- A member of a class. -/
def classMember : P Unit :=
  symbol ";" <|> do
  many (label "decorator" decorator)
  choice [
    node "class_static_block" do
      keyword "static"
      label "body" (call .block),
    do
      indexSignature .ending
      mark "," <|> semicolon false,
    classMethod,
    classField]

/-- The body of a class. -/
def classBodyBody : P Unit :=
  node "class_body" do
    symbol "\x7b"
    many classMember
    symbol "\x7d"

/-! ### Lists of statements -/

/-- A comment in the manner of markup, which only stands where a statement may begin. -/
def markupComment (s : Source) (i : Nat) : Option Nat :=
  if s.startsWith i "<!--".toList || s.startsWith i "-->".toList then
    some (s.skipWhile (fun c => !isLineEnd c) i)
  else none

/-- Statements, as many as there are. -/
def statements : P Unit :=
  many (leaf "html_comment" markupComment <|> call .statement)

/-- A block. -/
def blockBody : P Unit :=
  node "statement_block" do
    symbol "\x7b"
    statements
    symbol "\x7d"
    perhaps (automaticSemicolon true)

/-! ### Declarations -/

/-- A function with its name; without a body it is a signature. -/
def functionDeclaration : P Unit :=
  nodeOfKind do
    perhaps (keyword "async")
    keyword "function"
    let generator ← succeeds (symbol "*")
    label "name" (anyName "identifier")
    callSignature .ending
    if (← nextChar) = '\x7b' then
      label "body" (call .block)
      perhaps (automaticSemicolon true)
      return if generator then "generator_function_declaration" else "function_declaration"
    else
      ensure !generator
      semicolon false
      return "function_signature"

/-- A class with its name. -/
def classDeclaration : P Unit :=
  nodeOfKind do
    many (label "decorator" decorator)
    let isAbstract ← succeeds (keyword "abstract")
    classTail true
    if isAbstract then return "abstract_class_declaration"
    else
      perhaps (automaticSemicolon true)
      return "class_declaration"

/-- One declared variable; the value tells whether an operator could follow. -/
def variableDeclarator : P Bool := do
  extras
  let start ← position
  let (canContinue, nodes) ← gathered do
    label "name" (destructuring <|> anyName "identifier")
    let definite ← succeeds do
      mark "!"
      label "type" (colonType .ending)
    if definite then return false
    perhaps (label "type" (colonType .ending))
    succeeds (initializer .ending)
  finish "variable_declarator" start nodes
  return canContinue

/-- Declared variables after their keyword, with the end of the statement. -/
def variableDeclarators : P Unit := do
  let first ← variableDeclarator
  let last ← iterate (fun _ => do
    mark ","
    variableDeclarator) first
  semicolon last

/-- A declaration of variables. -/
def variableDeclaration : P Unit := do
  if (← nextWord) = "var" then
    node "variable_declaration" do
      keyword "var"
      variableDeclarators
  else
    node "lexical_declaration" do
      label "kind" (keywords ["let", "const"])
      variableDeclarators

/-- A name with its qualifiers. -/
def qualifiedName : P Unit := qualified "identifier" "nested_identifier"

/-- A named group of declarations, after its keyword. -/
def moduleTail : P Unit := do
  label "name" (stringLiteral <|> qualifiedName)
  perhaps (label "body" (call .block))

/-- The members of an enumeration. -/
def enumBody : P Unit :=
  node "enum_body" (listed "\x7b" (do
    label "name" propertyName
    perhaps (initializer .inner)) "\x7d")

/-- An interface. -/
def interfaceDeclaration : P Unit :=
  node "interface_declaration" do
    keyword "interface"
    label "name" (anyName "type_identifier")
    perhaps (label "type_parameters" typeParameters)
    perhaps <| node "extends_type_clause" do
      keyword "extends"
      separated (label "type" typeName) (mark ",")
    label "body" (call .objectType)

/-- A name for another name. -/
def importAlias : P Unit :=
  node "import_alias" do
    keyword "import"
    anyName "identifier"
    mark "="
    qualifiedName
    semicolon false

/-- A declaration. -/
def declaration : P Unit := do
  match ← nextWord with
  | "function" | "async" => functionDeclaration
  | "class" => classDeclaration
  | "abstract" => classDeclaration
  | "" => do
    ensure ((← nextChar) = '@')
    classDeclaration
  | "const" =>
    (node "enum_declaration" do
      keyword "const"
      keyword "enum"
      label "name" (anyName "identifier")
      label "body" enumBody) <|> variableDeclaration
  | "var" | "let" => variableDeclaration
  | "enum" => node "enum_declaration" do
      keyword "enum"
      label "name" (anyName "identifier")
      label "body" enumBody
  | "interface" => interfaceDeclaration
  | "type" => node "type_alias_declaration" do
      keyword "type"
      label "name" (anyName "type_identifier")
      perhaps (label "type_parameters" typeParameters)
      mark "="
      label "value" (call (.type .ending))
      semicolon false
  | "module" => node "module" do
      keyword "module"
      moduleTail
  | "namespace" => node "internal_module" do
      keyword "namespace"
      moduleTail
  | "import" => importAlias
  | "declare" => node "ambient_declaration" do
      keyword "declare"
      choice [
        do
          keyword "global"
          call .block,
        do
          ensure ((← nextWord) != "declare")
          ambient,
        do
          keyword "module"
          mark "."
          anyName "property_identifier"
          mark ":"
          call (.type .ending)
          semicolon false]
  | _ => fail
where
  /-- A declaration of something defined elsewhere. -/
  ambient : P Unit := call .declaration

/-! ### Imports and exports -/

/-- The name of something a module exports. -/
def exportedName : P Unit := anyName "identifier" <|> stringLiteral

/-- Where an import or export comes from. -/
def fromClause : P Unit := do
  keyword "from"
  label "source" stringLiteral

/-- One imported name. -/
def importSpecifier : P Unit :=
  node "import_specifier" <| choice [
    do
      keywords ["type", "typeof"]
      specifier,
    specifier]
where
  /-- A name, perhaps under another one, with a comma or the end of the list after it. -/
  specifier : P Unit := do
    label "name" exportedName
    perhaps do
      keyword "as"
      label "alias" (anyName "identifier")
    ensure ((← nextMark) ∈ [",", "\x7d"])

/-- The names of an import. -/
def importClause : P Unit :=
  node "import_clause" <| choice [
    group,
    do
      anyName "identifier"
      perhaps do
        mark ","
        group]
where
  /-- All names under one, or a list of names. -/
  group : P Unit :=
    (node "namespace_import" do
      mark "*"
      keyword "as"
      anyName "identifier") <|>
    node "named_imports" (listed "\x7b" importSpecifier "\x7d")

/-- What an import demands of its source. -/
def importAttribute : P Unit :=
  node "import_attribute" do
    keyword "with" <|> keyword "assert"
    objectLiteral

/-- An import. -/
def importStatement : P Unit :=
  node "import_statement" do
    keyword "import"
    choice [
      label "source" stringLiteral,
      body,
      do
        keywords ["type", "typeof"]
        body]
    perhaps importAttribute
    semicolon false
where
  /-- What is imported, and from where. -/
  body : P Unit :=
    (do
      importClause
      fromClause) <|>
    node "import_require_clause" do
      anyName "identifier"
      mark "="
      keyword "require"
      symbol "("
      label "source" stringLiteral
      symbol ")"

/-- One exported name. -/
def exportSpecifier : P Unit :=
  node "export_specifier" <| choice [
    do
      keywords ["type", "typeof"]
      specifier,
    specifier]
where
  /-- A name, perhaps under another one, with a comma or the end of the list after it. -/
  specifier : P Unit := do
    label "name" exportedName
    perhaps do
      keyword "as"
      label "alias" exportedName
    ensure ((← nextMark) ∈ [",", "\x7d"])

/-- An export. -/
def exportStatement : P Unit :=
  node "export_statement" do
    many (label "decorator" decorator)
    keyword "export"
    choice [
      do
        mark "*"
        perhaps do
          keyword "as"
          exportedName
        fromClause
        perhaps importAttribute
        semicolon false,
      do
        exportClause
        perhaps do
          fromClause
          perhaps importAttribute
        semicolon false,
      do
        keyword "type"
        exportClause
        perhaps fromClause
        semicolon false,
      do
        keyword "default"
        label "declaration" (call .declaration) <|> do
          label "value" (call (.expression .ending))
          semicolon true,
      do
        mark "="
        call (.expression .ending)
        semicolon true,
      do
        keyword "as"
        keyword "namespace"
        anyName "identifier"
        semicolon false,
      label "declaration" (call .declaration)]
where
  /-- A list of exported names. -/
  exportClause : P Unit := node "export_clause" (listed "\x7b" exportSpecifier "\x7d")

/-! ### Statements -/

/-- An expression that makes a statement. -/
def expressionStatement : P Unit :=
  node "expression_statement" do
    expressions .ending
    semicolon true

/-- The head of a loop over the members or keys of something. -/
def loopHead : P Unit := do
  symbol "("
  choice [
    do
      label "kind" (keyword "var")
      label "left" (destructuring <|> anyName "identifier")
      perhaps (initializer .inner)
      operator,
    do
      label "kind" (keywords ["let", "const"])
      label "left" (destructuring <|> anyName "identifier")
      operator,
    do
      label "left" (call .pattern <|> parenthesized)
      operator]
  label "right" (expressions .inner)
  symbol ")"
where
  /-- Members or keys. -/
  operator : P Unit := label "operator" (keywords ["in", "of"])

/-- A loop. -/
def forStatement : P Unit :=
  (node "for_in_statement" do
    keyword "for"
    perhaps (keyword "await")
    loopHead
    label "body" (call .statement)) <|>
  node "for_statement" do
    keyword "for"
    symbol "("
    label "initializer" <| choice [
      node "empty_statement" (symbol ";"),
      variableDeclaration,
      do
        expressions .inner
        symbol ";"]
    label "condition" <| node "empty_statement" (symbol ";") <|> do
      expressions .inner
      symbol ";"
    perhaps (label "increment" (expressions .inner))
    symbol ")"
    label "body" (call .statement)

/-- The cases of a switch. -/
def switchBody : P Unit :=
  node "switch_body" do
    symbol "\x7b"
    many <| (node "switch_case" do
      keyword "case"
      label "value" (expressions .inner)
      symbol ":"
      caseStatements) <|>
    node "switch_default" do
      keyword "default"
      symbol ":"
      caseStatements
    symbol "\x7d"
where
  /-- The statements of a case, up to the next case. -/
  caseStatements : P Unit := many do
    ensure ((← nextWord) ∉ ["case", "default"])
    call .statement

/-- A block whose errors are caught. -/
def tryStatement : P Unit :=
  node "try_statement" do
    keyword "try"
    label "body" (call .block)
    perhaps <| label "handler" <| node "catch_clause" do
      keyword "catch"
      perhaps do
        symbol "("
        label "parameter" (destructuring <|> anyName "identifier")
        perhaps (label "type" (colonType .inner))
        symbol ")"
      label "body" (call .block)
    perhaps <| label "finalizer" <| node "finally_clause" do
      keyword "finally"
      label "body" (call .block)

/-- A jump, perhaps to a label. -/
def jumpStatement (kind word : String) : P Unit :=
  node kind do
    keyword word
    perhaps do
      ensure !(← lineBreakAhead)
      label "label" (anyName "statement_identifier")
    semicolon false

/-- A statement with a label. -/
def labeledStatement : P Unit :=
  node "labeled_statement" do
    ensure ((← nextWord) ∉ expressionKeywords)
    label "label" (anyName "statement_identifier")
    mark ":"
    label "body" (call .statement)

/-- A condition or subject between parentheses and the statement it governs. -/
def governed (subject : String) : P Unit := do
  label subject parenthesized
  label "body" (call .statement)

/-- A statement. -/
def statementBody : P Unit := do
  let w ← nextWord
  match w with
  | "" =>
    match ← nextChar with
    | '\x7b' => call .block <|> expressionStatement
    | ';' => node "empty_statement" (symbol ";")
    | '@' => choice [exportStatement, classDeclaration, expressionStatement]
    | _ => expressionStatement
  | "export" => exportStatement
  | "import" => choice [importStatement, importAlias, expressionStatement]
  | "var" | "const" | "enum" | "interface" => declaration
  | "if" => node "if_statement" do
      keyword w
      label "condition" parenthesized
      label "consequence" (call .statement)
      perhaps <| label "alternative" <| node "else_clause" do
        keyword "else"
        call .statement
  | "switch" => node "switch_statement" do
      keyword w
      label "value" parenthesized
      label "body" switchBody
  | "for" => forStatement
  | "while" => node "while_statement" do
      keyword w
      governed "condition"
  | "do" => node "do_statement" do
      keyword w
      label "body" (call .statement)
      keyword "while"
      label "condition" parenthesized
      perhaps (semicolon true)
  | "try" => tryStatement
  | "with" => node "with_statement" do
      keyword w
      governed "object"
  | "break" => jumpStatement "break_statement" w
  | "continue" => jumpStatement "continue_statement" w
  | "debugger" => node "debugger_statement" do
      keyword w
      semicolon false
  | "return" => node "return_statement" do
      keyword w
      (do
        ensure !(← lineBreakAhead)
        expressions .ending
        semicolon true) <|> semicolon false
  | "throw" => node "throw_statement" do
      keyword w
      expressions .ending
      semicolon true
  | "function" | "class" => declaration <|> expressionStatement
  | _ =>
    choice [
      if w ∈ ["async", "abstract", "let", "type", "module", "namespace", "declare"] then declaration
      else fail,
      labeledStatement,
      expressionStatement]

end ScriptGrammar

end CodeSurvey
