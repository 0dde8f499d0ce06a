import CodeSurvey.Parsing.Java.Expression

/-!
# Java: statements and declarations

The modifiers in front of a declaration belong to it, so that a method spans the lines of its
annotations.  A statement that could be a declaration is one.
-/

namespace CodeSurvey

namespace JavaGrammar

open Parse

/-! ### Variables -/

/-- Names with their initial values. -/
def declarators : P Unit :=
  separated (label "declarator" <| node "variable_declarator" do
    label "name" identifier
    perhaps (label "dimensions" dimensions)
    perhaps do
      mark "="
      label "value" (call .elementValue)) (mark ",")

/-- Variables, behind their modifiers. -/
def variableList (kind : String) : P String := do
  label "type" plainType
  declarators
  mark ";"
  return kind

/-! ### Modifiers -/

/-- What stands in front of a declaration. -/
def modifiers : P Unit :=
  node "modifiers" <| atLeastOne <| choice [
    note,
    lexicon.keywords ["public", "protected", "private", "abstract", "static", "final", "strictfp",
      "default", "synchronized", "native", "transient", "volatile", "sealed"],
    leaf "non-sealed" (exact "non-sealed") false]

/-! ### Types and their members -/

/-- Types behind a keyword. -/
def typeList (kind word : String) : P Unit :=
  node kind do
    keyword word
    node "type_list" (separated type (mark ","))

/-- What a type is declared to be. -/
def headings : P Unit := do
  perhaps (label "type_parameters" typeParameters)
  perhaps (label "parameters" parameters)
  many <| choice [
    label "interfaces" (typeList "super_interfaces" "implements"),
    label "permits" (typeList "permits" "permits")]

/-- The body of a type. -/
def typeBlock (kind : String) (member : P Unit) : P Unit :=
  label "body" <| node kind do
    mark "\x7b"
    many ((mark ";") <|> member)
    mark "\x7d"

/-- A class, behind its modifiers. -/
def classRest : P String := do
  keyword "class"
  label "name" identifier
  perhaps (label "type_parameters" typeParameters)
  perhaps <| label "superclass" <| node "superclass" do
    keyword "extends"
    type
  headings
  typeBlock "class_body" (call .declaration)
  return "class_declaration"

/-- A record, behind its modifiers. -/
def recordRest : P String := do
  keyword "record"
  label "name" identifier
  headings
  typeBlock "class_body" (call .declaration)
  return "record_declaration"

/-- An interface, behind its modifiers. -/
def interfaceRest : P String := do
  keyword "interface"
  label "name" identifier
  perhaps (label "type_parameters" typeParameters)
  perhaps (typeList "extends_interfaces" "extends")
  headings
  typeBlock "interface_body" (call .declaration)
  return "interface_declaration"

/-- The declaration of an annotation, behind its modifiers. -/
def annotationTypeRest : P String := do
  symbol "@interface"
  label "name" identifier
  typeBlock "annotation_type_body" (call .annotationMember)
  return "annotation_type_declaration"

/-- An enumeration, behind its modifiers. -/
def enumRest : P String := do
  keyword "enum"
  label "name" identifier
  headings
  label "body" <| node "enum_body" do
    mark "\x7b"
    commaListWithEnd <| node "enum_constant" do
      perhaps modifiers
      label "name" identifier
      perhaps arguments
      perhaps (call .classBody)
    perhaps <| node "enum_body_declarations" do
      mark ";"
      many ((mark ";") <|> call .declaration)
    mark "\x7d"
  return "enum_declaration"

/-- The errors that a method can raise. -/
def throws : P Unit :=
  node "throws" do
    keyword "throws"
    separated type (mark ",")

/-- A method, behind its modifiers. -/
def methodRest : P String := do
  perhaps do
    label "type_parameters" typeParameters
    many note
  label "type" plainType
  label "name" identifier
  label "parameters" parameters
  perhaps (label "dimensions" dimensions)
  perhaps throws
  (label "body" block) <|> mark ";"
  return "method_declaration"

/-- A member of an annotation, perhaps with the value that it has by default, behind its
modifiers. -/
def annotationMemberRest : P String := do
  label "type" plainType
  label "name" identifier
  mark "("
  mark ")"
  perhaps (label "dimensions" dimensions)
  perhaps do
    keyword "default"
    label "value" (call .elementValue)
  mark ";"
  return "annotation_type_element_declaration"

/-- A constructor, behind its modifiers. -/
def constructorRest : P String := do
  perhaps (label "type_parameters" typeParameters)
  label "name" identifier
  (do
    label "parameters" parameters
    perhaps throws
    label "body" block
    return "constructor_declaration") <|> do
    label "body" block
    return "compact_constructor_declaration"

/-- A declaration of a type, behind its modifiers. -/
def typeRest : P String :=
  choice [classRest, interfaceRest, enumRest, recordRest, annotationTypeRest]

/-- A member of a type. -/
def declarationBody : P Unit := choice [
  node "static_initializer" do
    keyword "static"
    block,
  block,
  nodeOfKind do
    perhaps modifiers
    choice [typeRest, methodRest, constructorRest, variableList "field_declaration"]]

/-- A member of the declaration of an annotation. -/
def annotationMemberBody : P Unit := nodeOfKind do
  perhaps modifiers
  choice [typeRest, annotationMemberRest, variableList "constant_declaration"]

/-! ### Statements -/

/-- A condition between parentheses. -/
def condition : P Unit :=
  label "condition" <| node "parenthesized_expression" do
    mark "("
    expression
    mark ")"

/-- A statement. -/
def statement : P Unit := call .statement

/-- A choice between two statements. -/
def ifStatement : P Unit :=
  node "if_statement" do
    keyword "if"
    condition
    label "consequence" statement
    perhaps do
      keyword "else"
      label "alternative" statement

/-- A loop with a counter, or over the values of a collection. -/
def forStatement : P Unit := nodeOfKind do
  keyword "for"
  mark "("
  (do
    perhaps modifiers
    label "type" plainType
    label "name" identifier
    perhaps (label "dimensions" dimensions)
    mark ":"
    label "value" expression
    mark ")"
    label "body" statement
    return "enhanced_for_statement") <|> do
    (label "init" localVariables) <|> do
      commaList (label "init" expression)
      mark ";"
    perhaps (label "condition" expression)
    mark ";"
    commaList (label "update" expression)
    mark ")"
    label "body" statement
    return "for_statement"
where
  /-- Variables of a block. -/
  localVariables : P Unit := nodeOfKind do
    perhaps modifiers
    variableList "local_variable_declaration"

/-- A block whose errors are handled. -/
def tryStatement : P Unit := nodeOfKind do
  keyword "try"
  let resources ← succeeds (label "resources" (node "resource_specification" resourceList))
  label "body" block
  many <| node "catch_clause" do
    keyword "catch"
    mark "("
    node "catch_formal_parameter" do
      perhaps modifiers
      node "catch_type" (separated plainType (mark "|"))
      label "name" identifier
    mark ")"
    label "body" block
  perhaps <| node "finally_clause" do
    keyword "finally"
    block
  return if resources then "try_with_resources_statement" else "try_statement"
where
  /-- What is closed in the end. -/
  resourceList : P Unit := do
    mark "("
    separated (node "resource" resource) (mark ";")
    perhaps (mark ";")
    mark ")"
  /-- One thing that is closed in the end. -/
  resource : P Unit := (do
    perhaps modifiers
    label "type" plainType
    label "name" identifier
    perhaps (label "dimensions" dimensions)
    mark "="
    label "value" expression) <|> call .primary

/-- The call of another constructor. -/
def constructorCall : P Unit :=
  node "explicit_constructor_invocation" do
    (do
      perhaps (label "type_arguments" typeArguments)
      label "constructor" <|
        lexicon.keywordNode "this" "this" <|> lexicon.keywordNode "super" "super") <|> do
      label "object" name
      mark "."
      perhaps (label "type_arguments" typeArguments)
      label "constructor" (lexicon.keywordNode "super" "super")
    arguments
    mark ";"

/-- A package, import or module. -/
def clause : P Unit := choice [
  node "package_declaration" do
    many note
    keyword "package"
    name
    mark ";",
  node "import_declaration" do
    keyword "import"
    perhaps (keyword "static")
    name
    perhaps do
      mark "."
      node "asterisk" (mark "*")
    mark ";",
  node "module_declaration" do
    many note
    perhaps (keyword "open")
    keyword "module"
    label "name" name
    label "body" <| node "module_body" do
      mark "\x7b"
      many <| node "module_directive" do
        atLeastOne (name <|> mark "," <|> keyword "transitive" <|> keyword "static")
        mark ";"
      mark "\x7d"]

/-- Variables or a type of a block. -/
def localDeclaration : P Unit := nodeOfKind do
  perhaps modifiers
  typeRest <|> variableList "local_variable_declaration"

/-- A method outside all types. -/
def looseMethod : P Unit := nodeOfKind do
  perhaps modifiers
  methodRest

/-- A statement. -/
def statementBody : P Unit := do
  match ← nextWord with
  | "if" => ifStatement
  | "while" =>
    node "while_statement" do
      keyword "while"
      condition
      label "body" statement
  | "for" => forStatement
  | "do" =>
    node "do_statement" do
      keyword "do"
      label "body" statement
      keyword "while"
      condition
      mark ";"
  | "try" => tryStatement
  | "switch" => (do
      switch
      ensure ((← nextMark) != ".")) <|> expressionStatement
  | "synchronized" =>
    node "synchronized_statement" do
      keyword "synchronized"
      node "parenthesized_expression" do
        mark "("
        expression
        mark ")"
      label "body" block
  | "return" => simple "return_statement" (perhaps expression)
  | "throw" => simple "throw_statement" expression
  | "break" => simple "break_statement" (perhaps identifier)
  | "continue" => simple "continue_statement" (perhaps identifier)
  | "yield" => simple "yield_statement" expression <|> expressionStatement
  | "assert" => simple "assert_statement" do
      expression
      perhaps do
        mark ":"
        expression
  | _ => choice [
      block,
      mark ";",
      clause,
      node "labeled_statement" do
        identifier
        mark ":"
        statement,
      localDeclaration,
      constructorCall,
      expressionStatement,
      looseMethod]
where
  /-- A statement of a keyword, what it governs, and a semicolon. -/
  simple (kind : String) (p : P Unit) : P Unit :=
    node kind do
      keyword (← nextWord)
      p
      mark ";"
  /-- An expression with a semicolon behind it. -/
  expressionStatement : P Unit :=
    node "expression_statement" do
      expression
      mark ";"

/-- A block. -/
def blockBody : P Unit :=
  node "block" do
    mark "\x7b"
    many statement
    mark "\x7d"

/-! ### Files -/

/-- The body of each rule. -/
def body : Rule → P Unit
  | .expression => remembered .expression expressionBody
  | .binary level => binaryBody level
  | .operand => remembered .operand operandBody
  | .primary => remembered .primary primaryBody
  | .type => typeBody
  | .note => annotationBody
  | .elementValue => elementValueBody
  | .block => remembered .block blockBody
  | .statement => statementBody
  | .declaration => declarationBody
  | .annotationMember => annotationMemberBody
  | .classBody => typeBlock "class_body" (call .declaration)

/-- A whole file.  What no rule fits is passed over word by word. -/
def program : P Unit := do
  many <| statement <|> node "ERROR" (scan fun s i => if i < s.size then some (i + 1) else none)
  extras

/-- The syntax tree of a file. -/
def parse (source : Source) : Node :=
  match run source extra body program with
  | some (nodes, _) => nodeOver source "program" 0 source.size nodes
  | none => nodeOver source "program" 0 source.size []

end JavaGrammar

end CodeSurvey
