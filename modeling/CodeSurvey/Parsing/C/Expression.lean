import CodeSurvey.Parsing.C.Type

/-!
# C and C++: expressions

Operands with the calls, members and indices behind them, and the operators between operands.
A name with angle brackets behind it is a template with its arguments unless another operand
follows the closing bracket.
-/

namespace CodeSurvey

namespace CGrammar

open Parse

/-! ### Lists -/

/-- Expressions with commas between them, as one expression. -/
def commaExpression : P Unit := do
  extras
  let start ← position
  let nodes ← collected (separated expression (mark ","))
  match nodes with
  | [n] => leave n
  | nodes => finish "comma_expression" start nodes

/-- The values of an array or structure. -/
def initializerListBody (plus : Bool) : P Unit :=
  node "initializer_list" do
    mark "\x7b"
    commaListWithEnd (choice [pair, value])
    mark "\x7d"
where
  /-- A value. -/
  value : P Unit := call .initializerList <|> do
    expression
    if plus then perhaps (mark "...")
  /-- A value with the place that it is for. -/
  pair : P Unit :=
    node "initializer_pair" do
      (do
        atLeastOne <| label "designator" <| choice [
          node "field_designator" do
            mark "."
            leaf "field_identifier" word,
          node "subscript_designator" do
            mark "["
            expression
            perhaps do
              mark "..."
              expression
            mark "]"]
        perhaps (mark "=")) <|> do
        label "designator" (fieldIdentifier plus)
        mark ":"
      label "value" value

/-! ### Templates -/

/-- The arguments of a template. -/
def templateArgumentsBody : P Unit :=
  node "template_argument_list" do
    mark "<"
    commaList <| choice [
      do
        call .descriptor
        perhaps (mark "...")
        ensure ((← nextMark) ∈ [",", ">", ">>", ">>=", ">="]),
      do
        call (.binary 0 true)
        perhaps (mark "...")]
    symbol ">"

/-- The arguments of a template behind a name in an expression, where no operand follows them. -/
def argumentsOfName : P Unit := do
  templateArguments
  let c ← nextChar
  ensure (!(Lexeme.isWordChar c || c = '"' || c = '\''))

/-- A name with what leads to it. -/
def scopedName : P Unit := do
  qualified <| choice [
    node "template_function" do
      label "name" (identifier true)
      argumentsOfName,
    destructorName,
    operatorName,
    identifier true]

/-! ### Lambdas -/

/-- What a lambda takes from its surroundings. -/
def captures : P Unit :=
  node "lambda_capture_specifier" do
    mark "["
    commaList <| choice [
      node "lambda_capture_initializer" do
        perhaps (mark "&")
        perhaps (mark "...")
        label "left" (identifier true)
        mark "="
        label "right" expression,
      do
        perhaps (mark "&" <|> mark "*")
        lexicon.keywordNode "this" "this" <|> qualified (identifier true)
        perhaps (mark "..."),
      node "lambda_default_capture" (mark "=" <|> mark "&")]
    mark "]"

/-- A function without a name. -/
def lambda : P Unit :=
  node "lambda_expression" do
    label "captures" captures
    perhaps do
      label "template_parameters" templateParameters
      perhaps (label "constraint" requiresClause)
    attributes true
    perhaps <| label "declarator" <| node "abstract_function_declarator" do
      label "parameters" (call .parameters)
      many specifier
    many specifier
    label "body" (call .block)
where
  /-- What may follow the parameters. -/
  specifier : P Unit :=
    functionSuffix true <|> node "lambda_specifier" (keywords ["static"])

/-! ### Operands -/

/-- What a template requires, as an expression. -/
def requiresExpression : P Unit :=
  node "requires_expression" do
    keyword "requires"
    perhaps (label "parameters" (call .parameters))
    label "requirements" <| node "requirement_seq" do
      mark "\x7b"
      many <| choice [
        mark ";",
        node "compound_requirement" do
          mark "\x7b"
          expression
          mark "\x7d"
          perhaps (keyword "noexcept")
          perhaps <| node "trailing_return_type" do
            mark "->"
            call .descriptor
          mark ";",
        node "type_requirement" do
          keyword "typename"
          typeName true
          mark ";",
        node "simple_requirement" do
          requiresClause <|> commaExpression
          mark ";"]
      mark "\x7d"

/-- A choice by the type of a value. -/
def genericExpression : P Unit :=
  node "generic_expression" do
    keyword "_Generic"
    parenthesized do
      expression
      many do
        mark ","
        keyword "default" <|> call .descriptor
        mark ":"
        expression

/-- Instructions of the machine. -/
def assemblerExpression (plus : Bool) : P Unit :=
  node "gnu_asm_expression" do
    keywords ["asm", "__asm__", "__asm"]
    many (keywords ["volatile", "__volatile__", "inline", "goto"])
    parenthesized <| many <| choice [
      stringLiteral plus,
      mark ",",
      mark ":",
      mark "::",
      do
        mark "["
        identifier plus
        mark "]",
      parenthesized expression,
      identifier plus]

/-- The distance of a member from the start of its structure. -/
def offsetExpression : P Unit :=
  node "offsetof_expression" do
    keyword "offsetof"
    parenthesized do
      label "type" (call .descriptor)
      mark ","
      label "member" (leaf "field_identifier" word)

/-- Strings in a row, with names between them. -/
def strings (plus : Bool) : P Unit := do
  extras
  let start ← position
  let nodes ← collected do
    stringLiteral plus <|> do
      identifier plus
      stringLiteral plus
    many (stringLiteral plus <|> identifier plus)
  match nodes with
  | [n] => leave n
  | nodes => finish "concatenated_string" start nodes

/-- What stands between parentheses. -/
def parenthesizedExpression (plus : Bool) : P Unit :=
  (node "parenthesized_expression" <| parenthesized (call .block <|> commaExpression)) <|>
  node "fold_expression" do
    ensure plus
    parenthesized <| (do
      mark "..."
      operator
      call .operand) <|> do
      call .operand
      operator
      mark "..."
      perhaps do
        operator
        call .operand
where
  /-- An operator between the values of a pack. -/
  operator : P Unit := do
    let m ← nextMark
    ensure (m ∉ ["", "(", ")", "[", "]", "...", ";"])
    mark m

/-- A value of a type, given by its parts. -/
def constructed : P Unit :=
  (node "compound_literal_expression" do
    label "type" (basicType <|> typeName true)
    label "value" (call .initializerList)) <|>
  node "call_expression" do
    label "function" <| basicType <|> node "dependent_type" do
      keyword "typename"
      typeName true
    label "arguments" (argumentList true <|> call .initializerList)

/-- Something simple: a literal, a name, or an expression in parentheses. -/
def atom (plus : Bool) : P Unit := choice [
  strings plus,
  leaf "char_literal" (quoted '\''),
  leaf "number_literal" Lexeme.number,
  lexicon.keywordNode "true" "true",
  lexicon.keywordNode "false" "false",
  node "null" (keywords ["NULL", "nullptr"]),
  parenthesizedExpression plus,
  genericExpression,
  offsetExpression,
  assemblerExpression plus,
  if plus then choice [
    lexicon.keywordNode "this" "this",
    lambda,
    requiresExpression,
    constructed,
    scopedName]
  else identifier false]

/-- The member behind a dot or arrow. -/
def memberName (plus : Bool) : P Unit :=
  if plus then do
    perhaps (keyword "template")
    choice [
      destructorName,
      operatorName,
      node "qualified_identifier" do
        label "scope" <| templateType <|>
          lexicon.nameExcept "namespace_identifier" (reservedWords true)
        mark "::"
        label "name" (qualified (destructorName <|> fieldIdentifier true)),
      node "template_method" do
        label "name" (fieldIdentifier true)
        argumentsOfName,
      fieldIdentifier true]
  else leaf "field_identifier" word

/-- One more call, member, index or step. -/
def link (plus : Bool) (start : Nat) (left : Node) : P Node := do
  match ← nextMark with
  | "(" =>
    extend "call_expression" start (inField "function" left)
      (label "arguments" (argumentList plus))
  | "[" =>
    extend "subscript_expression" start (inField "argument" left) do
      label "indices" <| node "subscript_argument_list" do
        mark "["
        commaList (call .initializerList <|> expression)
        mark "]"
  | "." =>
    extend "field_expression" start (inField "argument" left) do
      label "operator" (mark ".")
      label "field" (memberName plus)
  | "->" =>
    extend "field_expression" start (inField "argument" left) do
      label "operator" (mark "->")
      label "field" (memberName plus)
  | "++" =>
    extend "update_expression" start (inField "argument" left) (label "operator" (mark "++"))
  | "--" =>
    extend "update_expression" start (inField "argument" left) (label "operator" (mark "--"))
  | _ => fail

/-- Something simple with its calls, members and indices. -/
def primaryBody (plus : Bool) : P Unit := do
  extras
  let start ← position
  leave (← iterate (link plus start) (← single (atom plus)))

/-! ### Operators in front of an operand -/

/-- A value with the type it is turned into.  A name in parentheses is a type only if what follows
can be nothing but an operand. -/
def cast : P Unit := nodeOfKind do
  mark "("
  let type ← single (call .descriptor)
  leave { type with field := some "type" }
  mark ")"
  if (← nextMark) = "\x7b" then
    label "value" (call .initializerList)
    return "compound_literal_expression"
  else
    let isName := type.children.length = 1 &&
      type.children.all fun n => n.kind ∈ ["type_identifier", "qualified_identifier"]
    ensure (!isName || (← nextMark) ∈ ["", "!", "~"])
    label "value" (call .operand)
    return "cast_expression"

/-- A new object. -/
def newExpression : P Unit :=
  node "new_expression" do
    perhaps (mark "::")
    keyword "new"
    (do
      label "placement" (argumentList true)
      object) <|> object
where
  /-- The type of the object and the values it begins with. -/
  object : P Unit := do
    label "type" (do
      many (typeQualifier true)
      typeSpecifier true)
    perhaps (label "declarator" (pointers <|> newDeclarator))
    perhaps (label "arguments" (argumentList true <|> call .initializerList))
  /-- The sizes of an array. -/
  newDeclarator : P Unit :=
    node "new_declarator" <| atLeastOne do
      mark "["
      label "length" (perhaps expression)
      mark "]"
  /-- Pointers to something. -/
  pointers : P Unit := do
    atLeastOne (mark "*")
    perhaps newDeclarator

/-- The removal of an object. -/
def deleteExpression : P Unit :=
  node "delete_expression" do
    perhaps (mark "::")
    keyword "delete"
    perhaps do
      mark "["
      mark "]"
    call .operand

/-- The size of a value or type. -/
def sizeExpression : P Unit := nodeOfKind do
  let w ← nextWord
  if w = "sizeof" then
    keyword w
    perhaps (mark "...")
    (label "value" (call .operand)) <|> parenthesized (label "type" (call .descriptor))
    return "sizeof_expression"
  else
    keywords ["_Alignof", "alignof", "__alignof__", "__alignof", "_alignof"]
    parenthesized (call .descriptor <|> expression)
    return "alignof_expression"

/-- An operand with the operators in front of it. -/
def operandBody (plus : Bool) : P Unit := do
  let m ← nextMark
  let w ← nextWord
  if m ∈ ["-", "+", "!", "~"] || (plus && w ∈ ["not", "compl"]) then
    node "unary_expression" do
      label "operator" (keywords ["not", "compl"] <|> mark m)
      label "argument" (call .operand)
  else if m ∈ ["*", "&", "&&"] then
    node "pointer_expression" do
      label "operator" (mark m)
      label "argument" (call .operand)
  else if m ∈ ["++", "--"] then
    node "update_expression" do
      label "operator" (mark m)
      label "argument" (call .operand)
  else choice [
    sizeExpression,
    node "extension_expression" do
      keyword "__extension__"
      call .operand,
    if plus then choice [
      newExpression,
      deleteExpression,
      node "co_await_expression" do
        label "operator" (keyword "co_await")
        label "argument" (call .operand),
      node "throw_expression" do
        keyword "throw"
        perhaps expression,
      node "noexcept" do
        keyword "noexcept"
        parenthesized expression]
    else fail,
    cast,
    call .primary]

/-! ### Operators between operands -/

/-- The level of a binary operator: a higher level binds closer. -/
def operatorLevel? (plus : Bool) (operator : String) : Option Nat :=
  ([("||", 1), ("&&", 2), ("|", 3), ("^", 4), ("&", 5), ("==", 6), ("!=", 6), ("<", 7), (">", 7),
    ("<=", 7), (">=", 7), ("<<", 9), (">>", 9), ("+", 10), ("-", 10), ("*", 11), ("/", 11),
    ("%", 11)] ++
    if plus then
      [("or", 1), ("and", 2), ("bitor", 3), ("xor", 4), ("bitand", 5), ("not_eq", 6), ("<=>", 8),
        (".*", 12), ("->*", 12)]
    else []).lookup operator

/-- One more operator of at least the given level, with its right operand. -/
def operatorLink (plus : Bool) (level : Nat) (angled : Bool) (start : Nat) (left : Node) :
    P Node := do
  let w ← nextWord
  let operator ← if w = "" then nextMark else pure w
  match operatorLevel? plus operator with
  | some own =>
    ensure (level ≤ own && !(angled && operator ∈ [">", ">>", ">="]))
    extend "binary_expression" start (inField "left" left) do
      label "operator" (keyword operator <|> mark operator)
      label "right" (call (.binary (own + 1) angled))
  | none => fail

/-- Operands joined by operators of at least the given level. -/
def binaryBody (plus : Bool) (level : Nat) (angled : Bool) : P Unit := do
  extras
  let start ← position
  leave (← iterate (operatorLink plus level angled start) (← single (call .operand)))

/-- The operators of assignments. -/
def assignmentMarks : List String :=
  ["=", "*=", "/=", "%=", "+=", "-=", "<<=", ">>=", "&=", "^=", "|="]

/-- An expression. -/
def expressionBody (plus : Bool) : P Unit := do
  extras
  let start ← position
  let left ← single (call (.binary 0 false))
  let m ← nextMark
  let w ← nextWord
  if m = "?" then
    leave (← extend "conditional_expression" start (inField "condition" left) do
      mark "?"
      perhaps (label "consequence" commaExpression)
      mark ":"
      label "alternative" expression)
  else if m ∈ assignmentMarks || (plus && w ∈ ["and_eq", "or_eq", "xor_eq"]) then
    leave (← extend "assignment_expression" start (inField "left" left) do
      label "operator" (if m ∈ assignmentMarks then mark m else keyword w)
      label "right" (call .initializerList <|> expression))
  else leave left

end CGrammar

end CodeSurvey
