import CodeSurvey.Parsing.Java.Rule

/-!
# Java: expressions

Operands with the members, calls and indices behind them, and the operators between operands.
An opening parenthesis may begin a lambda, a cast or an expression in parentheses, and they are
tried in this order; a name in front of a lambda's arrow, of `::` or of `.class` is told apart by
what follows it.
-/

namespace CodeSurvey

namespace JavaGrammar

open Parse

/-- An expression. -/
def expression : P Unit := call .expression

/-- A block of statements. -/
def block : P Unit := call .block

/-! ### Literals -/

/-- A text between quotes.  An expression in braces behind a backslash is part of it. -/
def stringLiteral : P Unit := do
  extras
  let s ← source
  let start ← position
  let quotes := if s.startsWith start "\"\"\"".toList then "\"\"\"" else "\""
  let children ← collected do
    symbol quotes
    many <| (node "string_interpolation" do
      symbolAtOnce "\\\x7b"
      expression
      symbol "\x7d") <|> leafAtOnce "string_fragment" (fragment quotes.toList)
    symbolAtOnce quotes
  finish "string_literal" start children
where
  /-- The end of characters that stand for themselves or are protected by a backslash, looking at
  `fuel` characters. -/
  fragmentEnd (closing : List Char) (s : Source) : (fuel : Nat) → Nat → Nat
    | 0, i => i
    | fuel + 1, i =>
      if i ≥ s.size || s.startsWith i closing || s.startsWith i ['\\', '\x7b'] then i
      else fragmentEnd closing s fuel (if s.charAt i = '\\' then i + 2 else i + 1)
  /-- One or more such characters. -/
  fragment (closing : List Char) (s : Source) (i : Nat) : Option Nat :=
    let j := fragmentEnd closing s (s.size - i) i
    if i < j then some (min j s.size) else none

/-- A number. -/
def number : P Unit := do
  extras
  let s ← source
  let start ← position
  match Lexeme.number s start with
  | some stop =>
    let isFloating := (s.slice start stop).toList.contains '.'
    leafAtOnce (if isFloating then "decimal_floating_point_literal" else "decimal_integer_literal")
      fun _ _ => some stop
  | none => fail

/-- A literal. -/
def literal : P Unit := choice [
  stringLiteral,
  leaf "character_literal" (Lexeme.quoted '\''),
  number,
  lexicon.keywordNode "true" "true",
  lexicon.keywordNode "false" "false",
  lexicon.keywordNode "null_literal" "null"]

/-! ### Operands -/

/-- The arguments of a call. -/
def arguments : P Unit :=
  label "arguments" <| node "argument_list" do
    mark "("
    commaList expression
    mark ")"

/-- The values of an array. -/
def arrayInitializer : P Unit := node "array_initializer" do
  mark "\x7b"
  commaListWithEnd (call .elementValue)
  mark "\x7d"

/-- What follows the word `new`; the value is the kind of the whole expression. -/
def creation : P String := do
  keyword "new"
  many note
  perhaps (label "type_arguments" typeArguments)
  label "type" simpleType
  (do
    arguments
    perhaps (call .classBody)
    return "object_creation_expression") <|> (do
    (do
      label "dimensions" dimensions
      label "value" arrayInitializer) <|> do
      atLeastOne <| label "dimensions" <| node "dimensions_expr" do
        many note
        mark "["
        expression
        mark "]"
      perhaps (label "dimensions" dimensions)
    return "array_creation_expression")

/-- A method that is referred to. -/
def methodReference : P Unit := do
  mark "::"
  perhaps typeArguments
  keyword "new" <|> identifier

/-- A type in front of `.class`, or in front of `::` if no expression is spelled like it. -/
def typeOperand : P Unit := do
  extras
  let start ← position
  let n ← single plainType
  let m ← nextMark
  if m = "::" then
    ensure (n.preorder.any fun n => n.kind ∈ ["generic_type", "array_type"])
    leave (← extend "method_reference" start n methodReference)
  else
    leave (← extend "class_literal" start n do
      mark "."
      keyword "class")

/-- One more member, call or index. -/
def link (start : Nat) (left : Node) : P Node := do
  match ← nextMark with
  | "." => choice [
      extend "method_invocation" start (inField "object" left) do
        mark "."
        perhaps do
          lexicon.keywordNode "super" "super"
          mark "."
        perhaps (label "type_arguments" typeArguments)
        label "name" identifier
        arguments,
      do
        ensure (left.kind != "super")
        extend "object_creation_expression" start left do
          mark "."
          ensure ((← creation) = "object_creation_expression"),
      extend "template_expression" start (inField "template_processor" left) do
        mark "."
        label "template_argument" stringLiteral,
      extend "field_access" start (inField "object" left) do
        mark "."
        perhaps do
          lexicon.keywordNode "super" "super"
          mark "."
        label "field" (identifier <|> lexicon.keywordNode "this" "this")]
  | "[" =>
    extend "array_access" start (inField "array" left) do
      mark "["
      label "index" expression
      mark "]"
  | "::" => extend "method_reference" start left methodReference
  | _ => fail

/-- Something simple: a literal, a name, a call, or an expression in parentheses. -/
def atom : P Unit := choice [
  literal,
  typeOperand,
  node "method_invocation" do
    label "name" identifier
    arguments,
  identifier,
  lexicon.keywordNode "this" "this",
  do
    lexicon.keywordNode "super" "super"
    ensure ((← nextMark) ∈ [".", "::"]),
  nodeOfKind creation,
  node "parenthesized_expression" do
    mark "("
    expression
    mark ")"]

/-- Something simple with its members, calls and indices. -/
def primaryBody : P Unit := do
  extras
  let start ← position
  leave (← iterate (link start) (← single atom))

/-! ### Lambdas -/

/-- The parameters of a method, constructor, record or lambda. -/
def parameters : P Unit :=
  node "formal_parameters" do
    mark "("
    commaList (receiver <|> parameter)
    mark ")"
where
  /-- The object that a method belongs to, in the place of a parameter. -/
  receiver : P Unit :=
    node "receiver_parameter" do
      many note
      plainType
      many do
        identifier
        mark "."
      lexicon.keywordNode "this" "this"
  /-- A parameter, perhaps for any number of values. -/
  parameter : P Unit := nodeOfKind do
    perhaps parameterModifiers
    let (_, type) ← gathered plainType
    if (← nextMark) = "..." then
      leaveAll type
      mark "..."
      many note
      node "variable_declarator" (label "name" identifier)
      return "spread_parameter"
    else
      label "type" (leaveAll type)
      label "name" identifier
      perhaps (label "dimensions" dimensions)
      return "formal_parameter"
  /-- What may stand in front of the type of a parameter. -/
  parameterModifiers : P Unit :=
    node "modifiers" (atLeastOne (note <|> keyword "final"))

/-- A function without a name. -/
def lambda : P Unit :=
  node "lambda_expression" do
    label "parameters" <| choice [
      identifier,
      node "inferred_parameters" do
        mark "("
        separated identifier (mark ",")
        mark ")",
      parameters]
    mark "->"
    label "body" (block <|> expression)

/-! ### Operators -/

/-- A switch, as an expression or a statement. -/
def switch : P Unit :=
  node "switch_expression" do
    keyword "switch"
    label "condition" <| node "parenthesized_expression" do
      mark "("
      expression
      mark ")"
    label "body" <| node "switch_block" do
      mark "\x7b"
      many (rule <|> group)
      mark "\x7d"
where
  /-- A case with what it yields. -/
  rule : P Unit :=
    node "switch_rule" do
      caseLabel
      mark "->"
      choice [block, call .statement]
  /-- Cases with the statements they lead to. -/
  group : P Unit :=
    node "switch_block_statement_group" do
      atLeastOne do
        caseLabel
        mark ":"
      many (call .statement)
  /-- The beginning of a case. -/
  caseLabel : P Unit :=
    node "switch_label" do
      keyword "default" <|> do
        keyword "case"
        (do
          node "pattern" pattern
          ensure ((← nextMark) ∈ ["->", ":"] || (← nextWord) = "when")) <|>
          separated (keyword "default" <|> caseValue) (mark ",")
        perhaps <| node "guard" do
          keyword "when"
          caseValue
  /-- A value in front of an arrow that is not a lambda's. -/
  caseValue : P Unit := do
    extras
    let start ← position
    let value ← single (call (.binary 0))
    (do
      leave (← extend "ternary_expression" start (inField "condition" value) do
        mark "?"
        label "consequence" expression
        mark ":"
        label "alternative" (call (.binary 0)))) <|> leave value
  /-- A pattern. -/
  pattern : P Unit := recordPattern <|> node "type_pattern" do
    plainType
    ensure ((← nextWord) != "when")
    identifier
  /-- A pattern for the parts of a record, whose nesting `depth` bounds. -/
  recordPatternUpTo : (depth : Nat) → P Unit
    | 0 => fail
    | depth + 1 => node "record_pattern" do
      (do
        extras
        let start ← position
        let n ← single typeIdentifier
        leave (← extend "generic_type" start n typeArguments)) <|> identifier
      node "record_pattern_body" do
        mark "("
        commaList <| (recordPatternUpTo depth) <|> node "record_pattern_component" do
          perhaps plainType
          identifier
        mark ")"
  /-- A pattern for the parts of a record. -/
  recordPattern : P Unit := do
    recordPatternUpTo ((← source).size + 1)

/-- A value with the type it is seen as. -/
def cast : P Unit :=
  node "cast_expression" do
    mark "("
    let (_, types) ← gathered (separated (label "type" type) (mark "&"))
    leaveAll types
    mark ")"
    let isBasic := types.any fun n => basicTypes.any fun t => t.2 = n.kind
    ensure (isBasic || (← nextMark) ∉ ["+", "-", "++", "--"])
    label "value" (lambda <|> call .operand)

/-- An operand with the operators in front of it and behind it. -/
def operandBody : P Unit := do
  let m ← nextMark
  if m ∈ ["+", "-", "!", "~"] then
    node "unary_expression" do
      label "operator" (mark m)
      label "operand" (call .operand)
  else if m ∈ ["++", "--"] then
    node "update_expression" do
      mark m
      call .operand
  else
    extras
    let start ← position
    let operand ← single (choice [cast, switch, call .primary])
    leave (← iterate (fun left => extend "update_expression" start left do
      mark "++" <|> mark "--") operand)

/-- The level of a binary operator: a higher level binds closer. -/
def operatorLevel? (operator : String) : Option Nat :=
  [("||", 1), ("&&", 2), ("|", 3), ("^", 4), ("&", 5), ("==", 6), ("!=", 6), ("<", 7), (">", 7),
    ("<=", 7), (">=", 7), ("instanceof", 7), ("<<", 8), (">>", 8), (">>>", 8), ("+", 9), ("-", 9),
    ("*", 10), ("/", 10), ("%", 10)].lookup operator

/-- One more operator of at least the given level, with its right operand. -/
def operatorLink (level start : Nat) (left : Node) : P Node := do
  let w ← nextWord
  let operator ← if w = "" then nextMark else pure w
  match operatorLevel? operator with
  | some own =>
    ensure (level ≤ own)
    if operator = "instanceof" then
      extend "instanceof_expression" start (inField "left" left) do
        keyword operator
        perhaps (keyword "final")
        label "pattern" switch.recordPattern <|> do
          label "right" type
          perhaps (label "name" identifier)
    else
      extend "binary_expression" start (inField "left" left) do
        label "operator" (mark operator)
        label "right" (call (.binary (own + 1)))
  | none => fail

/-- Operands joined by operators of at least the given level. -/
def binaryBody (level : Nat) : P Unit := do
  extras
  let start ← position
  leave (← iterate (operatorLink level start) (← single (call .operand)))

/-- The operators of assignments. -/
def assignmentMarks : List String :=
  ["=", "+=", "-=", "*=", "/=", "&=", "|=", "^=", "%=", "<<=", ">>=", ">>>="]

/-- An expression. -/
def expressionBody : P Unit := lambda <|> do
  extras
  let start ← position
  let left ← single (call (.binary 0))
  let m ← nextMark
  if m = "?" then
    leave (← extend "ternary_expression" start (inField "condition" left) do
      mark "?"
      label "consequence" expression
      mark ":"
      label "alternative" expression)
  else if m ∈ assignmentMarks then
    leave (← extend "assignment_expression" start (inField "left" left) do
      label "operator" (mark m)
      label "right" expression)
  else leave left

/-! ### Annotations -/

/-- An annotation. -/
def annotationBody : P Unit := nodeOfKind do
  mark "@"
  label "name" name
  (do
    label "arguments" <| node "annotation_argument_list" do
      mark "("
      (do
        commaList <| node "element_value_pair" do
          label "key" identifier
          mark "="
          label "value" (call .elementValue)
        mark ")") <|> do
        call .elementValue
        mark ")"
    return "annotation") <|> return "marker_annotation"

/-- A value of an annotation, or of an array or variable. -/
def elementValueBody : P Unit := choice [arrayInitializer, note, expression]

end JavaGrammar

end CodeSurvey
