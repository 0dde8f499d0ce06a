import CodeSurvey.Parsing.Script.Type

/-!
# Scripts: expressions

An expression is a conditional over a chain of binary operators over *operands*.  An operand is
anything that an operator can apply to, and that includes assignments and arrow functions: what
may stand on the left of `=` decides that an assignment begins, not the operators before it.
Most operands are *access chains*: something simple followed by member accesses, calls, indices
and templates.
-/

namespace CodeSurvey

namespace ScriptGrammar

open Parse

/-! ### Functions and classes -/

/-- A function with a body, in the role of an expression. -/
def functionExpression : P Unit :=
  nodeOfKind do
    perhaps (keyword "async")
    keyword "function"
    let generator ← succeeds (symbol "*")
    perhaps (label "name" (anyName "identifier"))
    callSignature .inner
    label "body" (call .block)
    return if generator then "generator_function" else "function_expression"

/-- What a class builds on. -/
def heritage : P Unit :=
  node "class_heritage" do
    (do
      node "extends_clause" do
        keyword "extends"
        separated base (mark ",")
      perhaps implementsClause) <|> implementsClause
where
  /-- A class to build on. -/
  base : P Unit :=
    (do
      label "value" (call (.operand { plain := true }))
      label "type_arguments" typeArguments
      ensure ((← nextMark) != "(")) <|>
    label "value" (call (.operand .inner))
  /-- The interfaces of a class. -/
  implementsClause : P Unit :=
    node "implements_clause" do
      keyword "implements"
      separated innerType (mark ",")

/-- A class from its keyword on; `named` tells whether it needs a name. -/
def classTail (named : Bool) : P Unit := do
  keyword "class"
  let className : P Unit := do
    ensure ((← nextWord) ∉ ["extends", "implements"])
    label "name" (anyName "type_identifier")
  if named then className else perhaps className
  perhaps (label "type_parameters" typeParameters)
  perhaps heritage
  label "body" (call .classBody)

/-- A class in the role of an expression. -/
def classExpression : P Unit :=
  node "class" do
    many (label "decorator" decorator)
    classTail false

/-! ### Literals -/

/-- One or more expressions with commas between them. -/
def expressions (mode : Mode) : P Unit := do
  extras
  let start ← position
  let nodes ← collected (separated (call (.expression mode)) (mark ","))
  match nodes with
  | [n] => leave n
  | nodes => finish "sequence_expression" start nodes

/-- A template. -/
def template : P Unit :=
  node "template_string" (templateBody "template_substitution" (expressions .inner))

/-- An expression between parentheses. -/
def parenthesized : P Unit :=
  node "parenthesized_expression" do
    symbol "("
    expressions .inner
    perhaps (label "type" (colonType .inner))
    symbol ")"

/-- A value spread over its surroundings. -/
def spread : P Unit :=
  node "spread_element" do
    symbol "..."
    innerExpression

/-- A method with its body. -/
def methodDefinition : P Unit :=
  node "method_definition" do
    optionalAccessibility
    optionalModifier "static"
    optionalOverride
    optionalModifier "readonly"
    optionalModifier "async"
    methodPrefix
    label "name" propertyName
    perhaps (mark "?")
    callSignature .inner
    label "body" (call .block)

/-- An object. -/
def objectLiteral : P Unit :=
  node "object" <| holed "\x7b" (choice [
    spread,
    node "pair" do
      label "key" propertyName
      mark ":"
      label "value" innerExpression,
    methodDefinition,
    anyName "shorthand_property_identifier"]) "\x7d"

/-- An array. -/
def arrayLiteral : P Unit := node "array" (holed "[" (innerExpression <|> spread) "]")

/-! ### Access chains -/

/-- The marks that begin an operand and so tell a comparison from type arguments. -/
def operandMarks : List String := ["(", "[", "+", "-", "~", "!", "++", "--", "\x60", "<"]

/-- A token that begins an operand follows. -/
def operandFollows : P Bool := do
  let m ← nextMark
  let c ← nextChar
  let w ← nextWord
  return m ∈ operandMarks || c.isDigit || c ∈ ['"', '\'', '/', '#', '@'] ||
    (w != "" && w ∉ ["as", "satisfies", "in", "instanceof", "implements", "of"])

/-- The access of a member by its name. -/
def memberAccess (start : Nat) (left : Node) (link : P Unit) : P Node :=
  extend "member_expression" start (inField "object" left) do
    link
    label "property" (leaf "private_property_identifier" privateName <|>
      anyName "property_identifier")

/-- The access of a member by a computed key. -/
def indexAccess (start : Nat) (left : Node) (link : P Unit) : P Node :=
  extend "subscript_expression" start (inField "object" left) do
    link
    symbol "["
    label "index" (expressions .inner)
    symbol "]"

/-- The mark of an access that is skipped when its object is missing. -/
def optionalChain : P Unit := label "optional_chain" (node "optional_chain" (mark "?."))

/-- One more link of an access chain other than a call. -/
def accessLink (mode : Mode) (start : Nat) (left : Node) : P Node := do
  match ← nextMark with
  | "." => memberAccess start left (mark ".")
  | "[" => indexAccess start left (pure ())
  | "\x60" =>
    extend "call_expression" start (inField "function" left) (label "arguments" template)
  | "!" => do
    if mode.ends then ensure !(← lineBreakAhead)
    extend "non_null_expression" start left (mark "!")
  | _ => fail

/-- One more link of an access chain. -/
def chainLink (mode : Mode) (start : Nat) (left : Node) : P Node := do
  let calling (before : P Unit) : P Node :=
    extend "call_expression" start (inField "function" left) do
      before
      label "arguments" arguments
  match ← nextMark with
  | "(" => calling (pure ())
  | "?." => choice [
      calling do
        mark "?."
        perhaps (label "type_arguments" typeArguments),
      indexAccess start left optionalChain,
      memberAccess start left optionalChain]
  | "<" => do
    ensure !mode.plain
    choice [
      calling (label "type_arguments" typeArguments),
      extend "instantiation_expression" start left do
        label "type_arguments" typeArguments
        ensure !(← operandFollows)]
  | _ => accessLink mode start left

/-- The creation of an object.  The links up to the first arguments belong to the constructor. -/
def newExpression (mode : Mode) : P Unit :=
  (node "meta_property" do
    keyword "new"
    mark "."
    keyword "target") <|>
  node "new_expression" do
    keyword "new"
    extras
    let start ← position
    let target ← single (call (.simple mode))
    leave (inField "constructor" (← iterate (accessLink mode start) target))
    perhaps (label "type_arguments" typeArguments)
    perhaps (label "arguments" arguments)

/-- Something simple: a literal, a name, or an expression in brackets. -/
def simpleBody (mode : Mode) : P Unit := do
  match ← nextWord with
  | "" =>
    match ← nextChar with
    | '(' => parenthesized
    | '[' => arrayLiteral
    | '\x7b' => objectLiteral
    | '"' | '\'' => stringLiteral
    | '\x60' => template
    | '/' => regexLiteral
    | '@' => classExpression
    | _ => leaf "number" number
  | "function" => functionExpression
  | "class" => classExpression
  | "this" => keywordNode "this" "this"
  | "super" => keywordNode "super" "super"
  | "null" => keywordNode "null" "null"
  | "true" => keywordNode "true" "true"
  | "false" => keywordNode "false" "false"
  | "undefined" => keywordNode "undefined" "undefined"
  | "new" => newExpression mode
  | "import" =>
    (node "meta_property" do
      keyword "import"
      mark "."
      keyword "meta") <|> do
    keywordNode "import" "import"
    ensure ((← nextMark) ∈ ["(", ".", "<"])
  | "async" => functionExpression <|> identifier
  | _ => identifier

/-- A chain of accesses and calls that starts with what `base` leaves. -/
def chainFrom (base : P Unit) (mode : Mode) : P Node := do
  extras
  let start ← position
  let first ← single base
  iterate (chainLink mode start) first

/-! ### Patterns -/

/-- The kinds of nodes that can be assigned to. -/
def assignableKinds : List String :=
  ["member_expression", "subscript_expression", "identifier", "undefined", "non_null_expression"]

/-- A default after a pattern, in a node of the given kind. -/
def withDefault (kind : String) (p : P Unit) : P Unit := do
  extras
  let start ← position
  let left ← single p
  (do
    let n ← extend kind start (inField "left" left) do
      mark "="
      label "right" innerExpression
    leave n) <|> leave left

/-- What takes the rest of the values. -/
def restPattern : P Unit :=
  node "rest_pattern" do
    symbol "..."
    call .pattern

/-- A pattern that takes values out of an object. -/
def objectPattern : P Unit :=
  node "object_pattern" <| holed "\x7b" (choice [
    restPattern,
    node "pair_pattern" do
      label "key" propertyName
      mark ":"
      label "value" (withDefault "assignment_pattern" (call .pattern)),
    withDefault "object_assignment_pattern" (anyName "shorthand_property_identifier_pattern"),
    withDefault "object_assignment_pattern" (call .pattern)]) "\x7d"

/-- A pattern that takes values out of a sequence. -/
def arrayPattern : P Unit :=
  node "array_pattern" <| holed "[" (withDefault "assignment_pattern" (call .pattern)) "]"

/-- A pattern between brackets. -/
def destructuring : P Unit := do
  match ← nextChar with
  | '[' => arrayPattern
  | '\x7b' => objectPattern
  | _ => fail

/-- Something that takes a value: a pattern, or what can be assigned to. -/
def patternBody : P Unit := do
  match ← nextMark with
  | "..." => restPattern
  | m =>
    if m = "[" || m = "\x7b" then
      destructuring <|> assignable
    else assignable
where
  /-- A name, or an access chain that ends in a member. -/
  assignable : P Unit := do
    let n ← chainFrom (call (.simple .inner)) .inner
    ensure (n.kind ∈ assignableKinds)
    leave n

/-! ### Operands -/

/-- The body of an arrow function: a block, or an expression. -/
def arrowBody (mode : Mode) : P Unit := do
  mark "=>"
  if (← nextChar) = '\x7b' then
    label "body" (call .block) <|> label "body" (call (.expression mode))
  else label "body" (call (.expression mode))

/-- An arrow function. -/
def arrowFunction (mode : Mode) : P Unit :=
  remembered (.arrow mode) <| choice [
    node "arrow_function" do
      keyword "async"
      parametersAndBody,
    node "arrow_function" parametersAndBody]
where
  /-- The parameters and the body. -/
  parametersAndBody : P Unit := do
    if (← nextWord) != "" then
      label "parameter" identifier
      arrowBody mode
    else
      if mode.bare then
        perhaps (label "type_parameters" typeParameters)
        label "parameters" (call .parameters)
      else callSignature mode
      arrowBody mode

/-- The operators of assignments that compute the new value. -/
def updatingMarks : List String :=
  ["+=", "-=", "*=", "/=", "%=", "^=", "&=", "|=", ">>=", ">>>=", "<<=", "**=", "&&=", "||=",
    "??="]

/-- The rest of an operand that starts with an access chain: a step up or down, or an
assignment. -/
def afterChain (mode : Mode) (start : Nat) (left : Node) : P Unit := do
  let m ← nextMark
  let canAssign := left.kind ∈ assignableKinds || left.kind = "parenthesized_expression"
  if m = "++" || m = "--" then
    if mode.ends && (← lineBreakAhead) then leave left
    else leave (← extend "update_expression" start (inField "argument" left) (mark m))
  else if m = "=" && canAssign then
    leave (← extend "assignment_expression" start (inField "left" left) do
      mark m
      label "right" (call (.expression mode)))
  else if m ∈ updatingMarks && canAssign then
    leave (← extend "augmented_assignment_expression" start (inField "left" left) do
      mark m
      label "right" (call (.expression mode)))
  else leave left

/-- An assignment to a pattern between brackets. -/
def destructuringAssignment (mode : Mode) : P Unit :=
  node "assignment_expression" do
    label "left" (call .pattern)
    mark "="
    label "right" (call (.expression mode))

/-- An operand that is an access chain, or an assignment to one. -/
def chainOperand (mode : Mode) (base : P Unit) : P Unit := do
  extras
  let start ← position
  let left ← chainFrom base mode
  afterChain mode start left

/-- Type arguments, and what may follow them, after an operator with its operands: they apply to
the whole, so in `await f<T>()` it is not `f` that is called. -/
def typeArgumentsAfter (mode : Mode) (start : Nat) (left : Node) : P Node := do
  ensure (!mode.plain && (← nextMark) = "<")
  iterate (chainLink mode start) (← chainLink mode start left)

/-- An operator before its operand. -/
def prefixed (kind : String) (operator : P Unit) (field : Option String) (mode : Mode) :
    P Unit := do
  extras
  let start ← position
  let whole ← single <| node kind do
    operator
    let operand := call (.operand { mode with plain := true })
    match field with
    | some field => label field operand
    | none => operand
  leave (← typeArgumentsAfter mode start whole <|> pure whole)

/-- An operand. -/
def operandBody (mode : Mode) : P Unit := do
  let w ← nextWord
  if w = "" then
    let m ← nextMark
    match m with
    | "!" | "~" | "+" | "-" => prefixed "unary_expression" (label "operator" (mark m)) (some "argument") mode
    | "++" | "--" => prefixed "update_expression" (label "operator" (mark m)) (some "argument") mode
    | "<" => call (.angled mode)
    | "(" => chainOperand mode (arrowFunction mode <|> call (.simple mode))
    | "[" | "\x7b" => destructuringAssignment mode <|> chainOperand mode (call (.simple mode))
    | _ =>
      (do
        leaf "private_property_identifier" privateName
        ensure ((← nextWord) = "in")) <|> chainOperand mode (call (.simple mode))
  else match w with
    | "typeof" | "void" | "delete" => prefixed "unary_expression" (label "operator" (keyword w)) (some "argument") mode
    | "await" => prefixed "await_expression" (keyword w) none mode
    | "yield" => node "yield_expression" do
        keyword w
        (do
          symbol "*"
          call (.expression mode)) <|>
        perhaps do
          if mode.ends then ensure !(← lineBreakAhead)
          call (.expression mode)
    | "using" =>
      (node "assignment_expression" do
        keyword w
        label "left" (anyName "identifier")
        mark "="
        label "right" (call (.expression mode))) <|>
      chainOperand mode (arrowFunction mode <|> call (.simple mode))
    | _ => chainOperand mode (arrowFunction mode <|> call (.simple mode))

/-! ### Operators -/

/-- The level of a binary operator: a higher level binds closer. -/
def operatorLevel? (operator : String) : Option Nat :=
  [("??", 1), ("||", 2), ("&&", 3), ("|", 4), ("^", 5), ("&", 6), ("==", 7), ("!=", 7),
    ("===", 7), ("!==", 7), ("<", 8), ("<=", 8), (">", 8), (">=", 8), ("instanceof", 8), ("in", 8),
    ("as", 8), ("satisfies", 8), ("<<", 9), (">>", 9), (">>>", 9), ("+", 10), ("-", 10), ("*", 11),
    ("/", 11), ("%", 11), ("**", 12)].lookup operator

/-- The level of comparisons. -/
def comparisonLevel : Nat := 8

/-- The binary operator at the next token, a mark or a word; empty if there is none. -/
def nextOperator : P String := do
  let w ← nextWord
  if w = "" then nextMark else return w

/-- One more binary operator of at least the given level, with its right operand. -/
def operatorLink (level : Nat) (mode : Mode) (start : Nat) (left : Node) : P Node := do
  let operator ← nextOperator
  match operatorLevel? operator with
  | none => fail
  | some own =>
    ensure (level ≤ own)
    if operator = "as" || operator = "satisfies" then
      if mode.ends then ensure !(← lineBreakAhead)
      extend (operator ++ "_expression") start left do
        keyword operator
        call (.type { bare := mode.bare })
    else
      let joined (mode : Mode) : P Node :=
        extend "binary_expression" start (inField "left" left) do
          label "operator" (keyword operator <|> mark operator)
          label "right" (call (.binary (if operator = "**" then own else own + 1) mode))
      if own ≤ comparisonLevel || mode.plain then joined mode
      else
        choice [
          do
            let whole ← joined { mode with plain := true }
            if (← nextMark) = "<" then
              let whole ← typeArgumentsAfter mode start whole
              ensure ((operatorLevel? (← nextOperator)).getD 0 ≤ own)
              return whole
            else return whole,
          joined mode]

/-- Operands joined by binary operators of at least the given level. -/
def binaryBody (level : Nat) (mode : Mode) : P Unit := do
  extras
  let start ← position
  let left ← single (call (.operand mode))
  leave (← iterate (operatorLink level mode start) left)

/-- An expression without commas. -/
def expressionBody (mode : Mode) : P Unit := do
  extras
  let start ← position
  let condition ← single (call (.binary 0 mode))
  if (← nextMark) = "?" then
    (do
      leave (← extend "ternary_expression" start (inField "condition" condition) do
        mark "?"
        consequence .inner <|> consequence { bare := true }
        label "alternative" (call (.expression mode)))) <|> leave condition
  else leave condition
where
  /-- The value for a condition that holds. -/
  consequence (mode : Mode) : P Unit := do
    label "consequence" (call (.expression mode))
    mark ":"

end ScriptGrammar

end CodeSurvey
