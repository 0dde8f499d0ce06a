import CodeSurvey.Parsing.Python.Rule

/-!
# Python: expressions

Operands with attributes, calls and subscripts, the operators between them, comprehensions,
lambdas, and strings whose replacement fields hold expressions again.
-/

namespace CodeSurvey

namespace PythonGrammar

open Parse

/-- An expression. -/
def expression : P Unit := call .expression

/-! ### Strings -/

/-- How a string is delimited and read. -/
structure Delimiter where
  quote : Char
  triple : Bool
  raw : Bool
  /-- Braces enclose replacement fields. -/
  format : Bool
deriving Repr, Inhabited

/-- The text that closes a string. -/
def Delimiter.closing (d : Delimiter) : List Char := List.replicate (if d.triple then 3 else 1) d.quote

/-- The letters that may stand in front of a string. -/
def isStringLetter (c : Char) : Bool := c ∈ "rRbBuUfFtT".toList

/-- The delimiter of the string at a position and the position after its opening quotes. -/
def delimiterAt (s : Source) (i : Nat) : Option (Delimiter × Nat) :=
  let j := s.skipWhile isStringLetter i
  let letters := (s.slice i j).toList.map Char.toLower
  let quote := s.charAt j
  if quote = '"' || quote = '\'' then
    let triple := s.startsWith j [quote, quote, quote]
    some (⟨quote, triple, letters.contains 'r', letters.contains 'f' || letters.contains 't'⟩,
      j + if triple then 3 else 1)
  else none

/-- The position after a backslash and what belongs to it. -/
def afterBackslash (d : Delimiter) (s : Source) (i : Nat) : Nat :=
  let c := s.charAt (i + 1)
  if d.raw then if c = d.quote || c = '\\' || c = '\n' then i + 2 else i + 1
  else if d.format && c = 'N' && s.charAt (i + 2) = '\x7b' then
    s.skipWhile (fun c => c != '\x7d' && c != d.quote) (i + 2) + 1
  else if d.format && (c = '\x7b' || c = '\x7d') then i + 1
  else if c = '\r' && s.charAt (i + 2) = '\n' then i + 3
  else i + 2

/-- The end of the characters that stand for themselves. -/
def contentEnd (d : Delimiter) (s : Source) : (fuel : Nat) → Nat → Nat
  | 0, i => i
  | fuel + 1, i =>
    let c := s.charAt i
    if i ≥ s.size || s.startsWith i d.closing then i
    else if c = '\\' then contentEnd d s fuel (afterBackslash d s i)
    else if c = '\n' && !d.triple then i
    else if d.format && (c = '\x7b' || c = '\x7d') then
      if s.charAt (i + 1) = c then contentEnd d s fuel (i + 2)
      else if c = '\x7b' then i
      else contentEnd d s fuel (i + 1)
    else contentEnd d s fuel (i + 1)

/-- One or more characters that stand for themselves. -/
def content (d : Delimiter) (s : Source) (i : Nat) : Option Nat :=
  let j := contentEnd d s (s.size + 1 - i) i
  if i < j then some (min j s.size) else none

/-- Expressions with commas between them: the expression itself if there is only one, or else a
node of the given kind. -/
def listOf (kind : String) (item : P Unit) : P Unit := do
  extras
  let start ← position
  let nodes ← collected (commaList item)
  match nodes with
  | [n] => leave n
  | nodes => finish kind start nodes

/-- A value spread over its surroundings. -/
def splat : P Unit :=
  node "list_splat" do
    mark "*"
    expression

/-- An element of a list or the like: an expression, perhaps spread. -/
def element : P Unit := splat <|> expression

/-- Expressions. -/
def expressions : P Unit := listOf "expression_list" expression

/-- A yield. -/
def yieldExpression : P Unit :=
  node "yield" do
    keyword "yield"
    (do
      keyword "from"
      expression) <|> perhaps expressions

/-- A replacement field, in a node of the given kind; `nested` parses the fields inside its
format. -/
def replacement (kind : String) (nested : P Unit) : P Unit :=
  node kind do
    symbolAtOnce "\x7b"
    among bracketExtra do
      label "expression" (yieldExpression <|> expressions)
      perhaps (mark "=")
      perhaps (label "type_conversion" (leaf "type_conversion" conversion))
    perhaps <| label "format_specifier" <| node "format_specifier" do
      among bracketExtra (symbol ":")
      many (nested <|> scan formatText)
    among bracketExtra (symbol "\x7d")
where
  /-- A mark that tells how the value is converted. -/
  conversion (s : Source) (i : Nat) : Option Nat :=
    if s.charAt i = '!' && (s.charAt (i + 1)).isAlpha then some (i + 2) else none
  /-- Format characters. -/
  formatText (s : Source) (i : Nat) : Option Nat :=
    span (fun c => c != '\x7b' && c != '\x7d') s i

/-- The fields inside a format, `depth` of them inside each other. -/
def formatField : (depth : Nat) → P Unit
  | 0 => fail
  | depth + 1 => replacement "format_expression" (formatField depth)

/-- A string. -/
def stringBody : P Unit := do
  extras
  let s ← source
  let start ← position
  match delimiterAt s start with
  | none => fail
  | some (d, inside) =>
    let children ← collected do
      leafAtOnce "string_start" fun _ _ => some inside
      many <| (leafAtOnce "string_content" (content d)) <|>
        if d.format then replacement "interpolation" (formatField 4) else fail
      leafAtOnce "string_end" fun s i =>
        if s.startsWith i d.closing then some (i + d.closing.length) else none
    finish "string" start children

/-- One or more strings in a row. -/
def strings : P Unit := do
  extras
  let start ← position
  let nodes ← collected (atLeastOne (call .string))
  match nodes with
  | [n] => leave n
  | nodes => finish "concatenated_string" start nodes

/-! ### Parameters -/

/-- The type of something. -/
def typeExpression : P Unit := node "type" expression

/-- A parameter; `typed` tells whether a colon gives its type. -/
def parameter (typed : Bool) : P Unit := choice [
  node "positional_separator" (mark "/"),
  withType (node "dictionary_splat_pattern" do
    mark "**"
    identifier),
  withType (node "list_splat_pattern" do
    mark "*"
    identifier),
  node "keyword_separator" (mark "*"),
  nodeWithDefault]
where
  /-- A parameter with its type, if it has one. -/
  withType (p : P Unit) : P Unit := do
    extras
    let start ← position
    let n ← single p
    if typed && (← nextMark) = ":" then
      leave (← extend "typed_parameter" start n do
        mark ":"
        label "type" typeExpression)
    else leave n
  /-- A name, or some in parentheses, with type and default. -/
  nodeWithDefault : P Unit := do
    extras
    let start ← position
    let n ← single (identifier <|>
      node "tuple_pattern" (bracketed "(" (commaList (call .primary)) ")"))
    let hasType := typed && (← nextMark) = ":"
    let type ← collected do
      if hasType then
        mark ":"
        label "type" typeExpression
    let value ← collected do
      perhaps do
        mark "="
        label "value" expression
    if value.isEmpty then
      if hasType then finish "typed_parameter" start (n :: type) else leave n
    else
      finish (if hasType then "typed_default_parameter" else "default_parameter") start
        (inField "name" n :: type ++ value)

/-- The parameters of a function. -/
def parameters : P Unit :=
  node "parameters" (bracketed "(" (perhaps (commaList (parameter true))) ")")

/-- The type parameters of a function, class or type. -/
def typeParameters : P Unit :=
  node "type_parameter" (bracketed "[" (commaList typeParameter) "]")
where
  /-- A type parameter with its bound and default. -/
  typeParameter : P Unit := do
    perhaps (mark "**")
    typeExpression
    perhaps do
      mark ":"
      typeExpression
    perhaps do
      mark "="
      typeExpression

/-- A function without a name. -/
def lambda : P Unit :=
  node "lambda" do
    keyword "lambda"
    perhaps (label "parameters" (node "lambda_parameters" (commaList (parameter false))))
    mark ":"
    label "body" expression

/-! ### Comprehensions -/

/-- What takes the values of a loop. -/
def targets : P Unit := listOf "pattern_list" do
  (node "list_splat_pattern" do
    mark "*"
    call .primary) <|> call .primary

/-- The loops and conditions of a comprehension. -/
def comprehensionClauses : P Unit := do
  forClause
  many (forClause <|> node "if_clause" do
    keyword "if"
    call (.binary 0) <|> lambda)
where
  /-- A loop. -/
  forClause : P Unit :=
    node "for_in_clause" do
      perhaps (keyword "async")
      keyword "for"
      label "left" targets
      keyword "in"
      label "right" (separated (call (.binary 0) <|> lambda) (mark ","))

/-- What stands in brackets of one sort: nothing, a comprehension, or items with commas.  The
value is the kind of the node; `one` is the kind for a single item without a comma. -/
def display (item : P Unit) (none comprehension one several : String) : P String := do
  extras
  match ← collected (perhaps item) with
  | [first] =>
    if (← nextWord) ∈ ["for", "async"] then
      leave (inField "body" first)
      comprehensionClauses
      return comprehension
    else
      leave first
      let comma ← succeeds (mark ",")
      if comma then
        perhaps (commaList item)
        return several
      else return one
  | _ => return none

/-- A bracketed display. -/
def bracketedDisplay (opening : String) (p : P String) (closing : String) : P Unit :=
  nodeOfKind do
    symbol opening
    among bracketExtra do
      let kind ← p
      symbol closing
      return kind

/-- An entry of a dictionary, or an element of a set. -/
def entry : P Unit :=
  (node "dictionary_splat" do
    mark "**"
    expression) <|> do
  extras
  let start ← position
  let first ← single element
  (do
    leave (← extend "pair" start (inField "key" first) do
      mark ":"
      label "value" expression)) <|> leave first

/-- A dictionary or set. -/
def dictionaryOrSet : P Unit := do
  let n ← single <| bracketedDisplay "\x7b"
    (display entry "dictionary" "set_comprehension" "set" "set") "\x7d"
  let keyed := n.children.any fun c => c.kind ∈ ["pair", "dictionary_splat"]
  let kind :=
    if !keyed then n.kind
    else if n.kind = "set_comprehension" then "dictionary_comprehension"
    else "dictionary"
  leave { n with kind := kind }

/-! ### Operands -/

/-- An argument of a call. -/
def argument : P Unit := choice [
  splat,
  node "dictionary_splat" do
    mark "**"
    expression,
  node "keyword_argument" do
    label "name" anyName
    mark "="
    label "value" expression,
  expression]

/-- The arguments of a call. -/
def arguments : P Unit :=
  (node "generator_expression" <| bracketed "(" (do
    label "body" expression
    comprehensionClauses) ")") <|>
  node "argument_list" (bracketed "(" (perhaps (commaList argument)) ")")

/-- An index, or a range of indices. -/
def index : P Unit :=
  (node "slice" do
    perhaps expression
    mark ":"
    perhaps expression
    perhaps do
      mark ":"
      perhaps expression) <|> expression

/-- One more attribute, call or index. -/
def link (start : Nat) (left : Node) : P Node := do
  match ← nextMark with
  | "." =>
    extend "attribute" start (inField "object" left) do
      mark "."
      label "attribute" anyName
  | "(" => extend "call" start (inField "function" left) (label "arguments" arguments)
  | "[" =>
    extend "subscript" start (inField "value" left) do
      bracketed "[" (label "subscript" (commaList index)) "]"
  | _ => fail

/-- Something simple: a name, a literal, or an expression in brackets. -/
def atom : P Unit := do
  match ← nextMark with
  | "(" =>
    (node "parenthesized_expression" (bracketed "(" yieldExpression ")")) <|>
    bracketedDisplay "("
      (display element "tuple" "generator_expression" "parenthesized_expression" "tuple") ")"
  | "[" => bracketedDisplay "[" (display element "list" "list_comprehension" "list" "list") "]"
  | "\x7b" => dictionaryOrSet
  | "..." => leaf "ellipsis" (exact "...")
  | _ => choice [
      strings,
      leaf "float" float,
      leaf "integer" integer,
      lexicon.keywordNode "none" "None",
      lexicon.keywordNode "true" "True",
      lexicon.keywordNode "false" "False",
      identifier]

/-- A value spread where no element of a list stands.  The spread reaches as far as the last
attribute or index; the calls behind that have the spread value for their function. -/
def spreadPrimary : P Unit := do
  extras
  let start ← position
  let star ← single (mark "*")
  extras
  let first ← position
  let reached ← iterate (reach first) (← single atom)
  let spread ← single (finish "list_splat" start [star, reached])
  leave (← iterate (link start) spread)
where
  /-- Some calls with an attribute or index behind them. -/
  reach (start : Nat) (left : Node) : P Node := do
    let called ← iterate (fun n => do
      ensure ((← nextMark) = "(")
      link start n) left
    ensure ((← nextMark) != "(")
    link start called

/-- Something simple with its attributes, calls and indices. -/
def primaryBody : P Unit := do
  if (← nextMark) = "*" then spreadPrimary
  else
    extras
    let start ← position
    leave (← iterate (link start) (← single atom))

/-- An operand with the operators in front of it and the power it is raised to. -/
def operandBody : P Unit := do
  let m ← nextMark
  if m ∈ ["-", "+", "~"] then
    node "unary_operator" do
      label "operator" (mark m)
      label "argument" (call .operand)
  else
    extras
    let start ← position
    let base ← single ((node "await" do
      keyword "await"
      call .primary) <|> call .primary)
    (do
      leave (← extend "binary_operator" start (inField "left" base) do
        label "operator" (mark "**")
        label "right" (call .operand))) <|> leave base

/-! ### Operators -/

/-- The level of comparisons. -/
def comparisonLevel : Nat := 3

/-- The level and the kind of node of a binary operator other than a comparison: a higher level
binds closer. -/
def operatorLevel? (operator : String) : Option (Nat × String) :=
  [("or", 1, "boolean_operator"), ("and", 2, "boolean_operator"), ("|", 4, "binary_operator"),
    ("^", 5, "binary_operator"), ("&", 6, "binary_operator"), ("<<", 7, "binary_operator"),
    (">>", 7, "binary_operator"), ("+", 8, "binary_operator"), ("-", 8, "binary_operator"),
    ("*", 9, "binary_operator"), ("/", 9, "binary_operator"), ("//", 9, "binary_operator"),
    ("%", 9, "binary_operator"), ("@", 9, "binary_operator")].lookup operator

/-- A comparison. -/
def comparison : P Unit := choice [
  do
    keyword "not"
    keyword "in",
  do
    keyword "is"
    perhaps (keyword "not"),
  keyword "in",
  do
    let m ← nextMark
    ensure (m ∈ ["<", "<=", "==", "!=", ">=", ">", "<>"])
    mark m]

/-- One more operator of at least the given level, with its right operand.  Comparisons in a row
make one node. -/
def operatorLink (level start : Nat) (left : Node) : P Node := do
  let w ← nextWord
  let operator ← if w = "" then nextMark else pure w
  match operatorLevel? operator with
  | some (own, kind) =>
    ensure (level ≤ own)
    extend kind start (inField "left" left) do
      label "operator" (keyword operator <|> mark operator)
      label "right" (call (.binary (own + 1)))
  | none =>
    ensure (level ≤ comparisonLevel)
    extend "comparison_operator" start left <| atLeastOne do
      label "operators" comparison
      call (.binary (comparisonLevel + 1))

/-- Operands joined by operators of at least the given level. -/
def binaryBody (level : Nat) : P Unit := do
  if level ≤ comparisonLevel && (← nextWord) = "not" then
    extras
    let start ← position
    let left ← single <| node "not_operator" do
      keyword "not"
      label "argument" (call (.binary comparisonLevel))
    leave (← iterate (operatorLink level start) left)
  else
    extras
    let start ← position
    let left ← single (call .operand)
    leave (← iterate (operatorLink level start) left)

/-- An expression. -/
def expressionBody : P Unit := choice [
  do
    ensure ((← nextWord) = "lambda")
    lambda,
  node "named_expression" do
    label "name" identifier
    mark ":="
    label "value" expression,
  do
    extras
    let start ← position
    let value ← single (call (.binary 0))
    (do
      leave (← extend "conditional_expression" start value do
        keyword "if"
        call (.binary 0)
        keyword "else"
        expression)) <|> leave value]

end PythonGrammar

end CodeSurvey
