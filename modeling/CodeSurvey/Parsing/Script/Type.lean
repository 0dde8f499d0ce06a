import CodeSurvey.Parsing.Script.Rule

/-!
# Scripts: types and signatures

Types, and what is built from them: parameter lists, signatures, and the members of object types.
-/

namespace CodeSurvey

namespace ScriptGrammar

open Parse

/-- A type between brackets. -/
def innerType : P Unit := call (.type .inner)

/-- An expression between brackets. -/
def innerExpression : P Unit := call (.expression .inner)

/-! ### Names of members -/

/-- A name between square brackets. -/
def computedName : P Unit :=
  node "computed_property_name" do
    symbol "["
    innerExpression
    symbol "]"

/-- The name of a member. -/
def propertyName : P Unit :=
  choice [
    leaf "private_property_identifier" privateName,
    anyName "property_identifier",
    stringLiteral,
    leaf "number" number,
    computedName]

/-- A member name, or a star in front of one, begins at the next token of the same line. -/
def memberFollows : P Bool := do
  if ← lineBreakAhead then return false
  let c ← nextChar
  return isNameStart c || c.isDigit || c ∈ ['"', '\'', '[', '#', '*', '\\']

/-- A word that modifies the member after it. -/
def modifier (p : P Unit) : P Unit := do
  p
  ensure (← memberFollows)

/-- A modifier of one word, perhaps. -/
def optionalModifier (text : String) : P Unit := perhaps (modifier (keyword text))

/-- Who may use a member. -/
def accessibility : P Unit :=
  node "accessibility_modifier" (keywords ["public", "private", "protected"])

/-- Who may use a member, perhaps. -/
def optionalAccessibility : P Unit := perhaps (modifier accessibility)

/-- A mark that a member replaces an inherited one, perhaps. -/
def optionalOverride : P Unit := perhaps (modifier (node "override_modifier" (keyword "override")))

/-- What a method is, in front of its name. -/
def methodPrefix : P Unit := do
  perhaps (modifier (keywords ["get", "set"]) <|> symbol "*")

/-! ### Names of types, and type arguments -/

/-- Type arguments. -/
def typeArguments : P Unit := node "type_arguments" (listedTypes "<" ">")
where
  /-- One or more types with commas between them and perhaps one at the end. -/
  listedTypes (opening closing : String) : P Unit := do
    symbol opening
    separated innerType (mark ",")
    perhaps (mark ",")
    symbol closing

/-- A name with its qualifiers, the kinds of a single name and of a qualified one given. -/
def qualified (one several : String) : P Unit := do
  extras
  let start ← position
  let first ← single (anyName one)
  leave (← iterate (fun left =>
    extend several start (inField "module" { left with kind := qualifierKind left.kind }) do
      mark "."
      label "name" (anyName one)) first)
where
  /-- The kind of a name when it qualifies another. -/
  qualifierKind (kind : String) : String :=
    if kind = "type_identifier" then "identifier"
    else if kind = "nested_type_identifier" then "nested_identifier"
    else kind

/-- A type name with its qualifiers and arguments. -/
def typeName : P Unit := do
  extras
  let start ← position
  let name ← single (qualified "type_identifier" "nested_type_identifier")
  leave (← extend "generic_type" start (inField "name" name)
    (label "type_arguments" typeArguments) <|> pure name)

/-- Names of types that every program has. -/
def predefinedTypes : List String :=
  ["any", "number", "boolean", "string", "symbol", "void", "unknown", "never", "object"]

/-- Words that are types by themselves. -/
def literalTypes : List String := ["true", "false", "null", "undefined"]

/-- A module imported by a call, with accesses and further calls. -/
def importedType : P Unit := do
  extras
  let start ← position
  let first ← single (keywordNode "import" "import")
  leave (← iterate (link start) first)
where
  /-- An access or a call. -/
  link (start : Nat) (left : Node) : P Node := single do
    let called := (← nextMark) = "("
    let rest ← collected do
      if called then label "arguments" (node "arguments" (holed "(" innerExpression ")"))
      else
        mark "."
        label "property" (anyName "property_identifier")
    finish (if called then "call_expression" else "member_expression") start
      ({ left with field := some (if called then "function" else "object") } :: rest)

/-- The subject of a type query: a name or an imported module with accesses and calls. -/
def querySubject : P Unit := do
  extras
  let start ← position
  let first ← single (keywordNode "import" "import" <|> anyName "identifier")
  leave (← iterate (fun left => choice [access start left, element start left, result start left])
    first)
  perhaps typeArguments
where
  /-- A member of what is on the left. -/
  access (start : Nat) (left : Node) : P Node :=
    extend "member_expression" start (inField "object" left) do
      mark "." <|> mark "?."
      label "property" <|
        anyName "property_identifier" <|> leaf "private_property_identifier" privateName
  /-- An element of what is on the left. -/
  element (start : Nat) (left : Node) : P Node := do
    ensure !(← lineBreakAhead)
    extend "subscript_expression" start (inField "object" left) do
      symbol "["
      label "index" (stringLiteral <|> leaf "number" number)
      symbol "]"
  /-- The result of what is on the left. -/
  result (start : Nat) (left : Node) : P Node :=
    extend "call_expression" start (inField "function" left) do
      ensure (left.kind != "call_expression")
      label "arguments" (node "arguments" (holed "(" innerExpression ")"))

/-! ### Types -/

/-- Type parameters. -/
def typeParameters : P Unit :=
  node "type_parameters" do
    symbol "<"
    separated parameter (mark ",")
    perhaps (mark ",")
    symbol ">"
where
  /-- A type parameter with its bound and default. -/
  parameter : P Unit :=
    node "type_parameter" do
      perhaps do
        keyword "const"
        ensure (isNameStart (← nextChar))
      label "name" (anyName "type_identifier")
      perhaps do
        keyword "extends" <|> mark ":"
        innerType
      perhaps do
        mark "="
        innerType

/-- A member of a tuple type. -/
def tupleMember : P Unit :=
  choice [
    do
      perhaps (symbol "...")
      anyName "identifier"
      perhaps (mark "?")
      mark ":"
      innerType,
    do
      symbol "..."
      innerType,
    do
      innerType
      perhaps (mark "?")]

/-- The result of a function: a type, or what its return says about an argument. -/
def resultType (mode : Mode) : P Unit :=
  choice [
    node "asserts" do
      keyword "asserts"
      ensure !(← lineBreakAhead)
      ensure ((← nextWord) ∉ ["is", "extends"])
      anyName "identifier"
      perhaps do
        keyword "is"
        call (.type mode),
    node "type_predicate" do
      anyName "identifier"
      keyword "is"
      call (.type mode),
    call (.type mode)]

/-- A function type: parameters, an arrow and a result. -/
def functionType (mode : Mode) : P Unit :=
  node "function_type" do
    perhaps (typeParameters)
    call .parameters
    mark "=>"
    resultType mode

/-- A type of constructors. -/
def constructorType (mode : Mode) : P Unit :=
  node "constructor_type" do
    perhaps (keyword "abstract")
    keyword "new"
    perhaps (typeParameters)
    call .parameters
    mark "=>"
    call (.type mode)

/-- The text of a template up to its closing quote, with `hole` between the braces of every
substitution. -/
def templateBody (substitution : String) (hole : P Unit) : P Unit := do
  symbol "\x60"
  many <| choice [
    leafAtOnce "string_fragment" templateChars,
    leafAtOnce "escape_sequence" escapeAt,
    do
      let start ← position
      let children ← collected do
        symbolAtOnce "$\x7b"
        hole
        symbol "\x7d"
      finish substitution start children]
  symbolAtOnce "\x60"

/-- A type without the brackets that may follow it. -/
def primaryType (mode : Mode) : P Unit := do
  let c ← nextChar
  let w ← nextWord
  if w = "" then
    match c with
    | '(' => functionType mode <|> node "parenthesized_type" do
        symbol "("
        innerType
        symbol ")"
    | '<' => functionType mode
    | '\x7b' => call .objectType
    | '[' => node "tuple_type" (listed "[" tupleMember "]")
    | '\x60' => node "template_literal_type" (templateBody "template_type" innerType)
    | '*' => leaf "existential_type" (exact "*")
    | '?' => node "flow_maybe_type" do
        mark "?"
        call (.typeOperand mode)
    | '"' | '\'' => node "literal_type" stringLiteral
    | _ => node "literal_type" do
        perhaps (choice [mark "-", mark "+"])
        leaf "number" number
  else if w = "typeof" then
    node "type_query" do
      keyword "typeof"
      querySubject
  else if w = "import" then
    importedType
  else if w = "const" then
    keyword w
  else if w = "this" then
    keywordNode "this_type" "this"
  else if w ∈ literalTypes then
    node "literal_type" (keywordNode w w)
  else if w = "unique" then
    (node "predefined_type" do
      keyword "unique"
      keyword "symbol") <|> typeName
  else if w ∈ predefinedTypes then
    node "predefined_type" (keyword w)
  else
    typeName

/-- Types joined by bars or ampersands, perhaps with one in front. -/
def joinedTypes (mode : Mode) : P Unit := do
  perhaps (mark "|" <|> mark "&")
  separated (call (.typeOperand mode)) (mark "|" <|> mark "&")

/-- A type that no operator joins with another: with its prefixes and the brackets after it. -/
def typeOperandBody (mode : Mode) : P Unit := do
  let w ← nextWord
  let prefixed : P Unit :=
    match w with
    | "readonly" => node "readonly_type" do
        keyword w
        call (.typeOperand mode)
    | "keyof" => node "index_type_query" do
        keyword w
        call (.typeOperand mode)
    | "infer" => node "infer_type" do
        keyword w
        anyName "type_identifier"
        perhaps do
          keyword "extends"
          joinedTypes mode
    | "abstract" | "new" => constructorType mode
    | _ => fail
  prefixed <|> do
    primaryType mode
    many do
      if mode.ends then ensure !(← lineBreakAhead)
      symbol "["
      perhaps innerType
      symbol "]"

/-- A type. -/
def typeBody (mode : Mode) : P Unit := do
  joinedTypes mode
  perhaps do
    if mode.ends then ensure !(← lineBreakAhead)
    keyword "extends"
    joinedTypes .inner
    mark "?"
    innerType
    mark ":"
    call (.type mode)

/-- The type of a name, after a colon. -/
def colonType (mode : Mode) : P Unit :=
  node "type_annotation" do
    mark ":"
    call (.type mode)

/-! ### Signatures -/

/-- The value that a name starts with. -/
def initializer (mode : Mode) : P Unit := do
  mark "="
  label "value" (call (.expression mode))

/-- Parameters and result of a function. -/
def callSignature (mode : Mode) : P Unit := do
  perhaps (label "type_parameters" typeParameters)
  label "parameters" (call .parameters)
  perhaps <| label "return_type" <| node "type_annotation" do
    mark ":"
    resultType mode

/-- The arguments of a call. -/
def arguments : P Unit :=
  node "arguments" (holed "(" (innerExpression <|> node "spread_element" do
    symbol "..."
    innerExpression) ")")

/-- What stands in front of a class, a member or a parameter to decorate it. -/
def decorator : P Unit :=
  node "decorator" do
    symbol "@"
    choice [
      decoratorCall,
      node "parenthesized_expression" do
        symbol "("
        decoratorCall
        symbol ")"]
where
  /-- A name with accesses and perhaps arguments. -/
  decoratorCall : P Unit := do
    extras
    let start ← position
    let s ← source
    let subject ← collected do
      anyName "identifier"
    let subject ← iterate (fun (left : List Node) => do
      collected do
        leaveAll left
        mark "."
        anyName "property_identifier") subject
    let stop ← position
    let target :=
      match subject with
      | [n] => n
      | nodes =>
        let last := nodes.length - 1
        nodeOver s "member_expression" start stop
          (nodes.mapIdx fun i n => if i = last then { n with field := some "property" } else n)
    let rest ← collected do
      perhaps do
        perhaps typeArguments
        label "arguments" arguments
    if rest.isEmpty then leave target
    else finish "call_expression" start ({ target with field := some "function" } :: rest)

/-- A parameter. -/
def parameter : P Unit :=
  nodeOfKind do
    many (label "decorator" decorator)
    optionalAccessibility
    optionalOverride
    optionalModifier "readonly"
    label "pattern" (keywordNode "this" "this" <|> call .pattern)
    let mayBeMissing ← succeeds (mark "?")
    perhaps (label "type" (colonType .inner))
    perhaps (initializer .inner)
    return if mayBeMissing then "optional_parameter" else "required_parameter"

/-- A list of parameters. -/
def parametersBody : P Unit := node "formal_parameters" (listed "(" parameter ")")

/-! ### Members of object types -/

/-- A signature for all members whose names have a type, or a mapping from names to types. -/
def indexSignature (mode : Mode) : P Unit :=
  node "index_signature" do
    perhaps do
      perhaps (mark "-" <|> mark "+")
      keyword "readonly"
    symbol "["
    choice [
      do
        label "name" (anyName "identifier")
        mark ":"
        label "index_type" innerType,
      node "mapped_type_clause" do
        label "name" (anyName "type_identifier")
        keyword "in"
        label "type" innerType
        perhaps do
          keyword "as"
          label "alias" innerType]
    symbol "]"
    label "type" <| choice [
      colonType mode,
      signed "omitting_type_annotation" "-?:",
      signed "adding_type_annotation" "+?:",
      signed "opting_type_annotation" "?:"]
where
  /-- A type after a mark that adds or removes a modifier. -/
  signed (kind text : String) : P Unit :=
    node kind do
      symbol text
      call (.type mode)

/-- A method without body. -/
def methodSignature (mode : Mode) : P Unit :=
  node "method_signature" do
    optionalAccessibility
    optionalModifier "static"
    optionalOverride
    optionalModifier "readonly"
    optionalModifier "async"
    methodPrefix
    label "name" propertyName
    perhaps (mark "?")
    callSignature mode

/-- A property of an object type. -/
def propertySignature (mode : Mode) : P Unit :=
  node "property_signature" do
    optionalAccessibility
    optionalModifier "static"
    optionalOverride
    optionalModifier "readonly"
    label "name" propertyName
    perhaps (mark "?")
    perhaps (label "type" (colonType mode))

/-- A member of an object type. -/
def typeMember (mode : Mode) : P Unit :=
  choice [
    indexSignature mode,
    node "construct_signature" do
      perhaps (modifier (keyword "abstract"))
      keyword "new"
      perhaps typeParameters
      call .parameters
      perhaps (colonType mode),
    node "call_signature" (callSignature mode),
    methodSignature mode,
    propertySignature mode]

/-- An object type, or the body of an interface. -/
def objectTypeBody : P Unit :=
  node "object_type" do
    symbol "\x7b"
    perhaps (mark "," <|> symbol ";")
    perhaps do
      separated (typeMember .ending) separator
      perhaps separator
    symbol "\x7d"
where
  /-- What stands between two members. -/
  separator : P Unit := mark "," <|> semicolon false

end ScriptGrammar

end CodeSurvey
