import CodeSurvey.Parsing.C.Expression

/-!
# C and C++: declarations

Specifiers with a function's declarator and a body make a definition; specifiers with any
declarators and a semicolon make a declaration.  C++ adds functions without a type, which are
constructors, destructors and conversions, and what stands in classes, namespaces and templates.
-/

namespace CodeSurvey

namespace CGrammar

open Parse

/-- An item of a file or block. -/
def item : P Unit := call .item

/-- Items in braces. -/
def declarationList : P Unit :=
  label "body" <| node "declaration_list" do
    mark "\x7b"
    many item
    mark "\x7d"

/-! ### Bodies of functions -/

/-- The handlers behind a block whose errors are handled. -/
def handlers : P Unit :=
  atLeastOne <| node "catch_clause" do
    keyword "catch"
    label "parameters" (call .parameters)
    label "body" (call .block)

/-- A block whose errors are handled. -/
def tryStatement : P Unit :=
  node "try_statement" do
    keyword "try"
    label "body" (call .block)
    handlers

/-- What stands for the body of a function that is made, left out, or left to derived classes. -/
def bodyClause : P Unit := nodeOfKind do
  mark "="
  let w ← nextWord
  let kind ← if w = "default" then pure "default_method_clause"
    else if w = "delete" then pure "delete_method_clause"
    else fail
  keyword w
  mark ";"
  return kind

/-- The values that the members of a new object begin with. -/
def memberInitializers : P Unit :=
  node "field_initializer_list" do
    mark ":"
    separated (node "field_initializer" do
      qualified (templateMember <|> fieldIdentifier true)
      call .initializerList <|> argumentList true
      perhaps (mark "...")) (mark ",")
where
  /-- A base class that is a template. -/
  templateMember : P Unit :=
    node "template_method" do
      label "name" (fieldIdentifier true)
      templateArguments

/-! ### Declarations with a type -/

/-- The kind of a declarator is a function's once its wrapping is taken off, looking at `fuel`
layers. -/
def declaresFunction : (fuel : Nat) → Node → Bool
  | 0, _ => false
  | fuel + 1, n =>
    match n.kind with
    | "function_declarator" => true
    | "attributed_declarator" => n.namedChildren.head?.any (declaresFunction fuel)
    | "pointer_declarator" | "reference_declarator" | "array_declarator"
    | "parenthesized_declarator" =>
      ((n.childByField? "declarator").or n.namedChildren.getLast?).any (declaresFunction fuel)
    | _ => false

/-- The values that the parts of a value are bound to. -/
def structuredBinding (plus : Bool) : P Unit :=
  (node "reference_declarator" do
    ensure plus
    mark "&" <|> mark "&&"
    names) <|> do
  ensure plus
  names
where
  /-- The names of the parts. -/
  names : P Unit :=
    node "structured_binding_declarator" do
      mark "["
      separated (identifier true) (mark ",")
      mark "]"

/-- A declarator with the value that the declared thing begins with. -/
def initialized (plus isAuto : Bool) : P Unit :=
  label "declarator" do
    extras
    let start ← position
    let declarator ← single (call (.declarator .value) <|> do
      ensure isAuto
      structuredBinding plus)
    perhaps <| node "gnu_asm_expression" do
      keywords ["asm", "__asm__", "__asm"]
      parenthesized (stringLiteral plus)
    let m ← nextMark
    if m = "=" then
      leave (← extend "init_declarator" start (inField "declarator" declarator) do
        mark "="
        label "value" (call .initializerList <|> expression))
    else if plus && m ∈ ["(", "\x7b"] then
      leave (← extend "init_declarator" start (inField "declarator" declarator) do
        label "value" (call .initializerList <|> argumentList true))
    else leave declarator

/-- A function with its body, behind its specifiers.  What has a body is a function even if its
declarator is not one's, which `lenient` allows for. -/
def functionRest (plus : Bool) (naming : Naming) (lenient : Bool := false) : P String := do
  perhaps callModifier
  let declarator ← single (label "declarator" (call (.declarator naming)))
  let s ← source
  let isFunction := declaresFunction (s.size + 1) declarator
  ensure (isFunction || lenient)
  leave declarator
  if plus then
    choice [label "body" (call .block <|> tryStatement), bodyClause]
  else
    if isFunction then many oldParameter
    label "body" (call .block)
  return "function_definition"
where
  /-- The type of a parameter, behind the list of their names. -/
  oldParameter : P Unit :=
    node "declaration" do
      specifiers false
      separated (label "declarator" (call (.declarator .value))) (mark ",")
      mark ";"

/-- A function with its body, or variables. -/
def definitionOrDeclaration (plus : Bool) : P Unit := nodeOfKind do
  perhaps callModifier
  let (_, nodes) ← gathered (specifiers plus)
  leaveAll nodes
  let isAuto := nodes.any (·.kind = "placeholder_type_specifier")
  choice [
    functionRest plus .value,
    do
      separated (initialized plus isAuto) (mark ",")
      attributes plus
      mark ";"
      return "declaration",
    functionRest plus .value true]

/-- A type without anything that is of the type. -/
def lonelyType (plus : Bool) : P Unit := do
  many (modifier plus)
  ensure ((← nextWord) ∈ ["struct", "union", "enum", "class"])
  typeSpecifier plus
  mark ";"

/-- New names for types. -/
def typeDefinition (plus : Bool) : P Unit :=
  node "type_definition" do
    perhaps (keyword "__extension__")
    keyword "typedef"
    specifiers plus
    separated (label "declarator" (call (.declarator .type))) (mark ",")
    attributes plus
    mark ";"

/-- Declarations for another language. -/
def linkage (plus : Bool) : P Unit :=
  node "linkage_specification" do
    keyword "extern"
    label "value" (stringLiteral plus)
    declarationList <|> label "body" item

/-! ### Declarations of C++ without a type -/

/-- What may stand in front of a constructor or conversion. -/
def constructorModifier : P Unit :=
  (node "explicit_function_specifier" do
    keyword "explicit"
    perhaps (parenthesized expression)) <|> modifier true

/-- What may follow the declarator of a constructor or conversion; the value is the kind of the
whole. -/
def bodyOrEnd : P String := choice [
  do
    mark ";"
    return "declaration",
  do
    bodyClause
    return "function_definition",
  do
    node "pure_virtual_clause" do
      mark "="
      leaf "number_literal" (exact "0")
      mark ";"
    return "function_definition",
  do
    perhaps memberInitializers
    label "body" (call .block)
    return "function_definition",
  do
    label "body" <| node "try_statement" do
      keyword "try"
      perhaps memberInitializers
      label "body" (call .block)
      handlers
    return "function_definition"]

/-- A constructor or destructor. -/
def constructor : P Unit := nodeOfKind do
  many constructorModifier
  let declarator ← single (label "declarator" (call (.declarator .value)))
  ensure (declarator.kind = "function_declarator" &&
    (declarator.childByField? "declarator").any fun n =>
      n.kind ∈ ["identifier", "qualified_identifier", "destructor_name", "template_function",
        "operator_name"])
  leave declarator
  bodyOrEnd

/-- A conversion to another type. -/
def conversion : P Unit := nodeOfKind do
  many constructorModifier
  label "declarator" <| qualified <| node "operator_cast" do
    keyword "operator"
    specifiers true
    label "declarator" (call .abstractDeclarator)
  bodyOrEnd

/-- A name that is made known here. -/
def usingDeclaration : P Unit :=
  (node "using_declaration" do
    keyword "using"
    perhaps (keywords ["namespace", "enum", "typename"])
    separated (qualified (operatorName <|> identifier true)) (mark ",")
    mark ";") <|>
  node "alias_declaration" do
    keyword "using"
    label "name" (typeIdentifier true)
    attributes true
    mark "="
    label "type" (call .descriptor)
    mark ";"

/-- A namespace, or another name for one. -/
def namespaceDefinition : P Unit := nodeOfKind do
  perhaps (keyword "inline")
  keyword "namespace"
  attributes true
  let named ← succeeds <| label "name" <| separated (do
    perhaps (keyword "inline")
    lexicon.nameExcept "namespace_identifier" (reservedWords true)) (mark "::")
  (do
    ensure named
    mark "="
    qualified (identifier true)
    mark ";"
    return "namespace_alias_definition") <|> do
    declarationList
    return "namespace_definition"

/-- A condition on types that has a name. -/
def conceptDefinition : P Unit :=
  node "concept_definition" do
    keyword "concept"
    label "name" (identifier true)
    mark "="
    expression
    mark ";"

/-- A condition that is checked before the program runs. -/
def staticAssertion : P Unit :=
  node "static_assert_declaration" do
    keyword "static_assert"
    parenthesized do
      label "condition" expression
      perhaps do
        mark ","
        label "message" expression
    mark ";"

/-- Someone that may use the private members of a class. -/
def friendDeclaration : P Unit :=
  node "friend_declaration" do
    perhaps (keyword "constexpr")
    keyword "friend"
    choice [
      definitionOrDeclaration true,
      do
        perhaps (keywords ["class", "struct", "union", "typename"])
        typeName true
        mark ";",
      constructor]

/-- Something with types or values as parameters, whose nesting `depth` bounds. -/
def templateUpTo : (depth : Nat) → P Unit
  | 0 => fail
  | depth + 1 => (node "template_declaration" do
      keyword "template"
      label "parameters" templateParameters
      perhaps requiresClause
      choice [
        templateUpTo depth,
        usingDeclaration,
        conceptDefinition,
        friendDeclaration,
        definitionOrDeclaration true,
        lonelyType true,
        conversion,
        constructor]) <|>
    node "template_instantiation" do
      keyword "template"
      choice [lonelyType true, definitionOrDeclaration true]

/-- Something with types or values as parameters. -/
def template : P Unit := do
  templateUpTo ((← source).size + 1)

/-! ### Classes -/

/-- Who may use the members behind it. -/
def accessLine : P Unit := do
  node "access_specifier" (keywords ["public", "private", "protected"])
  mark ":"

/-- Variables and functions of a class, behind their specifiers. -/
def fieldsRest (plus : Bool) : P String := do
  commaList do
    perhaps (label "declarator" (call (.declarator .member)))
    perhaps <| node "bitfield_clause" do
      mark ":"
      expression
    perhaps <| label "default_value" <|
      (if plus then call .initializerList else fail) <|> do
      mark "="
      call .initializerList <|> expression
  attributes plus
  mark ";"
  return "field_declaration"

/-- A variable or function of a class. -/
def field (plus : Bool) : P Unit := nodeOfKind do
  perhaps (keyword "__extension__")
  specifiers plus
  if plus then
    choice [functionRest true .member, fieldsRest true, functionRest true .member true]
  else fieldsRest false

/-- A member of a class; `line` reads a directive. -/
def memberBody (plus : Bool) (line : P Unit) : P Unit := do
  let w ← nextWord
  if (← nextMark) = "#" then line
  else if !plus then mark ";" <|> field false
  else
    match w with
    | "public" | "private" | "protected" => accessLine
    | "template" => template
    | "friend" => friendDeclaration
    | "using" => usingDeclaration
    | "typedef" => typeDefinition true
    | "static_assert" => staticAssertion
    | _ => choice [mark ";", constructor, conversion, friendDeclaration, field true]

/-- The members of a class. -/
def memberListBody : P Unit :=
  node "field_declaration_list" do
    mark "\x7b"
    many (call .member)
    mark "\x7d"

end CGrammar

end CodeSurvey
