import CodeSurvey.Parsing.C.Rule

/-!
# C and C++: types and declarators

A declaration begins with specifiers, which name a type, and goes on with declarators, which wrap
the declared name in pointers, references, arrays, parentheses and parameter lists.
-/

namespace CodeSurvey

namespace CGrammar

open Parse

/-- An expression. -/
def expression : P Unit := call .expression

/-! ### Attributes and modifiers -/

/-- The arguments of a call or attribute. -/
def argumentList (plus : Bool) : P Unit :=
  node "argument_list" <| parenthesized <| commaList <| choice [
    call .initializerList,
    call .block,
    do
      perhaps (keyword "__extension__")
      extras
      let start ← position
      let n ← single expression
      if plus && (← nextMark) = "..." then
        leave (← extend "parameter_pack_expansion" start n (mark "..."))
      else leave n]

/-- An attribute in double parentheses. -/
def attributeSpecifier (plus : Bool) : P Unit :=
  node "attribute_specifier" do
    keywords ["__attribute__", "__attribute"]
    parenthesized (argumentList plus)

/-- Attributes in double brackets. -/
def attributeDeclaration (plus : Bool) : P Unit :=
  node "attribute_declaration" do
    symbol "[["
    perhaps do
      keyword "using"
      identifier plus
      mark ":"
    separated (node "attribute" do
      perhaps do
        identifier plus
        mark "::"
        ensure ((← nextMark) = "")
      leaf "identifier" word
      perhaps (argumentList plus)) (mark ",")
    symbol "]]"

/-- Attributes in either form. -/
def attributes (plus : Bool) : P Unit :=
  many (attributeSpecifier plus <|> attributeDeclaration plus)

/-- A word that tells how a type may be used. -/
def typeQualifier (plus : Bool) : P Unit :=
  (node "type_qualifier" <| keywords <|
    ["const", "volatile", "restrict", "__restrict__", "__restrict", "__extension__", "_Atomic",
      "_Noreturn", "noreturn", "_Nonnull", "constexpr"] ++
    if plus then ["mutable", "constinit", "consteval"] else []) <|>
  node "alignas_qualifier" do
    keywords ["alignas", "_Alignas"]
    parenthesized (expression <|> call .descriptor)

/-- What may stand around the type of a declaration. -/
def modifier (plus : Bool) : P Unit := choice [
  node "storage_class_specifier" <| keywords <|
    ["extern", "static", "register", "inline", "thread_local", "__inline", "__inline__",
      "__forceinline", "__thread"] ++ if plus then [] else ["auto"],
  typeQualifier plus,
  attributeSpecifier plus,
  attributeDeclaration plus,
  node "ms_declspec_modifier" do
    keyword "__declspec"
    parenthesized (identifier plus),
  if plus then lexicon.keywordNode "virtual" "virtual" else fail]

/-- The way a function is called, in front of its declarator. -/
def callModifier : P Unit :=
  node "ms_call_modifier" <|
    keywords ["__cdecl", "__clrcall", "__stdcall", "__fastcall", "__thiscall", "__vectorcall"]

/-! ### Type specifiers -/

/-- A basic type. -/
def basicType : P Unit := do
  extras
  let start ← position
  let words ← collected <| atLeastOne do
    let w ← nextWord
    if w ∈ primitiveTypes then leaf "primitive_type" word else keywords sizeWords
  match words with
  | [n] => if n.named then leave n else finish "sized_type_specifier" start words
  | words => finish "sized_type_specifier" start words

/-- The classes that a class is derived from. -/
def baseClasses : P Unit :=
  node "base_class_clause" do
    mark ":"
    separated (do
      attributes true
      many <| choice [
        node "access_specifier" (keywords ["public", "private", "protected"]),
        lexicon.keywordNode "virtual" "virtual"]
      typeName true
      perhaps (mark "...")) (mark ",")

/-- A structure, union or class. -/
def classSpecifier (plus : Bool) : P Unit := nodeOfKind do
  let w ← nextWord
  ensure (w ∈ ["struct", "union"] || (plus && w = "class"))
  keyword w
  many (attributeSpecifier plus <|> attributeDeclaration plus <|> modifierWithParentheses)
  (do
    label "name" (typeName plus)
    if plus then
      perhaps (node "virtual_specifier" (keyword "final"))
      perhaps baseClasses
    perhaps (label "body" (call .memberList))) <|> do
    if plus then perhaps baseClasses
    label "body" (call .memberList)
  perhaps (attributeSpecifier plus)
  return w ++ "_specifier"
where
  /-- A modifier whose meaning stands in parentheses. -/
  modifierWithParentheses : P Unit := choice [
    node "alignas_qualifier" do
      keywords ["alignas", "_Alignas"]
      parenthesized (expression <|> call .descriptor),
    node "ms_declspec_modifier" do
      keyword "__declspec"
      parenthesized (identifier plus)]

/-- A part of a text that depends on conditions, with the items that the conditions govern. -/
def conditional (items : P Unit) : P Unit :=
  nodeOfKind do
    let word ← beginning
    many items
    alternativesUpTo ((← source).size + 1)
    directive "#endif" ["endif"]
    return if word = "if" then "preproc_if" else "preproc_ifdef"
where
  /-- A directive of one of the given words. -/
  directive (kind : String) (words : List String) : P Unit := do
    symbol "#"
    among lineExtra (keywords words)
    ensure (kind != "")
  /-- The condition, and the line break behind it. -/
  condition : P Unit := among lineExtra do
    label "condition" (many (call .conditionToken))
    extras
    perhaps (scan (exact "\n"))
  /-- The first condition. -/
  beginning : P String := do
    symbol "#"
    let word ← among lineExtra nextWord
    ensure (word ∈ ["if", "ifdef", "ifndef"])
    among lineExtra (keyword word)
    condition
    return word
  /-- What applies if the condition does not, at most `depth` times. -/
  alternativesUpTo : (depth : Nat) → P Unit
    | 0 => fail
    | depth + 1 => perhaps <| label "alternative" <| nodeOfKind do
      symbol "#"
      let word ← among lineExtra nextWord
      ensure (word ∈ ["elif", "elifdef", "elifndef", "else"])
      among lineExtra (keyword word)
      condition
      many items
      alternativesUpTo depth
      return "preproc_" ++ word

/-- An enumeration. -/
def enumSpecifier (plus : Bool) : P Unit :=
  node "enum_specifier" do
    keyword "enum"
    perhaps (keywords ["class", "struct"])
    attributes plus
    (do
      label "name" (typeName plus)
      perhaps base
      perhaps enumerators) <|> do
      perhaps base
      enumerators
    perhaps (attributeSpecifier plus)
where
  /-- The type of the values. -/
  base : P Unit := do
    mark ":"
    label "base" (basicType <|> typeName plus)
  /-- The values. -/
  enumerators : P Unit :=
    label "body" <| node "enumerator_list" do
      mark "\x7b"
      many <| (conditional entry) <|> entry
      mark "\x7d"
  /-- A value with the comma behind it. -/
  entry : P Unit := do
    node "enumerator" do
      label "name" (identifier plus)
      attributes plus
      perhaps do
        mark "="
        label "value" expression
    perhaps (mark ",")

/-- What names the type of a declaration. -/
def typeSpecifier (plus : Bool) : P Unit := do
  match ← nextWord with
  | "enum" => enumSpecifier plus
  | "struct" | "union" => classSpecifier plus
  | "class" => if plus then classSpecifier plus else plain
  | "auto" => if plus then node "placeholder_type_specifier" auto else fail
  | "decltype" =>
    if plus then
      node "decltype" do
        keyword "decltype"
        parenthesized (auto <|> expression)
    else plain
  | "typename" =>
    if plus then
      node "dependent_type" do
        keyword "typename"
        typeName true
    else plain
  | _ => basicType <|> plain
where
  /-- The word for a type that is inferred. -/
  auto : P Unit := lexicon.keywordNode "auto" "auto"
  /-- A type with a name. -/
  plain : P Unit :=
    if plus then do
      extras
      let start ← position
      let n ← single (typeName true)
      (do
        leave (← extend "placeholder_type_specifier" start (inField "constraint" n) auto)) <|>
        leave n
    else
      (node "macro_type_specifier" do
        label "name" (identifier false)
        parenthesized (label "type" (call .descriptor))
        ensure ((← nextMark) ∈ ["", "*"])) <|> typeName false

/-- A type with what may stand around it. -/
def specifiers (plus : Bool) : P Unit := do
  many (modifier plus)
  label "type" (typeSpecifier plus)
  many (modifier plus)

/-- A type on its own. -/
def descriptorBody (plus : Bool) : P Unit :=
  node "type_descriptor" do
    many (typeQualifier plus)
    label "type" (typeSpecifier plus)
    many (typeQualifier plus)
    perhaps (label "declarator" (call .abstractDeclarator))

/-! ### Declarators -/

/-- What a template requires of its parameters. -/
def requiresClause : P Unit :=
  node "requires_clause" do
    keyword "requires"
    separated term (mark "&&" <|> mark "||")
where
  /-- A single requirement. -/
  term : P Unit := choice [
    node "parenthesized_expression" (parenthesized expression),
    do
      ensure ((← nextWord) = "requires")
      call .operand,
    typeName true,
    keywords ["true", "false"]]

/-- What may follow the parameters of a function. -/
def functionSuffix (plus : Bool) : P Unit := choice [
  attributeSpecifier plus,
  node "gnu_asm_expression" do
    keywords ["asm", "__asm__", "__asm"]
    parenthesized (stringLiteral plus),
  if plus then choice [
    typeQualifier plus,
    node "ref_qualifier" (mark "&" <|> mark "&&"),
    node "noexcept" do
      keyword "noexcept"
      perhaps (parenthesized expression),
    node "throw_specifier" do
      keyword "throw"
      parenthesized (commaList (call .descriptor)),
    attributeDeclaration plus,
    node "trailing_return_type" do
      mark "->"
      call .descriptor,
    node "virtual_specifier" (keywords ["final", "override"]),
    requiresClause]
  else fail]

/-- Parameters, or the size of an array, behind a declarator. -/
def suffix (plus : Bool) (kindPrefix : String) : P String := do
  if (← nextMark) = "(" then
    label "parameters" (call .parameters)
    many (functionSuffix plus)
    return kindPrefix ++ "function_declarator"
  else
    mark "["
    many (keyword "static" <|> typeQualifier plus)
    perhaps <| label "size" <| (do
      mark "*"
      ensure ((← nextMark) = "]")) <|> expression
    mark "]"
    return kindPrefix ++ "array_declarator"

/-- One more suffix of a declarator. -/
def suffixLink (plus : Bool) (kindPrefix : String) (start : Nat) (left : Node) : P Node :=
  single do
    let (kind, nodes) ← gathered (suffix plus kindPrefix)
    finish kind start (inField "declarator" left :: nodes)

/-- Attributes behind a declarator. -/
def attributedLink (plus : Bool) (start : Nat) (left : Node) : P Node :=
  single do
    let nodes ← collected (atLeastOne (attributeDeclaration plus))
    finish "attributed_declarator" start (left :: nodes)

/-- The declared name. -/
def declaredName (plus : Bool) : Naming → P Unit
  | .type => typeIdentifier plus <|> leaf "primitive_type" primitive
  | .member =>
    if plus then choice [operatorName, memberTemplate, fieldIdentifier true]
    else fieldIdentifier false
  | .value =>
    if plus then qualified (choice [operatorName, destructorName, templateFunction, identifier true])
    else identifier false
where
  /-- A basic type that is defined once more. -/
  primitive (s : Source) (i : Nat) : Option Nat :=
    (word s i).bind fun j => if s.slice i j ∈ primitiveTypes then some j else none
  /-- A function of a template with its arguments. -/
  templateFunction : P Unit :=
    node "template_function" do
      label "name" (identifier true)
      templateArguments
      ensure ((← nextMark) = "(")
  /-- A member function of a template with its arguments. -/
  memberTemplate : P Unit :=
    node "template_method" do
      label "name" (fieldIdentifier true)
      templateArguments

/-- A declarator. -/
def declaratorBody (plus : Bool) (naming : Naming) : P Unit := do
  let inner : P Unit := call (.declarator naming)
  match ← nextMark with
  | "*" => node "pointer_declarator" do
      mark "*"
      many (typeQualifier plus <|> callModifier)
      label "declarator" inner
  | "&" | "&&" => node "reference_declarator" do
      ensure plus
      mark "&" <|> mark "&&"
      inner
  | "..." => node "variadic_declarator" do
      ensure plus
      mark "..."
      perhaps (identifier true)
  | _ =>
    extras
    let start ← position
    let base ← single <| choice [
      node "parenthesized_declarator" (parenthesized do
        many callModifier
        inner),
      pointerToMember inner,
      do
        many callModifier
        declaredName plus naming]
    leave (← iterate (fun left => attributedLink plus start left <|> suffixLink plus "" start left)
      base)
where
  /-- A pointer to a member of a class. -/
  pointerToMember (inner : P Unit) : P Unit :=
    node "pointer_type_declarator" do
      ensure plus
      separated (lexicon.nameExcept "namespace_identifier" (reservedWords true)) (mark "::")
      mark "::"
      mark "*"
      inner

/-- A declarator without a name. -/
def abstractDeclaratorBody (plus : Bool) : P Unit := do
  match ← nextMark with
  | "*" => node "abstract_pointer_declarator" do
      mark "*"
      many (typeQualifier plus)
      perhaps (label "declarator" (call .abstractDeclarator))
  | "&" | "&&" => node "abstract_reference_declarator" do
      ensure plus
      mark "&" <|> mark "&&"
      perhaps (call .abstractDeclarator)
  | _ =>
    extras
    let start ← position
    let base ← collected <| perhaps <| node "abstract_parenthesized_declarator" <|
      parenthesized (call .abstractDeclarator)
    match base with
    | [n] => leave (← iterate (suffixLink plus "abstract_" start) n)
    | _ =>
      let first ← single (nodeOfKind (suffix plus "abstract_"))
      leave (← iterate (suffixLink plus "abstract_" start) first)

/-! ### Parameters -/

/-- A parameter; `angled` tells whether it is one of a template. -/
def parameter (plus angled : Bool) : P Unit := nodeOfKind do
  attributes plus
  perhaps (if plus then keyword "this" else fail)
  specifiers plus
  let declarators ← collected <| perhaps <|
    label "declarator" <| call (.declarator .value) <|> call .abstractDeclarator
  leaveAll declarators
  attributes plus
  let isOptional ← succeeds do
    ensure plus
    mark "="
    label "default_value" <|
      call .initializerList <|> if angled then call (.binary 0 true) else expression
  let isVariadic := declarators.any fun d =>
    d.preorder.any fun n => n.kind = "variadic_declarator"
  return if isOptional then "optional_parameter_declaration"
    else if isVariadic then "variadic_parameter_declaration"
    else "parameter_declaration"

/-- The parameters of a function. -/
def parametersBody (plus : Bool) : P Unit :=
  node "parameter_list" <| parenthesized do
    commaList (parameter plus false <|> mark "...")
    perhaps (mark "...")

/-- The parameters of a template, whose nesting `depth` bounds. -/
def templateParametersUpTo : (depth : Nat) → P Unit
  | 0 => fail
  | depth + 1 =>
    node "template_parameter_list" do
      mark "<"
      commaList <| choice [
        nodeOfKind do
          perhaps <| do
            keyword "template"
            templateParametersUpTo depth
            perhaps requiresClause
          keywords ["typename", "class"]
          perhaps (mark "...")
          perhaps (typeIdentifier true)
          let isOptional ← succeeds do
            mark "="
            label "default_type" (call .descriptor)
          ensure ((← source).charAt (← position) != ':')
          ensure ((← nextMark) ∈ [",", ">", ">>", ">>=", ">="])
          return if isOptional then "optional_type_parameter_declaration"
            else "type_parameter_declaration",
        parameter true true]
      symbol ">"

/-- The parameters of a template. -/
def templateParameters : P Unit := do
  templateParametersUpTo ((← source).size + 1)

end CGrammar

end CodeSurvey
