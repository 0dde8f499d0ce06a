import CodeSurvey.Parsing.Lexeme
import CodeSurvey.Parsing.Token

/-!
# Java: rules, tokens and types

The rules through which the Java grammar refers to itself, its tokens, and the parts that need no
expressions: names and types.
-/

namespace CodeSurvey

namespace JavaGrammar

/-- The rules of the grammar. -/
inductive Rule where
  | expression
  | binary (level : Nat)
  | operand
  | primary
  | type
  | note
  | elementValue
  | block
  | statement
  | declaration
  | annotationMember
  | classBody
deriving DecidableEq, BEq, Hashable, Repr, Inhabited

/-- A parse by the Java grammar. -/
abbrev P := Parse Rule

open Parse

/-! ### Tokens -/

/-- A name or keyword. -/
def word (s : Source) (i : Nat) : Option Nat :=
  if (s.charAt i).isDigit then none else span (fun c => Lexeme.isWordChar c || c = '$') s i

/-- The marks and words of Java. -/
def lexicon : Lexicon where
  marks :=
    [">>>=", "<<=", ">>=", ">>>", "...", "->", "::", "==", "!=", "<=", ">=", "&&", "||", "++",
      "--", "+=", "-=", "*=", "/=", "%=", "&=", "|=", "^=", "<<", ">>", "=", "<", ">", "+", "-",
      "*", "/", "%", "&", "|", "^", "~", "!", "?", ":", ".", ",", ";", "(", ")", "[", "]", "\x7b",
      "\x7d", "@"].map String.toList
  word := word

/-- Words that are never names. -/
def reservedWords : List String :=
  ["abstract", "assert", "boolean", "break", "byte", "case", "catch", "char", "class", "const",
    "continue", "default", "do", "double", "else", "enum", "extends", "false", "final", "finally",
    "float", "for", "goto", "if", "implements", "import", "instanceof", "int", "interface", "long",
    "native", "new", "null", "package", "private", "protected", "public", "return", "short",
    "static", "strictfp", "super", "switch", "synchronized", "this", "throw", "throws",
    "transient", "true", "try", "void", "volatile", "while"]

/-- What stands between tokens. -/
def extra : Extras := fun s i =>
  match span Lexeme.isBlankChar s i with
  | some j => some (none, j)
  | none =>
    match Lexeme.lineComment s i with
    | some j => some (some "line_comment", j)
    | none => (Lexeme.blockComment s i).map fun j => (some "block_comment", j)

/-- The longest mark at the next token, empty if there is none. -/
def nextMark : P String := lexicon.nextMark

/-- A mark that is the longest one at its place. -/
def mark (text : String) : P Unit := lexicon.mark text

/-- The word at the next token, empty if there is none. -/
def nextWord : P String := lexicon.nextWord

/-- A word in its role as a keyword. -/
def keyword (text : String) : P Unit := lexicon.keyword text

/-- A name. -/
def identifier : P Unit := lexicon.nameExcept "identifier" reservedWords

/-- The name of a type. -/
def typeIdentifier : P Unit := lexicon.nameExcept "type_identifier" reservedWords

/-- Items with commas between them. -/
def commaList (item : P Unit) : P Unit := perhaps (separated item (mark ","))

/-- Items with commas between them and perhaps one at the end. -/
def commaListWithEnd (item : P Unit) : P Unit := do
  commaList item
  perhaps (mark ",")

/-! ### Names -/

/-- One more part of a name. -/
def nameLink (start : Nat) (left : Node) : P Node :=
  extend "scoped_identifier" start (inField "scope" left) do
    mark "."
    label "name" identifier

/-- A name with dots. -/
def name : P Unit := do
  extras
  let start ← position
  leave (← iterate (nameLink start) (← single identifier))

/-! ### Types -/

/-- A type. -/
def type : P Unit := call .type

/-- An annotation. -/
def note : P Unit := call .note

/-- The types that are arguments of a generic type or method. -/
def typeArguments : P Unit :=
  node "type_arguments" do
    mark "<"
    commaList (wildcard <|> type)
    symbol ">"
where
  /-- An unknown type, perhaps with a bound. -/
  wildcard : P Unit :=
    node "wildcard" do
      many note
      mark "?"
      perhaps do
        keyword "extends" <|> lexicon.keywordNode "super" "super"
        type

/-- The names of the basic types and the kinds of their nodes. -/
def basicTypes : List (String × String) :=
  [("void", "void_type"), ("boolean", "boolean_type"), ("byte", "integral_type"),
    ("short", "integral_type"), ("int", "integral_type"), ("long", "integral_type"),
    ("char", "integral_type"), ("float", "floating_point_type"), ("double", "floating_point_type")]

/-- One more part of the name of a type, or its arguments. -/
def typeLink (start : Nat) (left : Node) : P Node := do
  if (← nextMark) = "." then
    extend "scoped_type_identifier" start left do
      mark "."
      many note
      typeIdentifier
  else
    ensure (left.kind != "generic_type")
    extend "generic_type" start left typeArguments

/-- A type without brackets behind it. -/
def simpleType : P Unit := do
  let w ← nextWord
  match basicTypes.lookup w with
  | some "void_type" => lexicon.keywordNode "void_type" w
  | some "boolean_type" => lexicon.keywordNode "boolean_type" w
  | some kind => node kind (keyword w)
  | none =>
    extras
    let start ← position
    leave (← iterate (typeLink start) (← single typeIdentifier))

/-- Empty brackets. -/
def dimensions : P Unit :=
  node "dimensions" <| atLeastOne do
    many note
    mark "["
    mark "]"

/-- A type without annotations in front of it. -/
def plainType : P Unit := do
  extras
  let start ← position
  let element ← single simpleType
  (do
    leave (← extend "array_type" start (inField "element" element) do
      label "dimensions" dimensions)) <|> leave element

/-- A type. -/
def typeBody : P Unit :=
  (do
    ensure ((← nextMark) != "@")
    plainType) <|> node "annotated_type" do
  atLeastOne note
  plainType

/-- The parameters of a generic type or method. -/
def typeParameters : P Unit :=
  node "type_parameters" do
    mark "<"
    separated typeParameter (mark ",")
    symbol ">"
where
  /-- A type parameter, perhaps with bounds. -/
  typeParameter : P Unit :=
    node "type_parameter" do
      many note
      typeIdentifier
      perhaps <| node "type_bound" do
        keyword "extends"
        separated type (mark "&")

end JavaGrammar

end CodeSurvey
