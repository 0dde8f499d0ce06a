import CodeSurvey.Parsing.Lexeme
import CodeSurvey.Parsing.Token

/-!
# C and C++: rules, tokens and names

One grammar reads both languages; `plus` tells whether the additions of C++ are read.  This file
holds the rules through which the grammar refers to itself, its tokens, and names, which in C++
may lead through scopes and carry template arguments.
-/

namespace CodeSurvey

namespace CGrammar

/-- What the name inside a declarator is, which decides the kind of its node. -/
inductive Naming where
  /-- A variable or function. -/
  | value
  /-- A member of a class. -/
  | member
  /-- A type. -/
  | type
deriving DecidableEq, BEq, Hashable, Repr, Inhabited

/-- The rules of the grammar.  In an `angled` operand a closing angle bracket is no operator. -/
inductive Rule where
  | expression
  | binary (level : Nat) (angled : Bool)
  | operand
  | primary
  | initializerList
  | templateArguments
  | descriptor
  | declarator (naming : Naming)
  | abstractDeclarator
  | parameters
  | memberList
  | block
  | statement
  | item
  | member
  | conditionToken
deriving DecidableEq, BEq, Hashable, Repr, Inhabited

/-- A parse by the grammar. -/
abbrev P := Parse Rule

open Parse

/-! ### Tokens -/

/-- A name or keyword. -/
def word (s : Source) (i : Nat) : Option Nat :=
  if (s.charAt i).isDigit then none else span (fun c => Lexeme.isWordChar c || c = '$') s i

/-- The marks and words of C and C++. -/
def lexicon : Lexicon where
  marks :=
    ["<<=", ">>=", "...", "->*", "<=>", "->", "::", "==", "!=", "<=", ">=", "&&", "||", "++", "--",
      "+=", "-=", "*=", "/=", "%=", "&=", "|=", "^=", "<<", ">>", ".*", "=", "<", ">", "+", "-",
      "*", "/", "%", "&", "|", "^", "~", "!", "?", ":", ".", ",", ";", "(", ")", "[", "]", "\x7b",
      "\x7d", "#"].map String.toList
  word := word

/-- The words for basic types. -/
def primitiveTypes : List String :=
  ["bool", "char", "int", "float", "double", "void", "size_t", "ssize_t", "ptrdiff_t", "intptr_t",
    "uintptr_t", "charptr_t", "nullptr_t", "max_align_t", "int8_t", "int16_t", "int32_t",
    "int64_t", "uint8_t", "uint16_t", "uint32_t", "uint64_t", "char8_t", "char16_t", "char32_t",
    "char64_t"]

/-- The words that make a basic type longer or shorter. -/
def sizeWords : List String := ["signed", "unsigned", "long", "short"]

/-- Words of C that are never names. -/
def reservedInC : List String :=
  ["auto", "break", "case", "const", "continue", "default", "do", "else", "enum", "extern", "for",
    "goto", "if", "inline", "register", "restrict", "return", "signed", "sizeof", "static",
    "struct", "switch", "typedef", "union", "unsigned", "long", "short", "volatile", "while",
    "__attribute__", "__extension__", "_Generic"]

/-- Further words of C++ that are never names. -/
def reservedInPlus : List String :=
  ["and", "and_eq", "bitand", "bitor", "catch", "class", "co_await", "co_return", "co_yield",
    "compl", "concept", "consteval", "constexpr", "constinit", "decltype", "delete", "explicit",
    "false", "friend", "mutable", "namespace", "new", "noexcept", "not", "not_eq", "nullptr",
    "operator", "or", "or_eq", "private", "protected", "public", "requires", "static_assert",
    "template", "this", "throw", "true", "try", "typename", "using", "virtual", "xor", "xor_eq"]

/-- Words that are never names. -/
def reservedWords (plus : Bool) : List String :=
  if plus then reservedInC ++ reservedInPlus else reservedInC

/-- A line break that a backslash hides. -/
def hiddenBreak (s : Source) (i : Nat) : Option Nat :=
  if s.startsWith i ['\\', '\n'] then some (i + 2)
  else if s.startsWith i ['\\', '\r', '\n'] then some (i + 3)
  else none

/-- Goes on in a comment that ends with its line, looking at `fuel` characters; a hidden line
break does not end it. -/
def lineCommentEnd (s : Source) : (fuel : Nat) → Nat → Nat
  | 0, i => i
  | fuel + 1, i =>
    if i ≥ s.size || s.charAt i = '\n' then i
    else lineCommentEnd s fuel ((hiddenBreak s i).getD (i + 1))

/-- A comment. -/
def comment (s : Source) (i : Nat) : Option Nat :=
  if s.startsWith i ['/', '/'] then some (lineCommentEnd s (s.size - i) i)
  else Lexeme.blockComment s i

/-- What stands between tokens. -/
def extra : Extras := fun s i =>
  match span Lexeme.isBlankChar s i with
  | some j => some (none, j)
  | none =>
    match hiddenBreak s i with
    | some j => some (none, j)
    | none => (comment s i).map fun j => (some "comment", j)

/-- What stands between the tokens of a directive, which ends with its line. -/
def lineExtra : Extras := fun s i =>
  if s.charAt i = '\n' then none
  else match span (fun c => c != '\n' && Lexeme.isBlankChar c) s i with
  | some j => some (none, j)
  | none => extra s i

/-- The longest mark at the next token, empty if there is none. -/
def nextMark : P String := lexicon.nextMark

/-- A mark that is the longest one at its place. -/
def mark (text : String) : P Unit := lexicon.mark text

/-- The word at the next token, empty if there is none. -/
def nextWord : P String := lexicon.nextWord

/-- A word in its role as a keyword. -/
def keyword (text : String) : P Unit := lexicon.keyword text

/-- One of some words in its role as a keyword. -/
def keywords (texts : List String) : P Unit := lexicon.keywords texts

/-- Items with commas between them. -/
def commaList (item : P Unit) : P Unit := perhaps (separated item (mark ","))

/-- Items with commas between them and perhaps one at the end. -/
def commaListWithEnd (item : P Unit) : P Unit := do
  commaList item
  perhaps (mark ",")

/-- What stands between parentheses. -/
def parenthesized (p : P Unit) : P Unit := do
  mark "("
  p
  mark ")"

/-! ### Names -/

/-- The name of a variable or function.  Where C expects one, the word for a basic type is a name
too. -/
def identifier (plus : Bool) : P Unit :=
  lexicon.nameExcept "identifier" (reservedWords plus ++ if plus then primitiveTypes else [])

/-- The name of a member. -/
def fieldIdentifier (plus : Bool) : P Unit :=
  lexicon.nameExcept "field_identifier" (reservedWords plus)

/-- The name of a type. -/
def typeIdentifier (plus : Bool) : P Unit :=
  lexicon.nameExcept "type_identifier" (reservedWords plus ++ primitiveTypes)

/-- The arguments of a template. -/
def templateArguments : P Unit := label "arguments" (call .templateArguments)

/-- A template with its arguments, as a type. -/
def templateType : P Unit :=
  node "template_type" do
    label "name" (typeIdentifier true)
    templateArguments

/-- A name behind at most `depth` scopes. -/
def qualifiedUpTo (last : P Unit) : (depth : Nat) → P Unit
  | 0 => last
  | depth + 1 =>
    (node "qualified_identifier" do
      perhaps (label "scope" scope)
      mark "::"
      perhaps (keyword "template")
      label "name" (qualifiedUpTo last depth)) <|> last
where
  /-- What may stand in front of a double colon. -/
  scope : P Unit := choice [
    do
      templateType
      ensure ((← nextMark) = "::"),
    node "decltype" do
      keyword "decltype"
      parenthesized (call .expression),
    lexicon.nameExcept "namespace_identifier" (reservedWords true)]

/-- A name behind any number of scopes. -/
def qualified (last : P Unit) : P Unit := do
  qualifiedUpTo last ((← source).size + 1)

/-- The name of a type. -/
def typeName (plus : Bool) : P Unit :=
  if plus then do
    qualified (templateType <|> typeIdentifier true)
    ensure ((← nextMark) != "::")
  else typeIdentifier false

/-- The name of an operator that a class defines. -/
def operatorName : P Unit :=
  node "operator_name" do
    keyword "operator"
    choice [
      do
        keywords ["new", "delete"]
        perhaps brackets,
      keyword "co_await",
      do
        symbol "\"\""
        identifier true,
      do
        symbol "("
        symbol ")",
      brackets,
      do
        let m ← nextMark
        ensure (m ∉ ["", "(", ")", "[", "]", "\x7b", "\x7d", ";", "#", ":", "::", ".", "?"])
        mark m]
where
  /-- Empty brackets. -/
  brackets : P Unit := do
    mark "["
    mark "]"

/-- The name of a destructor. -/
def destructorName : P Unit :=
  node "destructor_name" do
    mark "~"
    identifier true

/-! ### Literals -/

/-- The end of the letters that may stand in front of a text in quotes. -/
def afterEncoding (s : Source) (i : Nat) : Nat :=
  match s.charAt i with
  | 'u' => if s.charAt (i + 1) = '8' then i + 2 else i + 1
  | 'U' | 'L' => i + 1
  | _ => i

/-- The end of the letters right behind a literal that give it a meaning. -/
def afterSuffix (s : Source) (i : Nat) : Nat :=
  let c := s.charAt i
  if c.isAlpha || c = '_' then s.skipWhile Lexeme.isWordChar i else i

/-- A text in quotes of one sort. -/
def quoted (quote : Char) (s : Source) (i : Nat) : Option Nat :=
  (Lexeme.quoted quote s (afterEncoding s i)).map (afterSuffix s)

/-- A text in quotes that ends with a mark of its own, without any escapes. -/
def rawString (s : Source) (i : Nat) : Option Nat :=
  let j := afterEncoding s i
  if s.startsWith j ['R', '"'] then
    let opening := s.skipWhile (fun c => c != '(' && c != '\n') (j + 2)
    let closing := ')' :: (s.slice (j + 2) opening).toList ++ ['"']
    (s.find? closing opening).map fun k => afterSuffix s (k + closing.length)
  else none

/-- A text in quotes. -/
def stringLiteral (plus : Bool) : P Unit :=
  leaf "string_literal" (quoted '"') <|>
    if plus then leaf "raw_string_literal" rawString else fail

end CGrammar

end CodeSurvey
