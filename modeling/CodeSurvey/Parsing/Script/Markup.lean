import CodeSurvey.Parsing.Script.Expression

/-!
# Scripts: markup and angle brackets

Markup elements, and what else an operand that begins with `<` can be: a function with type
parameters or, in scripts without markup, a type assertion.
-/

namespace CodeSurvey

namespace ScriptGrammar

open Parse

/-- A name in markup: a name, or a name with hyphens. -/
def markupName (s : Source) (i : Nat) : Option Nat :=
  (name s i).map fun j =>
    if s.charAt j = '-' then s.skipWhile (fun c => isNameChar c || c = '-') j else j

/-- The reference of a character by its number or name. -/
def characterReference (s : Source) (i : Nat) : Option Nat :=
  if s.charAt i != '&' then none
  else
    let hex := s.charAt (i + 2) = 'x' || s.charAt (i + 2) = 'X'
    let (start, stop, limit) :=
      if s.charAt (i + 1) = '#' then
        if hex then (i + 3, s.skipWhile isHexDigit (i + 3), 6)
        else (i + 2, s.skipWhile Char.isDigit (i + 2), 5)
      else (i + 1, s.skipWhile Char.isAlpha (i + 1), 30)
    if start < stop && stop ≤ start + limit && s.charAt stop = ';' then some (stop + 1) else none

/-- Characters of an attribute's string up to the closing quote or the reference of a character. -/
def markupFragment (quote : Char) (s : Source) (i : Nat) : Option Nat :=
  let j := s.skipWhile (fun c => c != quote && c != '&') (if s.charAt i = '&' then i + 1 else i)
  if i < j && s.charAt i != quote then some j else none

/-- The string of an attribute, which may hold line breaks. -/
def markupString : P Unit := do
  let quote ← nextChar
  ensure (quote = '"' || quote = '\'')
  node "string" do
    symbol quote.toString
    many (leafAtOnce "html_character_reference" characterReference <|>
      leafAtOnce "string_fragment" (markupFragment quote))
    symbolAtOnce quote.toString

/-- Text between elements.  Blanks that stand alone on their lines are no text. -/
def markupText (s : Source) (i : Nat) : Option Nat :=
  let j := s.skipWhile (fun c => c ∉ ['<', '>', '\x7b', '\x7d', '&']) i
  let blankLine := s.skipWhile isSpace i
  if i < j && (blankLine < j || s.charAt i != '\n') then some j else none

/-- The name of an element. -/
def elementName : P Unit := do
  extras
  let start ← position
  let first ← single (leaf "identifier" markupName)
  (do
    leave (← extend "jsx_namespace_name" start first do
      mark ":"
      leaf "identifier" markupName)) <|> do
    leave (← iterate (fun left =>
      extend "member_expression" start (inField "object" left) do
        mark "."
        label "property" (leaf "property_identifier" markupName)) first)

/-- An expression between braces, or nothing between them. -/
def markupExpression : P Unit :=
  node "jsx_expression" do
    symbol "\x7b"
    perhaps (spread <|> expressions .inner)
    symbol "\x7d"

/-- An attribute of an element. -/
def elementAttribute : P Unit :=
  markupExpression <|> node "jsx_attribute" do
    attributeName
    perhaps do
      mark "="
      choice [markupString, markupExpression, call .element]
where
  /-- The name of an attribute. -/
  attributeName : P Unit :=
    (node "jsx_namespace_name" do
      leaf "identifier" markupName
      mark ":"
      leaf "identifier" markupName) <|>
    leaf "property_identifier" markupName

/-- The start of an element; the value tells whether it is also the end. -/
def openingTag : P Bool := do
  symbol "<"
  if (← nextMark) = ">" then
    symbol ">"
    return false
  label "name" elementName
  perhaps (label "type_arguments" typeArguments)
  many (label "attribute" elementAttribute)
  let closed ← succeeds (symbol "/>")
  if !closed then symbol ">"
  return closed

/-- The end of an element. -/
def closingTag : P Unit :=
  node "jsx_closing_element" do
    symbolAtOnce "</"
    perhaps (label "name" elementName)
    symbol ">"

/-- What stands between the start and the end of an element. -/
def child : P Unit := do
  let s ← source
  let i ← position
  match s.charAt i with
  | '<' => do
    ensure (s.charAt (i + 1) != '/')
    call .element
  | '\x7b' => markupExpression
  | '&' => leafAtOnce "html_character_reference" characterReference
  | _ => leafAtOnce "jsx_text" markupText <|> scan blank
where
  /-- Blanks between elements. -/
  blank (s : Source) (i : Nat) : Option Nat :=
    let j := s.skipWhile isSpace i
    if i < j then some j else none

/-- An element with everything in it. -/
def elementBody : P Unit := do
  extras
  let s ← source
  let start ← position
  let (closed, opening) ← gathered openingTag
  if closed then finish "jsx_self_closing_element" start opening
  else
    let stop ← position
    let inside ← collected do
      many child
      label "close_tag" closingTag
    let openTag := nodeOver s "jsx_opening_element" start stop opening
    finish "jsx_element" start (inField "open_tag" openTag :: inside)

/-- An operand that begins with `<`. -/
def angledBody (markup : Bool) (mode : Mode) : P Unit :=
  if markup then chainOperand mode (arrowFunction mode <|> call .element)
  else chainOperand mode (arrowFunction mode) <|> node "type_assertion" do
    typeArguments
    call (.operand mode)

end ScriptGrammar

end CodeSurvey
