import CodeSurvey.Parsing.Token
import CodeSurvey.Text.Blank

/-!
# Scripts: rules and tokens

The rules through which the script grammar refers to itself, and the tokens of scripts.  There
is no separate lexer: a keyword is a word wherever the grammar has no use for it as a keyword, a
slash begins a pattern where an operand is expected, and `>` closes a list of type arguments even
if another `>` follows.
-/

namespace CodeSurvey

namespace ScriptGrammar

/-- How an expression or a type is used. -/
structure Mode where
  /-- A line break may end it, because a statement may end there. -/
  ends : Bool := false
  /-- A function after a parameter list has no result type, because a colon belongs to the
  conditional expression around it. -/
  bare : Bool := false
  /-- Type arguments after it belong to the operator in front of it. -/
  plain : Bool := false
deriving DecidableEq, BEq, Hashable, Repr, Inhabited

/-- The mode of an expression that makes a statement. -/
def Mode.ending : Mode := { ends := true }

/-- The mode of an expression between brackets. -/
def Mode.inner : Mode := {}

/-- The rules of the grammar. -/
inductive Rule where
  | statement
  | declaration
  | block
  | expression (mode : Mode)
  | binary (level : Nat) (mode : Mode)
  | operand (mode : Mode)
  | simple (mode : Mode)
  | arrow (mode : Mode)
  | angled (mode : Mode)
  | pattern
  | parameters
  | classBody
  | type (mode : Mode)
  | typeOperand (mode : Mode)
  | objectType
  | element
deriving DecidableEq, BEq, Hashable, Repr, Inhabited

/-- A parse by the script grammar. -/
abbrev P := Parse Rule

open Parse

/-! ### Characters -/

/-- A blank between tokens. -/
def isSpace (c : Char) : Bool :=
  (Text.isBlank c && !(0x1C ≤ c.toNat && c.toNat ≤ 0x1F)) || c = '\uFEFF' || c = '\u2060' ||
    c = '\u200B'

/-- A character that no name holds. -/
def isPunctuation (c : Char) : Bool :=
  ":;\x60\"'@#.,|^&<=>+-*/\\%?!~()[]\x7b\x7d".toList.contains c

/-- A character inside a name. -/
def isNameChar (c : Char) : Bool := !(c.toNat < 0x20 || isSpace c || isPunctuation c)

/-- A character that begins a name. -/
def isNameStart (c : Char) : Bool := isNameChar c && !c.isDigit

/-- The end of a line. -/
def isLineEnd (c : Char) : Bool := c = '\n' || c = '\r' || c = '\u2028' || c = '\u2029'

/-! ### Scanners -/

/-- A comment that starts at a position: to the end of the line, or up to the closing mark. -/
def comment (s : Source) (i : Nat) : Option Nat :=
  if s.charAt i != '/' then none
  else if s.charAt (i + 1) = '/' then some (s.skipWhile (fun c => !isLineEnd c) (i + 2))
  else if s.charAt (i + 1) = '*' then (s.find? ['*', '/'] (i + 2)).map (· + 2)
  else none

/-- The extras of scripts: blanks and comments. -/
def extra : Extras := fun s i =>
  if i < s.size && isSpace (s.charAt i) then some (none, s.skipWhile isSpace i)
  else (comment s i).map fun stop => (some "comment", stop)

/-- The rest of an escape of a code point by its number, after the `u`. -/
def unicodeEscape (s : Source) (i : Nat) : Option Nat :=
  if s.charAt i = '\x7b' then
    let j := s.skipWhile isHexDigit (i + 1)
    if i + 1 < j && s.charAt j = '\x7d' then some (j + 1) else none
  else if (List.range 4).all fun k => isHexDigit (s.charAt (i + k)) then some (i + 4)
  else none

/-- Name characters and escapes of code points, from a position on. -/
def nameTail (s : Source) : (fuel : Nat) → Nat → Nat
  | 0, i => i
  | fuel + 1, i =>
    if i < s.size && isNameChar (s.charAt i) then nameTail s fuel (i + 1)
    else if s.startsWith i ['\\', 'u'] then
      match unicodeEscape s (i + 2) with
      | some j => nameTail s fuel j
      | none => i
    else i

/-- A name. -/
def name (s : Source) (i : Nat) : Option Nat :=
  if (i < s.size && isNameStart (s.charAt i)) || s.startsWith i ['\\', 'u'] then
    let stop := nameTail s (s.size - i) i
    if i < stop then some stop else none
  else none

/-- A private name, with its `#`. -/
def privateName (s : Source) (i : Nat) : Option Nat :=
  if s.charAt i = '#' then name s (i + 1) else none

/-- An escape inside a string, from the backslash on. -/
def escape (s : Source) (i : Nat) : Option Nat :=
  let c := s.charAt (i + 1)
  if i + 1 ≥ s.size then none
  else if c = 'x' then
    if isHexDigit (s.charAt (i + 2)) && isHexDigit (s.charAt (i + 3)) then some (i + 4) else none
  else if c = 'u' then unicodeEscape s (i + 2)
  else if c = '\r' && s.charAt (i + 2) = '\n' then some (i + 3)
  else some (i + 2)

/-- Characters of a string up to an escape, the closing quote or the end of the line. -/
def stringFragment (quote : Char) (s : Source) (i : Nat) : Option Nat :=
  let j := s.skipWhile (fun c => c != quote && c != '\\' && c != '\n' && c != '\r') i
  if i < j then some j else none

/-- An escape at a position. -/
def escapeAt (s : Source) (i : Nat) : Option Nat := if s.charAt i = '\\' then escape s i else none

/-- An exponent. -/
def exponent (s : Source) (i : Nat) : Option Nat :=
  if s.charAt i = 'e' || s.charAt i = 'E' then
    let sign := s.charAt (i + 1) = '+' || s.charAt (i + 1) = '-'
    digits Char.isDigit s (if sign then i + 2 else i + 1)
  else none

/-- A number. -/
def number (s : Source) (i : Nat) : Option Nat :=
  let big (j : Nat) : Nat := if s.charAt j = 'n' then j + 1 else j
  let radix (isDigit : Char → Bool) : Option Nat := (digits isDigit s (i + 2)).map big
  let c := s.charAt (i + 1)
  let special :=
    if s.charAt i != '0' then none
    else if c = 'x' || c = 'X' then radix isHexDigit
    else if c = 'o' || c = 'O' then radix fun d => '0' ≤ d && d ≤ '7'
    else if c = 'b' || c = 'B' then radix fun d => d = '0' || d = '1'
    else none
  let withExponent (j : Nat) : Nat := (exponent s j).getD j
  match special with
  | some j => some j
  | none =>
    match digits Char.isDigit s i with
    | some j =>
      if s.charAt j = '.' then
        some (withExponent ((digits Char.isDigit s (j + 1)).getD (j + 1)))
      else if s.charAt j = 'n' then some (j + 1)
      else some (withExponent j)
    | none =>
      if s.charAt i = '.' then (digits Char.isDigit s (i + 1)).map withExponent else none

/-- The rest of the body of a pattern literal; `inClass` tells whether it stands between square
brackets. -/
def regexTail (s : Source) (inClass : Bool) : (fuel : Nat) → Nat → Option Nat
  | 0, _ => none
  | fuel + 1, i =>
    if i ≥ s.size then none
    else
      let c := s.charAt i
      if c = '\n' then none
      else if c = '\\' then
        if s.charAt (i + 1) = '\n' then none else regexTail s inClass fuel (i + 2)
      else if inClass then regexTail s (c != ']') fuel (i + 1)
      else if c = '/' then some i
      else regexTail s (c = '[') fuel (i + 1)

/-- The body of a pattern literal. -/
def regexBody (s : Source) (i : Nat) : Option Nat :=
  if s.charAt i = '/' || s.charAt i = '*' then none else regexTail s false (s.size - i + 1) i

/-- The flags of a pattern literal. -/
def regexFlags (s : Source) (i : Nat) : Option Nat :=
  let j := s.skipWhile (fun c => 'a' ≤ c && c ≤ 'z') i
  if i < j then some j else none

/-- Characters of a template up to the next substitution, escape or closing quote. -/
def templateTail (s : Source) : (fuel : Nat) → Nat → Nat
  | 0, i => i
  | fuel + 1, i =>
    let c := s.charAt i
    if i ≥ s.size || c = '\x60' || c = '\\' then i
    else if c = '$' && s.charAt (i + 1) = '\x7b' then i
    else templateTail s fuel (i + 1)

/-- Characters of a template, at least one. -/
def templateChars (s : Source) (i : Nat) : Option Nat :=
  let j := templateTail s (s.size - i) i
  if i < j then some j else none

/-- Operators and other marks, longer ones before their beginnings. -/
def marks : List (List Char) :=
  [">>>=", "===", "!==", "**=", "<<=", ">>=", "&&=", "||=", "??=", "...", ">>>", "=>", "==",
    "!=", "<=", ">=", "&&", "||", "??", "?.", "**", "++", "--", "+=", "-=", "*=", "/=", "%=",
    "&=", "|=", "^=", "<<", ">>", "=", "<", ">", "+", "-", "*", "/", "%", "&", "|", "^", "!",
    "~", "?", ":", ".", ",", ";", "(", ")", "[", "]", "\x7b", "\x7d", "@", "\x60"].map
    String.toList

/-- The marks and words of scripts. -/
def lexicon : Lexicon := ⟨marks, name⟩

/-! ### Tokens -/

/-- The mark at the next token, empty if there is none.  A question mark before a fraction is no
optional access. -/
def nextMark : P String := ahead do
  extras
  let s ← source
  let i ← position
  let m := lexicon.markAt s i
  return if m = "?." && (s.charAt (i + 2)).isDigit then "?" else m

/-- A mark that is the longest one at its place. -/
def mark (text : String) : P Unit := do
  ensure ((← nextMark) = text)
  symbol text

/-- The word at the next token, empty if there is none. -/
def nextWord : P String := lexicon.nextWord

/-- A word in its role as a keyword. -/
def keyword (text : String) : P Unit := lexicon.keyword text

/-- One of some keywords. -/
def keywords (texts : List String) : P Unit := lexicon.keywords texts

/-- A named leaf of one keyword. -/
def keywordNode (kind text : String) : P Unit := lexicon.keywordNode kind text

/-- A line break stands between the position reached and the next token. -/
def lineBreakAhead : P Bool := do
  let s ← source
  let start ← position
  let stop ← ahead do
    extras
    position
  return (s.slice start stop).toList.any isLineEnd

/-- Words that begin an expression of their own and so are no names where one may stand. -/
def expressionKeywords : List String :=
  ["function", "class", "new", "await", "yield", "typeof", "void", "delete", "this", "super",
    "null", "true", "false", "undefined", "import"]

/-- A name, whatever word it is. -/
def anyName (kind : String) : P Unit := leaf kind name

/-- A name where an expression may stand. -/
def identifier : P Unit := do
  ensure ((← nextWord) ∉ expressionKeywords)
  anyName "identifier"

/-- A string on one line. -/
def stringLiteral : P Unit := do
  let quote ← nextChar
  ensure (quote = '"' || quote = '\'')
  node "string" do
    symbol quote.toString
    many (leafAtOnce "string_fragment" (stringFragment quote) <|>
      leafAtOnce "escape_sequence" escapeAt)
    symbolAtOnce quote.toString

/-- A pattern literal with its flags. -/
def regexLiteral : P Unit :=
  node "regex" do
    symbol "/"
    label "pattern" (leafAtOnce "regex_pattern" regexBody)
    symbolAtOnce "/"
    perhaps (label "flags" (leafAtOnce "regex_flags" regexFlags))

/-- Items with commas between them, where an item may be left out, in brackets. -/
def holed (opening : String) (item : P Unit) (closing : String) : P Unit := do
  symbol opening
  perhaps item
  many do
    mark ","
    perhaps item
  symbol closing

/-- Items with commas between them and perhaps one at the end, in brackets. -/
def listed (opening : String) (item : P Unit) (closing : String) : P Unit := do
  symbol opening
  perhaps do
    separated item (mark ",")
    perhaps (mark ",")
  symbol closing

/-! ### The end of a statement -/

/-- Blanks and comments from a position on; `none` at a slash that begins no comment. -/
def blanksAndComments (s : Source) : (fuel : Nat) → Nat → Option Nat
  | 0, i => some i
  | fuel + 1, i =>
    match extra s i with
    | some (_, stop) => blanksAndComments s fuel (max stop (i + 1))
    | none => if s.charAt i = '/' then none else some i

/-- What begins at the position forbids that a statement ends on the line before.  `inOperand`
tells whether an operator could follow. -/
def continues (s : Source) (i : Nat) (inOperand : Bool) : Bool :=
  let c := s.charAt i
  let word := s.skipWhile (fun c => c.isAlpha) i
  if i ≥ s.size then false
  else if c ∈ ['\x60', ',', '.', ';', '*', '%', '>', '<', '=', '?', '^', '|', '&', '/', ':'] then true
  else if c = '(' || c = '[' then inOperand
  else if c = '+' || c = '-' then s.charAt (i + 1) != c
  else if c = '!' then s.charAt (i + 1) = '='
  else s.slice i word = "in" || s.slice i word = "instanceof"

/-- The statement may end at a position without a semicolon: the line ends there and nothing on
the next lines continues it, or a closing brace or the end of the text follows.  Comments on the
same line belong to the statement. -/
def lineEnds (inOperand : Bool) : (fuel : Nat) → P Unit
  | 0 => fail
  | fuel + 1 => do
    let s ← source
    let start ← position
    let i := s.skipWhile (fun c => isSpace c && c != '\n') start
    if i ≥ s.size || s.charAt i = '\x7d' then pure ()
    else if s.charAt i = '\n' then
      match blanksAndComments s (s.size - i) i with
      | some j => ensure !(continues s j inOperand)
      | none => fail
    else
      match comment s i with
      | some stop =>
        moveTo i
        leafAtOnce "comment" fun _ _ => some stop
        lineEnds inOperand fuel
      | none => fail

/-- The end of a statement that needs no semicolon. -/
def automaticSemicolon (inOperand : Bool) : P Unit := do
  let s ← source
  lineEnds inOperand (s.size + 1)

/-- The end of a statement. -/
def semicolon (inOperand : Bool) : P Unit := symbol ";" <|> automaticSemicolon inOperand

end ScriptGrammar

end CodeSurvey
