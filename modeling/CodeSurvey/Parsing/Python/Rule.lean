import CodeSurvey.Parsing.Token

/-!
# Python: rules, tokens and layout

The rules through which the Python grammar refers to itself, its tokens, and the layout of lines.

Lines make statements and their indentation makes blocks.  `Gap.ahead` looks at what stands between
two tokens: whether a line ends there, how far the next token is indented, and the first comment
on a line of its own.  A block goes on as long as the next token, or the next such comment, is
indented at least as far as the block; so a comment can prolong a block that has no more
statements.
-/

namespace CodeSurvey

namespace PythonGrammar

/-- The rules of the grammar.  A statement is parsed in a block of some indentation. -/
inductive Rule where
  | statement (indent : Nat)
  | expression
  | binary (level : Nat)
  | operand
  | primary
  | string
  | casePattern
deriving DecidableEq, BEq, Hashable, Repr, Inhabited

/-- A parse by the Python grammar. -/
abbrev P := Parse Rule

open Parse

/-! ### Characters and words -/

/-- A blank inside a line. -/
def isBlankInLine (c : Char) : Bool :=
  c ∈ [' ', '\t', '\r', '\x0C', '\x0B', '\uFEFF', '\u2060', '\u200B', '\u00A0']

/-- A character inside a name. -/
def isNameChar (c : Char) : Bool :=
  c.isAlphanum || c = '_' || (0x80 ≤ c.toNat && !isBlankInLine c)

/-- A name. -/
def name (s : Source) (i : Nat) : Option Nat :=
  if (s.charAt i).isDigit then none else span isNameChar s i

/-- The marks and words of Python. -/
def lexicon : Lexicon where
  marks :=
    ["**=", "//=", ">>=", "<<=", "...", "->", ":=", "==", "!=", "<=", ">=", "<>", "**", "//", "<<",
      ">>", "+=", "-=", "*=", "/=", "%=", "&=", "|=", "^=", "@=", "=", "<", ">", "+", "-", "*",
      "/", "%", "&", "|", "^", "~", "!", ":", ".", ",", ";", "(", ")", "[", "]", "\x7b", "\x7d",
      "@"].map String.toList
  word := name

/-- Words that are never names. -/
def reservedWords : List String :=
  ["False", "None", "True", "and", "as", "assert", "break", "class", "continue", "def", "del",
    "elif", "else", "except", "finally", "for", "from", "global", "if", "import", "in", "is",
    "lambda", "nonlocal", "not", "or", "pass", "raise", "return", "try", "while", "with", "yield"]

/-! ### What lies between tokens -/

/-- The rest of a line after `#`. -/
def comment (s : Source) (i : Nat) : Option Nat :=
  if s.charAt i = '#' then some (s.skipWhile (· != '\n') i) else none

/-- A line break that a backslash hides. -/
def hiddenBreak (s : Source) (i : Nat) : Option Nat :=
  if s.startsWith i ['\\', '\n'] then some (i + 2)
  else if s.startsWith i ['\\', '\r', '\n'] then some (i + 3)
  else none

/-- The extras inside a line. -/
def lineExtra : Extras := fun s i =>
  match span isBlankInLine s i with
  | some j => some (none, j)
  | none =>
    match hiddenBreak s i with
    | some j => some (none, j)
    | none => (comment s i).map fun j => (some "comment", j)

/-- The extras between brackets, where line breaks are blanks. -/
def bracketExtra : Extras := fun s i =>
  if s.charAt i = '\n' then some (none, i + 1) else lineExtra s i

/-! ### Layout -/

/-- A comment on a line of its own. -/
structure LineComment where
  indent : Nat
  start : Nat
  stop : Nat
deriving Repr, Inhabited

/-- What stands between two tokens. -/
structure Gap where
  /-- A line ends. -/
  lineBreak : Bool := false
  /-- How far the next token is indented; the end of the text is not. -/
  indent : Nat := 0
  /-- Where the next token is. -/
  next : Nat
  /-- The first comment on a line of its own. -/
  comment : Option LineComment := none
deriving Repr, Inhabited

/-- Goes on through a gap, looking at `fuel` characters.  A tab indents by eight. -/
def Gap.goOn (s : Source) : (fuel : Nat) → Gap → Gap
  | 0, g => g
  | fuel + 1, g =>
    let i := g.next
    if i ≥ s.size then { g with lineBreak := true, indent := 0 }
    else match s.charAt i with
      | '\n' => goOn s fuel { g with lineBreak := true, indent := 0, next := i + 1 }
      | ' ' => goOn s fuel { g with indent := g.indent + 1, next := i + 1 }
      | '\t' => goOn s fuel { g with indent := g.indent + 8, next := i + 1 }
      | '\r' | '\x0C' => goOn s fuel { g with indent := 0, next := i + 1 }
      | '#' =>
        let stop := s.skipWhile (· != '\n') i
        goOn s fuel { g with
          comment := g.comment.or (some ⟨g.indent, i, stop⟩)
          next := stop }
      | _ =>
        match hiddenBreak s i with
        | some j => goOn s fuel { g with next := j }
        | none => g

/-- The gap at a position. -/
def Gap.ahead (s : Source) (i : Nat) : Gap := Gap.goOn s (s.size + 1 - i) { next := i }

/-- The gap at the position reached. -/
def gap : P Gap := do
  return Gap.ahead (← source) (← position)

/-- Leaves a comment and moves behind it. -/
def takeComment (c : LineComment) : P Unit := do
  moveTo c.start
  leafAtOnce "comment" fun _ _ => some c.stop

/-- Moves to the next token on a later line if it is indented far enough, past all comments in
between. -/
def nextLine (indent : Nat) : P Unit := do
  let s ← source
  let g ← gap
  ensure (g.lineBreak && indent ≤ g.indent && g.next < s.size)
  many do
    match (← gap).comment with
    | some c => takeComment c
    | none => fail
  moveTo g.next

/-- The lines of a block: comments and what `p` parses. -/
def lines (indent : Nat) (p : P Unit) : P Unit := many do
  let s ← source
  let g ← gap
  match g.comment with
  | some c =>
    ensure (indent ≤ c.indent || indent ≤ g.indent)
    takeComment c
  | none =>
    ensure (indent ≤ g.indent && g.next < s.size)
    moveTo g.next
    p

/-- The end of a line of statements. -/
def lineEnd : P Unit := do
  extras
  let s ← source
  let i ← position
  ensure (i ≥ s.size || s.charAt i = '\n')

/-- What makes up a block, after a colon: more deeply indented lines, or nothing. -/
def indentedBlock (indent : Nat) (line : Nat → P Unit) : P Unit := do
  let s ← source
  let g ← gap
  ensure g.lineBreak
  if indent < g.indent && g.next < s.size then
    nextLine g.indent
    let start ← position
    let children ← collected do
      line g.indent
      lines g.indent (line g.indent)
    finish "block" start children
  else finish "block" (← position) []

/-! ### Tokens -/

/-- The longest mark at the next token, empty if there is none. -/
def nextMark : P String := lexicon.nextMark

/-- A mark that is the longest one at its place. -/
def mark (text : String) : P Unit := lexicon.mark text

/-- The word at the next token, empty if there is none. -/
def nextWord : P String := lexicon.nextWord

/-- A word in its role as a keyword. -/
def keyword (text : String) : P Unit := lexicon.keyword text

/-- A name. -/
def identifier : P Unit := lexicon.nameExcept "identifier" reservedWords

/-- A name after a word or dot that nothing but a name can follow. -/
def anyName : P Unit := leaf "identifier" name

/-- What stands between an opening and a closing bracket. -/
def bracketed (opening : String) (p : P Unit) (closing : String) : P Unit := do
  symbol opening
  among bracketExtra do
    p
    symbol closing

/-- One or more items with commas between them and perhaps one at the end. -/
def commaList (item : P Unit) : P Unit := do
  separated item (mark ",")
  perhaps (mark ",")

/-! ### Numbers -/

/-- Digits after a zero and a letter that names their base. -/
def radixNumber (s : Source) (i : Nat) : Option Nat :=
  if s.charAt i != '0' then none
  else
    let c := s.charAt (i + 1)
    let skip := if s.charAt (i + 2) = '_' then i + 3 else i + 2
    if c = 'x' || c = 'X' then digits isHexDigit s skip
    else if c = 'o' || c = 'O' || c = 'b' || c = 'B' then digits Char.isDigit s skip
    else none

/-- The end of a number after a letter that tells its type. -/
def numberSuffix (s : Source) (i : Nat) : Nat :=
  if s.charAt i ∈ ['l', 'L', 'j', 'J'] then i + 1 else i

/-- An integer. -/
def integer (s : Source) (i : Nat) : Option Nat :=
  ((radixNumber s i).or (digits Char.isDigit s i)).map (numberSuffix s)

/-- An exponent. -/
def exponent (s : Source) (i : Nat) : Option Nat :=
  if s.charAt i = 'e' || s.charAt i = 'E' then
    let sign := s.charAt (i + 1) = '+' || s.charAt (i + 1) = '-'
    digits Char.isDigit s (if sign then i + 2 else i + 1)
  else none

/-- A number with a point or an exponent. -/
def float (s : Source) (i : Nat) : Option Nat :=
  let whole := digits Char.isDigit s i
  let j := whole.getD i
  let fraction :=
    if s.charAt j = '.' then
      match digits Char.isDigit s (j + 1) with
      | some k => some k
      | none => whole.map fun _ => j + 1
    else none
  match fraction, exponent s (fraction.getD j) with
  | _, some k => if whole.isSome || fraction.isSome then some (numberSuffix s k) else none
  | some k, none => some (numberSuffix s k)
  | none, none => none

end PythonGrammar

end CodeSurvey
