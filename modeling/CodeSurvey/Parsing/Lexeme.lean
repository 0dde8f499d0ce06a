import CodeSurvey.Parsing.Source

/-!
# Lexemes

Scanners for the tokens that languages with braces share: comments, texts in quotes, numbers and
words.  Each yields the position after the lexeme that starts at a position, if there is one.
-/

namespace CodeSurvey

namespace Lexeme

/-- A blank between tokens; a byte order mark counts as one. -/
def isBlankChar (c : Char) : Bool := c ∈ [' ', '\t', '\n', '\r', '\x0B', '\x0C', '\uFEFF']

/-- A character inside a word. -/
def isWordChar (c : Char) : Bool :=
  c.isAlphanum || c = '_' || (0x80 ≤ c.toNat && c != '\uFEFF')

/-- The end of a line, from a position inside it. -/
def lineEnd (s : Source) (i : Nat) : Nat := s.skipWhile (· != '\n') i

/-- A comment that ends with its line. -/
def lineComment (s : Source) (i : Nat) : Option Nat :=
  if s.startsWith i ['/', '/'] then some (lineEnd s i) else none

/-- A comment with a mark at its end. -/
def blockComment (s : Source) (i : Nat) : Option Nat :=
  if s.startsWith i ['/', '*'] then (s.find? ['*', '/'] (i + 2)).map (· + 2) else none

/-- Goes on in a text in quotes to the position behind its closing quote, looking at `fuel`
characters.  A backslash protects the character behind it, and the text ends with its line. -/
def quotedEnd (quote : Char) (s : Source) : (fuel : Nat) → Nat → Nat
  | 0, i => i
  | fuel + 1, i =>
    let c := s.charAt i
    if i ≥ s.size || c = '\n' then i
    else if c = quote then i + 1
    else if c = '\\' then quotedEnd quote s fuel (i + 2)
    else quotedEnd quote s fuel (i + 1)

/-- A text in quotes of one sort. -/
def quoted (quote : Char) (s : Source) (i : Nat) : Option Nat :=
  if s.charAt i = quote then some (min s.size (quotedEnd quote s (s.size - i) (i + 1))) else none

/-- Goes on in a number, looking at `fuel` characters.  A sign belongs to it behind the letter of
an exponent, and a quote between two digits. -/
def numberEnd (hexadecimal : Bool) (s : Source) : (fuel : Nat) → Nat → Nat
  | 0, i => i
  | fuel + 1, i =>
    let c := s.charAt i
    let next := s.charAt (i + 1)
    let marksExponent := if hexadecimal then c = 'p' || c = 'P' else c = 'e' || c = 'E'
    if marksExponent && (next = '+' || next = '-') then numberEnd hexadecimal s fuel (i + 2)
    else if c.isAlphanum || c = '_' || c = '.' then numberEnd hexadecimal s fuel (i + 1)
    else if c = '\'' && next.isAlphanum then numberEnd hexadecimal s fuel (i + 2)
    else i

/-- A number of any notation. -/
def number (s : Source) (i : Nat) : Option Nat :=
  let c := s.charAt i
  let next := s.charAt (i + 1)
  if c.isDigit || (c = '.' && next.isDigit) then
    some (numberEnd (c = '0' && (next = 'x' || next = 'X')) s (s.size - i) i)
  else none

end Lexeme

end CodeSurvey
