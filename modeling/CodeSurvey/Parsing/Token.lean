import CodeSurvey.Parsing.Parse

/-!
# Tokens

There is no separate lexer.  A grammar asks for the token it can use at a position: a mark, a
word in its role as a keyword, or a name.  Its `Lexicon` tells which marks there are, so that the
longest one at a position wins, and what a word looks like.
-/

namespace CodeSurvey

/-- The marks and words of a language. -/
structure Lexicon where
  /-- Operators and other marks, longer ones before their beginnings. -/
  marks : List (List Char)
  /-- The end of the word at a position. -/
  word : Source → Nat → Option Nat

namespace Parse

variable {κ : Type} [BEq κ] [Hashable κ]

/-- A fixed text. -/
def exact (text : String) : Source → Nat → Option Nat :=
  let chars := text.toList
  fun s i => if s.startsWith i chars then some (i + chars.length) else none

/-- One or more characters that pass the test. -/
def span (test : Char → Bool) (s : Source) (i : Nat) : Option Nat :=
  let j := s.skipWhile test i
  if i < j then some j else none

/-- One or more digits, with single underscores between them, looking at `fuel` of them. -/
def digitsUpTo (isDigit : Char → Bool) (s : Source) : (fuel : Nat) → Nat → Option Nat
  | 0, _ => none
  | fuel + 1, i =>
    if i < s.size && isDigit (s.charAt i) then
      let next := if s.charAt (i + 1) = '_' then i + 2 else i + 1
      (digitsUpTo isDigit s fuel next).or (some (i + 1))
    else none

/-- One or more digits, with single underscores between them. -/
def digits (isDigit : Char → Bool) (s : Source) (i : Nat) : Option Nat :=
  digitsUpTo isDigit s (s.size - i) i

/-- A hexadecimal digit. -/
def isHexDigit (c : Char) : Bool :=
  c.isDigit || ('a' ≤ c && c ≤ 'f') || ('A' ≤ c && c ≤ 'F')

/-- A mark, whatever follows it. -/
def symbol (text : String) : Parse κ Unit := leaf text (exact text) false

/-- A mark that begins right where the token before it ends. -/
def symbolAtOnce (text : String) : Parse κ Unit := leaf.leafHere text (exact text) false

/-- The character at the next token; NUL at the end. -/
def nextChar : Parse κ Char := ahead do
  extras
  return (← source).charAt (← position)

/-- A node that begins at `start` with `left` as its first child and what `p` leaves as the
others. -/
def extend (kind : String) (start : Nat) (left : Node) (p : Parse κ Unit) : Parse κ Node :=
  single do
    let rest ← collected p
    finish kind start (left :: rest)

/-- A node in a field of the node around it. -/
def inField (field : String) (n : Node) : Node := { n with field := some field }

end Parse

namespace Lexicon

open Parse

variable {κ : Type} [BEq κ] [Hashable κ]

/-- The longest mark at a position, empty if there is none. -/
def markAt (l : Lexicon) (s : Source) (i : Nat) : String :=
  match l.marks.find? (s.startsWith i) with
  | some m => String.ofList m
  | none => ""

/-- The longest mark at the next token, empty if there is none. -/
def nextMark (l : Lexicon) : Parse κ String := ahead do
  extras
  return l.markAt (← source) (← position)

/-- A mark that is the longest one at its place. -/
def mark (l : Lexicon) (text : String) : Parse κ Unit := do
  ensure ((← l.nextMark) = text)
  symbol text

/-- The word at the next token, empty if there is none. -/
def nextWord (l : Lexicon) : Parse κ String := ahead do
  extras
  let s ← source
  let i ← position
  return match l.word s i with
    | some j => s.slice i j
    | none => ""

/-- A word in its role as a keyword. -/
def keyword (l : Lexicon) (text : String) : Parse κ Unit := do
  ensure ((← l.nextWord) = text)
  leaf text l.word false

/-- One of some keywords. -/
def keywords (l : Lexicon) (texts : List String) : Parse κ Unit := do
  let w ← l.nextWord
  ensure (w ∈ texts)
  leaf w l.word false

/-- A named leaf of one keyword. -/
def keywordNode (l : Lexicon) (kind text : String) : Parse κ Unit := do
  ensure ((← l.nextWord) = text)
  leaf kind l.word

/-- A word that is none of the given ones. -/
def nameExcept (l : Lexicon) (kind : String) (reserved : List String) : Parse κ Unit := do
  ensure ((← l.nextWord) ∉ reserved)
  leaf kind l.word

end Lexicon

end CodeSurvey
