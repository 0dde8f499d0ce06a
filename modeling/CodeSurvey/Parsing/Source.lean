import CodeSurvey.Syntax.Node
import CodeSurvey.Text.Utf8

/-!
# Source texts

A `Source` is a decoded text with random access and, for every position, the row it lies in.
Positions count characters; the position after the last character belongs to the text too.
-/

namespace CodeSurvey

/-- A decoded text. -/
structure Source where
  chars : Array Char
  /-- The row of each position, counted from zero. -/
  rows : Array Nat

namespace Source

/-- The source with the given characters. -/
def ofChars (chars : List Char) : Source where
  chars := chars.toArray
  rows := (chars.foldl (fun (acc : Array Nat × Nat) c =>
    let row := if c = '\n' then acc.2 + 1 else acc.2
    (acc.1.push row, row)) (#[0], 0)).1

/-- The source that bytes decode to. -/
def ofBytes (bytes : List UInt8) : Source := ofChars ((Text.pieces bytes).map Text.Piece.char)

/-- The number of characters. -/
def size (s : Source) : Nat := s.chars.size

/-- The character at a position; NUL at and after the end. -/
def charAt (s : Source) (i : Nat) : Char := s.chars.getD i '\x00'

/-- The row of a position. -/
def row (s : Source) (i : Nat) : Nat := s.rows.getD i (s.rows.back?.getD 0)

/-- The text between two positions. -/
def slice (s : Source) (start stop : Nat) : String :=
  String.ofList (s.chars.extract start stop).toList

/-- The characters of `text` stand at position `i`. -/
def startsWith (s : Source) (i : Nat) : List Char → Bool
  | [] => true
  | c :: rest => i < s.size && s.charAt i == c && s.startsWith (i + 1) rest

/-- The first position from `i` on whose character fails the test, looking at `fuel` characters. -/
def skipWhileUpTo (s : Source) (test : Char → Bool) : (fuel : Nat) → Nat → Nat
  | 0, i => i
  | fuel + 1, i => if i < s.size && test (s.charAt i) then s.skipWhileUpTo test fuel (i + 1) else i

/-- The first position from `i` on whose character fails the test. -/
def skipWhile (s : Source) (test : Char → Bool) (i : Nat) : Nat :=
  s.skipWhileUpTo test (s.size - i) i

/-- The first position from `i` on at which `text` stands, looking at `fuel` positions. -/
def findUpTo (s : Source) (text : List Char) : (fuel : Nat) → Nat → Option Nat
  | 0, _ => none
  | fuel + 1, i => if s.startsWith i text then some i else s.findUpTo text fuel (i + 1)

/-- The first position from `i` on at which `text` stands. -/
def find? (s : Source) (text : List Char) (i : Nat) : Option Nat :=
  s.findUpTo text (s.size + 1 - i) i

end Source

end CodeSurvey
