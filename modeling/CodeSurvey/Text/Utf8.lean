/-!
# Decoding UTF-8 with replacement

`Text.pieces` cuts a byte sequence into *pieces*: a piece is either a scalar value or a maximal
part that no well-formed sequence continues.  `Text.decode` reads each invalid part as one
U+FFFD; `Text.decode?` accepts only sequences without invalid parts.

The cut is greedy from the left and a piece never depends on the bytes after it, so the pieces
of a slice that begins and ends between two pieces are the pieces lying in that slice.
-/

namespace CodeSurvey

namespace Text

/-- One unit of a decoded byte sequence. -/
inductive Piece where
  /-- A well-formed encoding of a scalar value. -/
  | scalar (c : Char)
  /-- Bytes that begin no well-formed encoding, or that break one off. -/
  | invalid
deriving DecidableEq, Repr, Inhabited

/-- The character a piece stands for: U+FFFD replaces an invalid part. -/
def Piece.char : Piece → Char
  | scalar c => c
  | invalid => '\uFFFD'

/-- What a lead byte announces: how many continuation bytes follow, the payload bits of the
lead byte, and the range of the first continuation byte.  The range is narrower than
`0x80–0xBF` after the four lead bytes that could begin an overlong form, a surrogate or a value
above U+10FFFF. -/
structure Lead where
  follow : Nat
  payload : Nat
  low : Nat := 0x80
  high : Nat := 0xBF

/-- The announcement of a lead byte; `none` for a byte that begins nothing. -/
def Lead.ofByte? (b : Nat) : Option Lead :=
  if b < 0x80 then some { follow := 0, payload := b }
  else if b < 0xC2 then none
  else if b < 0xE0 then some { follow := 1, payload := b - 0xC0 }
  else if b = 0xE0 then some { follow := 2, payload := 0, low := 0xA0 }
  else if b = 0xED then some { follow := 2, payload := 0xD, high := 0x9F }
  else if b < 0xF0 then some { follow := 2, payload := b - 0xE0 }
  else if b = 0xF0 then some { follow := 3, payload := 0, low := 0x90 }
  else if b = 0xF4 then some { follow := 3, payload := 4, high := 0x8F }
  else if b < 0xF4 then some { follow := 3, payload := b - 0xF0 }
  else none

/-- Reads up to `n` continuation bytes, the first within `low–high` and the others within
`0x80–0xBF`.  Returns the value gathered so far when all are there, `none` when one is missing,
with the number of bytes read. -/
def continuation (n low high acc count : Nat) : List UInt8 → Option Nat × Nat
  | [] => if n = 0 then (some acc, count) else (none, count)
  | b :: rest =>
    match n with
    | 0 => (some acc, count)
    | n + 1 =>
      if low ≤ b.toNat ∧ b.toNat ≤ high then
        continuation n 0x80 0xBF (acc * 64 + (b.toNat - 0x80)) (count + 1) rest
      else (none, count)

/-- The first piece of `b :: rest` and the number of bytes of `rest` that belong to it. -/
def firstPiece (b : UInt8) (rest : List UInt8) : Piece × Nat :=
  match Lead.ofByte? b.toNat with
  | none => (.invalid, 0)
  | some lead =>
    match continuation lead.follow lead.low lead.high lead.payload 0 rest with
    | (some v, k) => (.scalar (Char.ofNat v), k)
    | (none, k) => (.invalid, k)

/-- The pieces of a byte sequence, each with the number of bytes it takes. -/
def measuredPieces : List UInt8 → List (Piece × Nat)
  | [] => []
  | b :: rest =>
    let (p, k) := firstPiece b rest
    (p, k + 1) :: measuredPieces (rest.drop k)
termination_by bytes => bytes.length
decreasing_by simp only [List.length_drop, List.length_cons]; omega

/-- The pieces of a byte sequence. -/
def pieces (bytes : List UInt8) : List Piece := (measuredPieces bytes).map (·.1)

/-- Decodes a byte sequence, each invalid part becoming one U+FFFD. -/
def decode (bytes : List UInt8) : String := String.ofList ((pieces bytes).map Piece.char)

/-- Decodes a byte sequence that is well-formed throughout. -/
def decode? (bytes : List UInt8) : Option String :=
  if (pieces bytes).all (· != .invalid) then some (decode bytes) else none

/-- The bytes of a text. -/
def encode (text : String) : List UInt8 := text.toUTF8.toList

end Text

end CodeSurvey
