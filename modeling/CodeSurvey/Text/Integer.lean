import CodeSurvey.Text.Blank
import CodeSurvey.Text.Digit

/-!
# Reading integers

An integer is a run of decimal digits.  A sign may stand before it, single underscores may stand
between two digits, and blanks may stand around the whole.
-/

namespace CodeSurvey

namespace Text

/-- The number whose digits go on with the given characters, `value` being what has been read. -/
def digitsFrom (value : Nat) : List Char → Option Nat
  | [] => some value
  | '_' :: c :: rest => (digit? c).bind fun d => digitsFrom (10 * value + d) rest
  | c :: rest => (digit? c).bind fun d => digitsFrom (10 * value + d) rest

/-- A natural number without a sign. -/
def readNat? : List Char → Option Nat
  | [] => none
  | c :: rest => (digit? c).bind fun d => digitsFrom d rest

/-- The integer that a text spells. -/
def readInt? (text : String) : Option Int :=
  match (trim text).toList with
  | '+' :: rest => (readNat? rest).map fun n => (n : Int)
  | '-' :: rest => (readNat? rest).map fun n => -(n : Int)
  | rest => (readNat? rest).map fun n => (n : Int)

end Text

end CodeSurvey
