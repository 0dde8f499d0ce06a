import CodeSurvey.Text.Printable

/-!
# Quoted texts

`Text.quoted` writes a text between quotes so that every character of the result is printable.
The quote is `'` unless the text holds a `'` and no `"`.  The backslash and the chosen quote
are escaped, line feed, carriage return and tab have escapes of one letter, and any other
character that is not printable is written by its code point in two, four or eight hexadecimal
digits.
-/

namespace CodeSurvey

namespace Text

/-- The last `width` hexadecimal digits of a number, in lower case. -/
def hexDigits : (width : Nat) → Nat → List Char
  | 0, _ => []
  | width + 1, n => hexDigits width (n / 16) ++ [Nat.digitChar (n % 16)]

/-- One character of a text quoted by `quote`. -/
def quotedChar (quote c : Char) : List Char :=
  if c = quote ∨ c = '\\' then ['\\', c]
  else if c = '\n' then ['\\', 'n']
  else if c = '\r' then ['\\', 'r']
  else if c = '\t' then ['\\', 't']
  else if isPrintable c then [c]
  else
    let n := c.toNat
    if n ≤ 0xFF then '\\' :: 'x' :: hexDigits 2 n
    else if n ≤ 0xFFFF then '\\' :: 'u' :: hexDigits 4 n
    else '\\' :: 'U' :: hexDigits 8 n

/-- The quote that `quoted` puts around a text. -/
def quoteFor (text : String) : Char :=
  if text.toList.contains '\'' && !text.toList.contains '"' then '"' else '\''

/-- The text between quotes, with escapes for what is not printable. -/
def quoted (text : String) : String :=
  let quote := quoteFor text
  String.ofList ((quote :: text.toList.flatMap (quotedChar quote)) ++ [quote])

end Text

end CodeSurvey
