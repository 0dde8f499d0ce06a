/-!
# Blank characters and trimming

The blank characters are the characters with the Unicode property `White_Space` together with
the four information separators U+001C to U+001F.  U+200B and U+FEFF are not blank.
-/

namespace CodeSurvey

namespace Text

/-- A character that `trim` removes from the ends of a text. -/
def isBlank (c : Char) : Bool :=
  let n := c.toNat
  (0x09 ≤ n && n ≤ 0x0D) || (0x1C ≤ n && n ≤ 0x20) || n == 0x85 || n == 0xA0 || n == 0x1680 ||
    (0x2000 ≤ n && n ≤ 0x200A) || n == 0x2028 || n == 0x2029 || n == 0x202F || n == 0x205F ||
    n == 0x3000

/-- The text without the blank characters at its two ends. -/
def trim (text : String) : String :=
  String.ofList ((text.toList.dropWhile isBlank).reverse.dropWhile isBlank).reverse

end Text

end CodeSurvey
