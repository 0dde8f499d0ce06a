import CodeSurvey.Toml.Value

/-!
# The words of a document

Readers for the parts of a TOML document that hold no other values: keys, strings, numbers, dates
and times.  A reader takes characters from the front of the text and fails without an account of
the reason, since a document with any fault is ignored as a whole.

Line ends have been brought to line feeds before, so a carriage return is a control character
like any other.
-/

namespace CodeSurvey

namespace Toml

/-- A reader of the characters at the front of a text. -/
abbrev Reader := StateT (List Char) Option

namespace Reader

/-- The next character, which stays. -/
def peek : Reader (Option Char) := fun cs => some (cs.head?, cs)

/-- The longest run of characters that pass a test. -/
def run (test : Char → Bool) : Reader (List Char) :=
  fun cs => some (cs.takeWhile test, cs.dropWhile test)

/-- Skips the longest run of characters that pass a test. -/
def skip (test : Char → Bool) : Reader Unit := fun cs => some ((), cs.dropWhile test)

/-- One character that passes a test. -/
def one (test : Char → Bool) : Reader Char
  | c :: cs => if test c then some (c, cs) else none
  | [] => none

/-- The given characters. -/
def word (w : List Char) : Reader Unit :=
  fun cs => if w.isPrefixOf cs then some ((), cs.drop w.length) else none

/-- Takes the given character if it is next, and says whether it was. -/
def found (c : Char) : Reader Bool := fun cs =>
  match cs with
  | d :: rest => if d = c then some (true, rest) else some (false, cs)
  | [] => some (false, cs)

/-- The number of characters left. -/
def left : Reader Nat := fun cs => some (cs.length, cs)

end Reader

open Reader

/-! ### Classes of characters -/

/-- A blank within a line. -/
def isSpace (c : Char) : Bool := c = ' ' || c = '\t'

/-- A blank or the end of a line. -/
def isSpaceOrLine (c : Char) : Bool := isSpace c || c = '\n'

/-- A control character other than the tab; none of them stands in a comment or in a string of
one line. -/
def isControl (c : Char) : Bool := (c.toNat < 32 && c ≠ '\t') || c.toNat = 127

/-- A control character that does not stand in a string of several lines either. -/
def isControlInLines (c : Char) : Bool := isControl c && c ≠ '\n'

/-- A character of a bare key. -/
def isKeyChar (c : Char) : Bool := c.isAlphanum || c = '-' || c = '_'

/-- A hexadecimal digit. -/
def isHexDigit (c : Char) : Bool :=
  c.isDigit || ('a' ≤ c && c ≤ 'f') || ('A' ≤ c && c ≤ 'F')

/-- The value of a digit. -/
def digitValue (c : Char) : Nat :=
  if c.isDigit then c.toNat - '0'.toNat else c.toLower.toNat - 'a'.toNat + 10

/-- The number that digits spell in a base. -/
def numberOf (base : Nat) (digits : List Char) : Nat :=
  digits.foldl (fun n c => n * base + digitValue c) 0

/-! ### Strings -/

/-- The character that a code point in `width` hexadecimal digits stands for. -/
def codePoint (width : Nat) : Reader (List Char) := do
  let digits ← (List.replicate width ()).mapM fun _ => one isHexDigit
  let n := numberOf 16 digits
  if n.isValidChar then pure [Char.ofNat n] else failure

/-- What follows a backslash.  In a string of several lines a backslash at the end of a line takes
away the blanks up to the next text. -/
def escape (lines : Bool) : Reader (List Char) := do
  let c ← one fun _ => true
  if lines ∧ isSpaceOrLine c then
    if c ≠ '\n' then
      skip isSpace
      if (← peek).isSome then word ['\n']
    skip isSpaceOrLine
    pure []
  else
    match c with
    | 'b' => pure ['\x08']
    | 't' => pure ['\t']
    | 'n' => pure ['\n']
    | 'f' => pure ['\x0C']
    | 'r' => pure ['\r']
    | '"' => pure ['"']
    | '\\' => pure ['\\']
    | 'u' => codePoint 4
    | 'U' => codePoint 8
    | _ => failure

/-- The characters of a string up to its closing quotes, of which there are three in a string of
several lines.  A string takes at most `steps` steps. -/
def basicRest (lines : Bool) : (steps : Nat) → Reader (List Char)
  | 0 => failure
  | steps + 1 => do
    let c ← one fun _ => true
    if c = '"' then
      if lines then
        match ← optional (word ['"', '"']) with
        | some () => pure []
        | none => (c :: ·) <$> basicRest lines steps
      else pure []
    else if c = '\\' then
      let piece ← escape lines
      (piece ++ ·) <$> basicRest lines steps
    else if if lines then isControlInLines c else isControl c then failure
    else (c :: ·) <$> basicRest lines steps

/-- A string of one line after its opening quote. -/
def basicString : Reader String := do
  String.ofList <$> basicRest false ((← left) + 1)

/-- A string of one line without escapes, after its opening quote. -/
def literalString : Reader String := do
  let content ← run (· ≠ '\'')
  if content.any isControl then failure
  word ['\'']
  pure (String.ofList content)

/-- The characters up to three single quotes, which are taken. -/
def literalRest : List Char → Option (List Char × List Char)
  | '\'' :: '\'' :: '\'' :: rest => some ([], rest)
  | c :: rest => (literalRest rest).map fun (content, rest) => (c :: content, rest)
  | [] => none

/-- One or two more quotes after the closing three; they belong to the content. -/
def quotesAfter (quote : Char) : Reader (List Char) := do
  if !(← found quote) then pure []
  else if !(← found quote) then pure [quote]
  else pure [quote, quote]

/-- A string of several lines after its opening quotes.  A line end right after these is not part
of the content. -/
def stringOfLines (quote : Char) : Reader String := do
  let _ ← found '\n'
  let content ←
    if quote = '"' then basicRest true ((← left) + 1)
    else do
      let content ← literalRest
      if content.any isControlInLines then failure
      pure content
  return String.ofList (content ++ (← quotesAfter quote))

/-- A string of any of the four forms. -/
def stringValue : Reader String := do
  match ← peek with
  | some '"' =>
    match ← optional (word ['"', '"', '"']) with
    | some () => stringOfLines '"'
    | none => word ['"']; basicString
  | some '\'' =>
    match ← optional (word ['\'', '\'', '\'']) with
    | some () => stringOfLines '\''
    | none => word ['\'']; literalString
  | _ => failure

/-! ### Keys -/

/-- A key: the names on the way to a value. -/
abbrev Key := List String

/-- One name of a key. -/
def keyPart : Reader String := do
  match ← peek with
  | some '"' => word ['"']; basicString
  | some '\'' => word ['\'']; literalString
  | _ =>
    let name ← run isKeyChar
    if name.isEmpty then failure else pure (String.ofList name)

/-- The names of a key after the first; there are at most `steps`. -/
def keyRest : (steps : Nat) → Reader Key
  | 0 => pure []
  | steps + 1 => do
    if ← found '.' then
      skip isSpace
      let part ← keyPart
      skip isSpace
      (part :: ·) <$> keyRest steps
    else pure []

/-- A key: names with dots between them. -/
def key : Reader Key := do
  let part ← keyPart
  skip isSpace
  (part :: ·) <$> keyRest (← left)

/-! ### Dates and times -/

/-- A number of `width` decimal digits within a range. -/
def fixedNumber (width low high : Nat) : Reader Nat := do
  let digits ← (List.replicate width ()).mapM fun _ => one Char.isDigit
  let n := numberOf 10 digits
  if low ≤ n ∧ n ≤ high then pure n else failure

/-- A time of day.  Digits after the sixth of a fraction are dropped. -/
def time : Reader Time := do
  let hour ← fixedNumber 2 0 23
  word [':']
  let minute ← fixedNumber 2 0 59
  word [':']
  let second ← fixedNumber 2 0 59
  let fraction ← optional do
    word ['.']
    let digits ← run Char.isDigit
    if digits.isEmpty then failure else pure digits
  let digits := (fraction.getD []).take 6
  return ⟨hour, minute, second, numberOf 10 (digits ++ List.replicate (6 - digits.length) '0')⟩

/-- An offset from universal time in minutes. -/
def offset : Reader Int := do
  let sign ← one fun c => c ∈ ['Z', 'z', '+', '-']
  if sign ∈ ['Z', 'z'] then return 0
  let hours ← fixedNumber 2 0 23
  word [':']
  let minutes ← fixedNumber 2 0 59
  let total : Int := hours * 60 + minutes
  return if sign = '-' then -total else total

/-- A date, or a date and a time with a `T` or a space between them. -/
def dateValue : Reader Value := do
  let year ← fixedNumber 4 0 9999
  word ['-']
  let month ← fixedNumber 2 1 12
  word ['-']
  let day ← fixedNumber 2 1 31
  let date : Date := ⟨year, month, day⟩
  if !date.isValid then failure
  let timeOfDay ← optional do
    let _ ← one fun c => c ∈ ['T', 't', ' ']
    let t ← time
    return (t, ← optional offset)
  match timeOfDay with
  | some (t, o) => pure (.dateTime date t o)
  | none => pure (.date date)

/-! ### Numbers -/

/-- Digits after a digit; single underscores may stand between two digits. -/
def digitsAfter (isDigit : Char → Bool) : List Char → List Char × List Char
  | '_' :: c :: rest =>
    if isDigit c then
      let (digits, rest) := digitsAfter isDigit rest
      (c :: digits, rest)
    else ([], '_' :: c :: rest)
  | c :: rest =>
    if isDigit c then
      let (digits, rest) := digitsAfter isDigit rest
      (c :: digits, rest)
    else ([], c :: rest)
  | [] => ([], [])

/-- A run of digits. -/
def digits (isDigit : Char → Bool) : Reader (List Char) := do
  let first ← one isDigit
  fun cs =>
    let (more, rest) := digitsAfter isDigit cs
    some (first :: more, rest)

/-- A sign, if there is one: the number is negative. -/
def sign : Reader Bool := do
  if ← found '-' then pure true
  else
    let _ ← found '+'
    pure false

/-- A natural number with a mark for its base. -/
def basedNumber (mark : Char) (base : Nat) (isDigit : Char → Bool) : Reader Value := do
  word ['0', mark]
  return .integer (numberOf base (← digits isDigit))

/-- The digits of the whole part of a decimal number: no zero stands before other digits. -/
def wholeDigits : Reader (List Char) := do
  if ← found '0' then pure ['0'] else digits Char.isDigit

/-- A decimal number; it is an integer unless it has a fraction or an exponent. -/
def decimalNumber : Reader Value := do
  let negative ← sign
  let whole ← wholeDigits
  let fraction ← optional do
    word ['.']
    digits Char.isDigit
  let exponent ← optional do
    let _ ← one fun c => c ∈ ['e', 'E']
    let negative ← sign
    let size : Int := numberOf 10 (← digits Char.isDigit)
    return if negative then -size else size
  match fraction, exponent with
  | none, none =>
    let n : Int := numberOf 10 whole
    return .integer (if negative then -n else n)
  | _, _ =>
    let places := fraction.getD []
    return .float (Binary64.ofDecimal negative (numberOf 10 (whole ++ places))
      (exponent.getD 0 - places.length))

/-- Infinity or the value that is no number. -/
def specialFloat : Reader Value := do
  let negative ← sign
  (do word ['i', 'n', 'f']; pure (.float (.infinite negative))) <|>
    (do word ['n', 'a', 'n']; pure (.float .notANumber))

/-- A truth value. -/
def truthValue : Reader Value :=
  (do word "true".toList; pure (.boolean true)) <|> (do word "false".toList; pure (.boolean false))

/-- A value that holds no others. -/
def simpleValue : Reader Value :=
  (.string <$> stringValue) <|> truthValue <|> dateValue <|> (.time <$> time) <|>
    basedNumber 'x' 16 isHexDigit <|> basedNumber 'b' 2 (fun c => c = '0' || c = '1') <|>
    basedNumber 'o' 8 (fun c => '0' ≤ c && c ≤ '7') <|> decimalNumber <|> specialFloat

end Toml

end CodeSurvey
