import CodeSurvey.Text.Digit

/-!
# Switches

The switches of the command line, their spellings, and what a single word of a command line can
be.  A long spelling may be cut short as long as it means one switch only; short spellings may be
joined in one word, and a value may follow its switch in the same word, after `=` or, with a short
spelling, directly.
-/

namespace CodeSurvey

namespace CommandLine

/-- A switch. -/
inductive Switch where
  | help | output | jobs | flatContext | quiet | verbose
deriving DecidableEq, Repr, Inhabited

namespace Switch

/-- All switches in the order in which they are listed. -/
def all : List Switch := [help, output, jobs, flatContext, quiet, verbose]

/-- The spellings of a switch. -/
def spellings : Switch → List String
  | help => ["-h", "--help"]
  | output => ["-o", "--output"]
  | jobs => ["-j", "--jobs"]
  | flatContext => ["--legacy-js-context"]
  | quiet => ["-q", "--quiet"]
  | verbose => ["-v", "--verbose"]

/-- The name of a switch in messages. -/
def name (s : Switch) : String := "/".intercalate s.spellings

/-- The switch has to have a value. -/
def takesValue : Switch → Bool
  | output | jobs => true
  | _ => false

/-- All spellings, each with its switch. -/
def table : List (String × Switch) :=
  all.flatMap fun s => s.spellings.map fun spelling => (spelling, s)

/-- The switch of a spelling that is not cut short. -/
def ofSpelling? (spelling : String) : Option Switch := table.lookup spelling

end Switch

/-! ### Words -/

/-- What follows a switch in its word: text after `=`, or text that follows directly. -/
structure Attached where
  afterEquals : Bool
  text : List Char
deriving DecidableEq, Repr, Inhabited

/-- What a word of a command line is. -/
inductive Word where
  /-- A value or an operand. -/
  | plain
  /-- Two dashes, after which no word is a switch. -/
  | marker
  /-- A switch, which may be the first of several. -/
  | switch (s : Switch) (isLong : Bool) (attached : Option Attached)
  /-- The word looks like a switch and is none. -/
  | unknown
  /-- The word is short for more than one spelling. -/
  | ambiguous (spellings : List String)
deriving DecidableEq, Repr, Inhabited

namespace Word

/-- The part of a word before its first `=`, and the part after it if there is one. -/
def cutAtEquals (word : List Char) : List Char × Option (List Char) :=
  match word.dropWhile (· ≠ '=') with
  | [] => (word, none)
  | _ :: value => (word.takeWhile (· ≠ '='), some value)

/-- The characters are decimal digits. -/
def allDigits (l : List Char) : Bool := l.all Text.isDigit

/-- The word is a dash and a number, which may have a fraction but no sign or exponent.  A line
end may follow. -/
def isNegativeNumber : List Char → Bool
  | '-' :: rest =>
    let number := if rest.getLast? = some '\n' then rest.dropLast else rest
    match number.dropWhile Text.isDigit with
    | [] => number ≠ []
    | '.' :: fraction => fraction ≠ [] ∧ allDigits fraction
    | _ => false
  | _ => false

/-- The long spellings that begin with the given characters. -/
def longSpellings (beginning : List Char) : List (String × Switch) :=
  Switch.table.filter fun entry => beginning.isPrefixOf entry.1.toList

/-- A word that is no switch, as far as can be told by its looks. -/
def otherwise (word : List Char) : Word :=
  if isNegativeNumber word ∨ word.contains ' ' then plain else unknown

/-- What a word is that begins with one dash or two, has more characters than one and is no
spelling. -/
def ofDashed (word : List Char) : Word :=
  let (before, value) := cutAtEquals word
  let attached := value.map fun v => (⟨true, v⟩ : Attached)
  match value.bind fun _ => Switch.ofSpelling? (String.ofList before) with
  | some s => switch s (before.take 2 = ['-', '-']) attached
  | none =>
    match word with
    | '-' :: '-' :: _ =>
      match longSpellings before with
      | [] => otherwise word
      | [(_, s)] => switch s true attached
      | several => ambiguous (several.map (·.1))
    | _ =>
      match Switch.ofSpelling? (String.ofList (word.take 2)) with
      | some s => switch s false (some ⟨false, word.drop 2⟩)
      | none => otherwise word

/-- What a word is that stands before any marker. -/
def ofString (text : String) : Word :=
  let word := text.toList
  match word with
  | '-' :: _ :: _ =>
    if text = "--" then marker
    else match Switch.ofSpelling? text with
      | some s => switch s (word.take 2 = ['-', '-']) none
      | none => ofDashed word
  | _ => plain

/-- The words of a command line with what they are. -/
def classify : List String → List (String × Word)
  | [] => []
  | text :: rest =>
    match ofString text with
    | marker => (text, marker) :: rest.map fun t => (t, plain)
    | word => (text, word) :: classify rest

end Word

end CommandLine

end CodeSurvey
