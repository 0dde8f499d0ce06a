import CodeSurvey.Report.Basic

/-!
# The written report

A report is written as a JSON document of ASCII characters.  `Json.render` lays a document out
over lines: every member of a list or object stands on a line of its own, two spaces deeper than
the bracket it belongs to, and an empty list or object is a pair of brackets.  Objects keep the
order of their members.

A number is written with all its digits and a document of any depth is laid out.  An interpreter
may limit both, the digits that it converts and the depth to which it recurses; such limits are
not part of the model.
-/

namespace CodeSurvey

/-- The JSON documents that reports are made of. -/
inductive Json where
  | text (value : String)
  | number (value : Int)
  | list (items : List Json)
  | object (members : List (String × Json))
deriving Repr, Inhabited

namespace Json

/-! ### Strings -/

/-- The four hexadecimal digits, in lower case, of a UTF-16 code unit. -/
def unitDigits (n : Nat) : List Char :=
  [n / 4096, n / 256, n / 16, n].map fun d => Nat.digitChar (d % 16)

/-- The escape of a UTF-16 code unit. -/
def unitEscape (n : Nat) : List Char := '\\' :: 'u' :: unitDigits n

/-- The UTF-16 code units of a character: one, or two surrogates above U+FFFF. -/
def units (c : Char) : List Nat :=
  let n := c.toNat
  if n ≤ 0xFFFF then [n]
  else [0xD800 + (n - 0x10000) / 0x400, 0xDC00 + (n - 0x10000) % 0x400]

/-- One character inside a string: visible ASCII and the space stand for themselves, apart from
the quote and the backslash; five control characters have short escapes. -/
def escapedChar (c : Char) : List Char :=
  if c = '"' then ['\\', '"']
  else if c = '\\' then ['\\', '\\']
  else if c = '\n' then ['\\', 'n']
  else if c = '\r' then ['\\', 'r']
  else if c = '\t' then ['\\', 't']
  else if c = '\x08' then ['\\', 'b']
  else if c = '\x0C' then ['\\', 'f']
  else if ' ' ≤ c ∧ c ≤ '~' then [c]
  else (units c).flatMap unitEscape

/-- A string with its quotes. -/
def stringText (s : String) : String :=
  String.ofList ('"' :: s.toList.flatMap escapedChar ++ ['"'])

/-! ### Layout -/

/-- A line break and the indentation of the given depth. -/
def newline (depth : Nat) : String := "\n" ++ String.ofList (List.replicate (2 * depth) ' ')

mutual

/-- A document whose opening bracket stands at the given depth. -/
def renderAt (depth : Nat) : Json → String
  | text value => stringText value
  | number value => toString value
  | list [] => "[]"
  | list (item :: items) =>
    "[" ++ newline (depth + 1) ++ renderAt (depth + 1) item ++
      renderItems (depth + 1) items ++ newline depth ++ "]"
  | object [] => "\x7b\x7d"
  | object (member :: members) =>
    "\x7b" ++ newline (depth + 1) ++ renderMember (depth + 1) member ++
      renderMembers (depth + 1) members ++ newline depth ++ "\x7d"

/-- A member of an object. -/
def renderMember (depth : Nat) : String × Json → String
  | (key, value) => stringText key ++ ": " ++ renderAt depth value

/-- The items after the first, each with the comma before it. -/
def renderItems (depth : Nat) : List Json → String
  | [] => ""
  | item :: items => "," ++ newline depth ++ renderAt depth item ++ renderItems depth items

/-- The members after the first, each with the comma before it. -/
def renderMembers (depth : Nat) : List (String × Json) → String
  | [] => ""
  | member :: members =>
    "," ++ newline depth ++ renderMember depth member ++ renderMembers depth members

end

/-- The text of a document. -/
def render (document : Json) : String := renderAt 0 document

end Json

/-! ### Reports as documents -/

/-- A location; lines that it does not have are left out. -/
def Location.toJson (l : Location) : Json :=
  .object <| ("file", .text l.file) ::
    ((l.startLine.toList.map fun n => ("startLine", .number n)) ++
      (l.endLine.toList.map fun n => ("endLine", .number n)))

/-- A call edge. -/
def CallEdge.toJson (e : CallEdge) : Json :=
  .object [("name", .text e.name), ("location", e.location.toJson)]

/-- The report of a file. -/
def FileReport.toJson (r : FileReport) : Json :=
  .object [
    ("functions", .list (r.functions.map .text)),
    ("dependencies", .list (r.dependencies.map .text)),
    ("functionCalls", .object (r.calls.map fun c => (c.1, .list (c.2.map CallEdge.toJson))))]

/-- The report of a directory. -/
def DirectoryReport.toJson (r : DirectoryReport) : Json :=
  .object [
    ("files", .object (r.files.map fun f => (f.1, f.2.toJson))),
    ("subfolders", .list (r.subfolders.map .text))]

/-- The report of a project. -/
def ProjectReport.toJson (r : ProjectReport) : Json :=
  .object (r.map fun d => (d.1, d.2.toJson))

/-- The written report, without a final line break. -/
def ProjectReport.render (r : ProjectReport) : String := (ProjectReport.toJson r).render

end CodeSurvey
