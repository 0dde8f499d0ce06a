import CodeSurvey.Toml.Lexeme

/-!
# Documents

`Toml.parse` reads a document into a table.  A document is a list of statements — headers of
tables, headers of array items, and entries — and `Assembly.apply` says what a statement adds to
the table and what it shuts: a table whose header has been seen is not opened a second time, the
tables on the way of a dotted key are not opened by a later header, and arrays and tables written
as values are never added to.
-/

namespace CodeSurvey

namespace Toml

open Reader

/-! ### Tables under keys -/

/-- Changes the table that a key leads to; tables missing on the way are made.  With
`throughArrays`, an array on the way stands for its last item. -/
def change? (throughArrays : Bool) (f : Table → Option Table) : Key → Table → Option Table
  | [], table => f table
  | name :: rest, table =>
    match table.lookup name with
    | none => (change? throughArrays f rest []).map fun t => assign name (.table t) table
    | some (.table inner) =>
      (change? throughArrays f rest inner).map fun t => assign name (.table t) table
    | some (.array items) =>
      match throughArrays, items.getLast? with
      | true, some (.table inner) =>
        (change? throughArrays f rest inner).map fun t =>
          assign name (.array (items.dropLast ++ [.table t])) table
      | _, _ => none
    | some _ => none

/-- Adds an entry to a table, which must not have one of that name. -/
def insertNew? (name : String) (value : Value) (table : Table) : Option Table :=
  match table.lookup name with
  | none => some (assign name value table)
  | some _ => none

/-- Adds an empty table to the array of that name, which is made if it is missing. -/
def appendItem? (name : String) (table : Table) : Option Table :=
  match table.lookup name with
  | none => some (assign name (.array [.table []]) table)
  | some (.array items) => some (assign name (.array (items ++ [.table []])) table)
  | some _ => none

/-- Values that nothing is added to. -/
def isContainer : Value → Bool
  | .array _ | .table _ => true
  | _ => false

/-- One of the keys is a beginning of the given key. -/
def covered (keys : List Key) (key : Key) : Bool := keys.any (·.isPrefixOf key)

/-- The table with the given entries, written between braces. -/
def inlineTable? (entries : List (Key × Value)) : Option Table :=
  go [] [] entries
where
  /-- Adds entries one by one; `frozen` are the keys of the containers so far. -/
  go (frozen : List Key) (table : Table) : List (Key × Value) → Option Table
    | [] => some table
    | (key, value) :: rest =>
      if covered frozen key then none
      else
        match change? false (insertNew? (key.getLast?.getD "") value) key.dropLast table with
        | some table => go (if isContainer value then key :: frozen else frozen) table rest
        | none => none

/-! ### Values -/

/-- Skips a comment, if there is one. -/
def comment : Reader Unit := do
  if (← peek) = some '#' then
    let content ← run (· ≠ '\n')
    if content.any isControl then failure

/-- Skips blanks, line ends and comments; there are at most `steps` comments. -/
def between : (steps : Nat) → Reader Unit
  | 0 => skip isSpaceOrLine
  | steps + 1 => do
    skip isSpaceOrLine
    if (← peek) = some '#' then
      comment
      between steps

/-- Skips what may stand between the items of an array. -/
def betweenItems : Reader Unit := do between (← left)

/-- The items of an array up to the closing bracket, at most `steps` of them. -/
def arrayItems (item : Reader Value) : (steps : Nat) → Reader (List Value)
  | 0 => failure
  | steps + 1 => do
    let value ← item
    betweenItems
    if ← found ']' then pure [value]
    else
      word [',']
      betweenItems
      if ← found ']' then pure [value]
      else (value :: ·) <$> arrayItems item steps

/-- A key and its value. -/
def entry (item : Reader Value) : Reader (Key × Value) := do
  let name ← key
  word ['=']
  skip isSpace
  return (name, ← item)

/-- The entries between braces up to the closing one, at most `steps` of them. -/
def inlineEntries (item : Reader Value) : (steps : Nat) → Reader (List (Key × Value))
  | 0 => failure
  | steps + 1 => do
    let first ← entry item
    skip isSpace
    if ← found '\x7d' then pure [first]
    else
      word [',']
      skip isSpace
      (first :: ·) <$> inlineEntries item steps

/-- A value; arrays and tables nest at most `depth` deep. -/
def value : (depth : Nat) → Reader Value
  | 0 => failure
  | depth + 1 => do
    if ← found '[' then
      betweenItems
      if ← found ']' then pure (.array [])
      else .array <$> arrayItems (value depth) (← left)
    else if ← found '\x7b' then
      skip isSpace
      if ← found '\x7d' then pure (.table [])
      else
        match inlineTable? (← inlineEntries (value depth) (← left)) with
        | some table => pure (.table table)
        | none => failure
    else simpleValue

/-! ### Statements -/

/-- A statement of a document. -/
inductive Statement where
  /-- The entries that follow belong to the table under the key. -/
  | tableHeader (key : Key)
  /-- The entries that follow belong to a new item of the array under the key. -/
  | itemHeader (key : Key)
  | entry (key : Key) (value : Value)
deriving Repr, Inhabited

/-- A header of a table or of an array item. -/
def header : Reader Statement := do
  match ← optional (word ['[', '[']) with
  | some () =>
    skip isSpace
    let name ← key
    word [']', ']']
    pure (.itemHeader name)
  | none =>
    word ['[']
    skip isSpace
    let name ← key
    word [']']
    pure (.tableHeader name)

/-- The statement of a line; a line may be blank or hold a comment alone. -/
def line : Reader (Option Statement) := do
  skip isSpace
  let statement ←
    match ← peek with
    | none | some '\n' | some '#' => pure none
    | some '[' => some <$> header
    | some _ => do
      let (name, v) ← entry (value ((← left) + 1))
      pure (some (.entry name v))
  skip isSpace
  comment
  pure statement

/-- The statements of a document of at most `steps` lines. -/
def statements : (steps : Nat) → Reader (List Statement)
  | 0 => failure
  | steps + 1 => do
    let first ← line
    if (← peek).isNone then return first.toList
    word ['\n']
    return first.toList ++ (← statements steps)

/-! ### Assembling the table -/

/-- A document as far as it has been put together. -/
structure Assembly where
  table : Table := []
  /-- The key of the latest header. -/
  current : Key := []
  /-- The tables that no header opens any more. -/
  closed : List Key := []
  /-- The tables that the next header closes. -/
  closing : List Key := []
  /-- The arrays and tables that were written as values. -/
  frozen : List Key := []

namespace Assembly

/-- The beginnings of a key, without the empty one and the key itself. -/
def properBeginnings (key : Key) : List Key :=
  (List.range (key.length - 1)).map fun i => key.take (i + 1)

/-- What a statement adds. -/
def apply (a : Assembly) : Statement → Option Assembly
  | .tableHeader key =>
    let closed := a.closing ++ a.closed
    if closed.contains key ∨ covered a.frozen key then none
    else (change? true some key a.table).map fun table =>
      { a with table, current := key, closed := key :: closed, closing := [] }
  | .itemHeader key =>
    if covered a.frozen key then none
    else
      let outside := fun k : Key => !key.isPrefixOf k
      (change? true (appendItem? (key.getLast?.getD "")) key.dropLast a.table).map fun table =>
        { table, current := key, closed := key :: (a.closing ++ a.closed).filter outside
          closing := [], frozen := a.frozen.filter outside }
  | .entry key value =>
    let passed := (properBeginnings key).map (a.current ++ ·)
    let parent := a.current ++ key.dropLast
    if passed.any a.closed.contains ∨ covered a.frozen parent then none
    else (change? true (insertNew? (key.getLast?.getD "") value) parent a.table).map fun table =>
      { a with
        table
        closing := passed ++ a.closing
        frozen := if isContainer value then (a.current ++ key) :: a.frozen else a.frozen }

end Assembly

/-- Brings the line ends of a text to line feeds. -/
def unifyLines : List Char → List Char
  | '\r' :: '\n' :: rest => '\n' :: unifyLines rest
  | c :: rest => c :: unifyLines rest
  | [] => []

/-- The table that a text describes, or `none` when the text is no document. -/
def parse (text : String) : Option Table := do
  let characters := unifyLines text.toList
  let (found, _) ← statements (characters.length + 1) characters
  let a ← found.foldlM Assembly.apply {}
  pure a.table

end Toml

end CodeSurvey
