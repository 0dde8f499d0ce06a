import CodeSurvey.Analysis.Walk

/-!
# Reading a script

Scripts declare units in more ways than one: function declarations, variables that are
initialised with a function, and, where classes count, class declarations.  Two readings tell
which unit a call belongs to.  In the *scoped* reading a unit owns what lies inside it.  In the
*flat* reading a unit owns every call from its declaration on, up to the next declaration,
whether or not it lies inside.
-/

namespace CodeSurvey

/-- How calls are credited to units. -/
inductive Reading where
  | scoped | flat
deriving DecidableEq, Repr, Inhabited

/-- What a script analysis takes into account. -/
structure Script where
  /-- Named classes are units. -/
  classesAsUnits : Bool := false
  /-- A call under `await` is also met at the `await`. -/
  unwrapAwait : Bool := false
  reading : Reading := .scoped
deriving DecidableEq, Repr, Inhabited

namespace Script

/-! ### Units -/

/-- The kinds of function declarations. -/
def functionKinds : List String := ["function_declaration", "generator_function_declaration"]

/-- The kinds of class declarations. -/
def classKinds : List String := ["class_declaration", "abstract_class_declaration"]

/-- The kinds of statements that declare variables. -/
def variableKinds : List String := ["lexical_declaration", "variable_declaration"]

/-- The kinds of values that make a variable a unit. -/
def functionValueKinds : List String :=
  ["arrow_function", "function_expression", "function", "generator_function"]

/-- The name of a declarator that declares a unit: an identifier initialised with a function. -/
def declaratorUnit? (n : Node) : Option String :=
  if n.kind = "variable_declarator" then
    match n.childByField? "name", n.childByField? "value" with
    | some name, some value =>
      if name.kind = "identifier" ∧ value.kind ∈ functionValueKinds then some name.text else none
    | _, _ => none
  else none

/-- The units declared at a node, each with the node that spans it. -/
def units (s : Script) (n : Node) : List (String × Node) :=
  if n.kind ∈ functionKinds ∨ (s.classesAsUnits ∧ n.kind ∈ classKinds) then
    match n.childByField? "name" with
    | some name => [(name.text, n)]
    | none => []
  else
    match s.reading with
    | .flat =>
      if n.kind ∈ variableKinds then
        n.namedChildren.filterMap fun d => (declaratorUnit? d).map (·, d)
      else []
    | .scoped =>
      match declaratorUnit? n with
      | some name => [(name, n)]
      | none => []

/-! ### Calls and dependencies -/

/-- Whom a call expression calls: a plain name, or the property at the end of a member access. -/
def callTarget? (call : Node) : Option String :=
  match call.childByField? "function" with
  | none => none
  | some f =>
    if f.kind = "member_expression" then (f.childByField? "property").map (·.text)
    else if f.kind = "identifier" then some f.text
    else none

/-- Whom the call at a node calls. -/
def callee? (s : Script) (n : Node) : Option String :=
  if n.kind = "call_expression" then callTarget? n
  else if s.unwrapAwait ∧ n.kind = "await_expression" then
    match n.namedChildren with
    | inner :: _ => if inner.kind = "call_expression" then callTarget? inner else none
    | [] => none
  else none

/-- The text without one pair of equal quotes around it. -/
def unquoted (text : String) : String :=
  match text.toList with
  | first :: second :: rest =>
    if first ∈ ['\'', '"', '\x60'] ∧ (second :: rest).getLast? = some first then
      String.ofList (second :: rest).dropLast
    else text
  | _ => text

/-- What a node defines. -/
def defineEvents (units : List (String × Node)) : List Event :=
  units.map fun u => .define u.1 ⟨u.2.startRow, u.2.endRow⟩

/-- The call at a node, credited to a unit. -/
def callEvents (s : Script) (unit : Option String) (n : Node) : List Event :=
  match unit, s.callee? n with
  | some caller, some callee => if callee = "" then [] else [.call caller callee]
  | _, _ => []

/-- What a node depends on. -/
def dependencyEvents (n : Node) : List Event :=
  if n.kind = "import_statement" then
    match n.childByField? "source" with
    | some source => [.dependency (unquoted source.text)]
    | none => []
  else []

/-- The unit that a node with the given units belongs to: the last of them, or the unit around
it. -/
def unitAt (units : List (String × Node)) (around : Option String) : Option String :=
  match units.getLast? with
  | some u => some u.1
  | none => around

/-- Everything that a node means, and the unit it belongs to. -/
def eventsAt (s : Script) (n : Node) (around : Option String) : List Event × Option String :=
  let units := s.units n
  let unit := unitAt units around
  (defineEvents units ++ s.callEvents unit n ++ dependencyEvents n, unit)

/-! ### The two readings -/

/-- The unit that a node belongs to before its own units: the one around it, or in the flat
reading the latest. -/
def unitBefore (s : Script) (latest around : Option String) : Option String :=
  match s.reading with
  | .scoped => around
  | .flat => latest

/-- The walk of a script.  It remembers the unit declared last; what lies below a node is given
the node's unit. -/
def walk (s : Script) : Walk (Option String) where
  visit latest n around :=
    let (events, unit) := s.eventsAt n (s.unitBefore latest around)
    (⟨events, n.children, unit⟩, unitAt (s.units n) latest)
  goesDown _ _ _ := Nat.le_refl _

/-- The events of a script's syntax tree. -/
def events (s : Script) (root : Node) : List Event := s.walk.events none root

end Script

end CodeSurvey
