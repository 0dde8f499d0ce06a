import CodeSurvey.Parsing.Source
import Std.Data.HashMap

/-!
# Recursive descent

A grammar is a type `κ` of rules with a body `κ → Parse κ Unit` for each.  A body is built from
the combinators of this file and names other rules by `call`.  `Parse.run` ties the knot: it
gives every body a bound on the depth of the calls below it, so parsing is total although rules
refer to each other.

A parse consumes characters and leaves the nodes it has finished in the *forest* of its cursor,
the latest first.  `node` collects what its body leaves into one node.  A failed alternative
leaves no trace, except in the *memory*: the rules that a grammar marks for it are parsed at most
once at each position, which keeps backtracking linear.

Blanks and comments between tokens are the grammar's *extras*.  They are skipped only in front of
a token that is then consumed, so a node never ends in them.
-/

namespace CodeSurvey

/-- What lies between tokens: the extra that starts at a position, if any, by the kind of its
node (blanks have none) and the position after it. -/
abbrev Extras := Source → Nat → Option (Option String × Nat)

/-- What remembered rules yielded: the nodes they left, latest first, and where they stopped. -/
abbrev Memory (κ : Type) [BEq κ] [Hashable κ] := Std.HashMap (κ × Nat) (Option (List Node × Nat))

/-- The state of a parse. -/
structure Cursor (κ : Type) [BEq κ] [Hashable κ] where
  position : Nat
  forest : List Node
  memory : Memory κ

/-- The result of a parse. -/
inductive Outcome (κ : Type) [BEq κ] [Hashable κ] (α : Type) where
  | success (value : α) (cursor : Cursor κ)
  | failure (memory : Memory κ)

/-- What a parse works on: the text, the extras, and the bodies of the rules, which work with the
extras of their caller. -/
structure Setting (κ : Type) [BEq κ] [Hashable κ] where
  source : Source
  extras : Extras
  call : κ → Extras → Cursor κ → Outcome κ Unit

/-- A parse by the rules `κ` with a value of type `α`. -/
def Parse (κ : Type) [BEq κ] [Hashable κ] (α : Type) := Setting κ → Cursor κ → Outcome κ α

namespace Parse

variable {κ : Type} [BEq κ] [Hashable κ] {α β : Type}

/-! ### Sequence and choice -/

@[inline] instance : Monad (Parse κ) where
  pure a := fun _ c => .success a c
  bind p f := fun s c =>
    match p s c with
    | .success a c => f a s c
    | .failure m => .failure m

/-- Fails. -/
@[inline] def fail : Parse κ α := fun _ c => .failure c.memory

/-- The first of two parses that succeeds. -/
@[inline] def orElse (p q : Parse κ α) : Parse κ α := fun s c =>
  let position := c.position
  let forest := c.forest
  match p s c with
  | .success a c => .success a c
  | .failure m => q s ⟨position, forest, m⟩

instance : OrElse (Parse κ α) := ⟨fun p q => orElse p (q ())⟩

/-- The first of some parses that succeeds. -/
def choice : List (Parse κ α) → Parse κ α
  | [] => fail
  | [p] => p
  | p :: rest => orElse p (choice rest)

/-- A parse, or nothing. -/
@[inline] def perhaps (p : Parse κ Unit) : Parse κ Unit := orElse p (pure ())

/-- Whether a parse succeeds; if it does, it has been made. -/
@[inline] def succeeds (p : Parse κ Unit) : Parse κ Bool :=
  orElse (do p; pure true) (pure false)

/-- Fails unless the condition holds. -/
@[inline] def ensure (condition : Bool) : Parse κ Unit := if condition then pure () else fail

/-- The value of a parse that is then undone. -/
@[inline] def ahead (p : Parse κ α) : Parse κ α := fun s c =>
  let position := c.position
  let forest := c.forest
  match p s c with
  | .success a c => .success a ⟨position, forest, c.memory⟩
  | .failure m => .failure m

/-- Succeeds, consuming nothing, where the parse fails. -/
@[inline] def absent (p : Parse κ Unit) : Parse κ Unit := fun s c =>
  let position := c.position
  let forest := c.forest
  match p s c with
  | .success _ c => .failure c.memory
  | .failure m => .success () ⟨position, forest, m⟩

/-- Repeats a parse as long as it succeeds and consumes something, `fuel` times at most. -/
def manyUpTo (p : Parse κ Unit) : (fuel : Nat) → Parse κ Unit
  | 0 => pure ()
  | fuel + 1 => fun s c =>
    let position := c.position
    let forest := c.forest
    match p s c with
    | .success _ c => if position < c.position then manyUpTo p fuel s c else .success () c
    | .failure m => .success () ⟨position, forest, m⟩

/-- Repeats a parse as long as it succeeds and consumes something. -/
def many (p : Parse κ Unit) : Parse κ Unit := fun s c =>
  manyUpTo p (s.source.size + 1 - c.position) s c

/-- Repeats a step as long as it yields a new value and consumes something, `fuel` times at
most. -/
def iterateUpTo (step : α → Parse κ α) : (fuel : Nat) → α → Parse κ α
  | 0, a => pure a
  | fuel + 1, a => fun s c =>
    let position := c.position
    let forest := c.forest
    match step a s c with
    | .success b c =>
      if position < c.position then iterateUpTo step fuel b s c else .success b c
    | .failure m => .success a ⟨position, forest, m⟩

/-- Repeats a step, starting from a value, as long as it succeeds and consumes something. -/
def iterate (step : α → Parse κ α) (start : α) : Parse κ α := fun s c =>
  iterateUpTo step (s.source.size + 1 - c.position) start s c

/-- A parse, at least once. -/
def atLeastOne (p : Parse κ Unit) : Parse κ Unit := do p; many p

/-- One or more parses with separators between them. -/
def separated (p separator : Parse κ Unit) : Parse κ Unit := do p; many do separator; p

/-! ### Position and text -/

/-- The text that is parsed. -/
@[inline] def source : Parse κ Source := fun s c => .success s.source c

/-- The position reached. -/
@[inline] def position : Parse κ Nat := fun _ c => .success c.position c

/-- Moves to a position. -/
@[inline] def moveTo (position : Nat) : Parse κ Unit := fun _ c =>
  .success () ⟨position, c.forest, c.memory⟩

/-- Consumes what a scanner recognises at the position reached. -/
@[inline] def scan (scanner : Source → Nat → Option Nat) : Parse κ Unit := fun s c =>
  match scanner s.source c.position with
  | some stop => .success () ⟨stop, c.forest, c.memory⟩
  | none => .failure c.memory

/-! ### Nodes -/

/-- A node over the text between two positions. -/
def nodeOver (s : Source) (kind : String) (start stop : Nat) (children : List Node)
    (named : Bool := true) : Node where
  kind := kind
  named := named
  startRow := s.row start
  endRow := s.row stop
  text := s.slice start stop
  children := children

/-- Leaves a node. -/
@[inline] def leave (n : Node) : Parse κ Unit := fun _ c =>
  .success () ⟨c.position, n :: c.forest, c.memory⟩

/-- Leaves some nodes, the first one first. -/
@[inline] def leaveAll (nodes : List Node) : Parse κ Unit := fun _ c =>
  .success () ⟨c.position, nodes.reverse ++ c.forest, c.memory⟩

/-- The value of a parse with the nodes it leaves, first one first, instead of leaving them. -/
@[inline] def gathered (p : Parse κ α) : Parse κ (α × List Node) := fun s c =>
  let forest := c.forest
  match p s ⟨c.position, [], c.memory⟩ with
  | .success a c => .success (a, c.forest.reverse) ⟨c.position, forest, c.memory⟩
  | .failure m => .failure m

/-- The nodes that a parse leaves, first one first, instead of leaving them. -/
@[inline] def collected (p : Parse κ Unit) : Parse κ (List Node) := do
  return (← gathered p).2

/-- A node that comes from a comment between tokens. -/
def isComment (n : Node) : Bool := n.kind ∈ ["comment", "line_comment", "block_comment"]

/-- The one node that a parse leaves besides comments in front of it, which stay; fails when it
leaves none or more. -/
@[inline] def single (p : Parse κ Unit) : Parse κ Node := do
  match (← collected p).span isComment with
  | (comments, [n]) => do
    leaveAll comments
    return n
  | _ => fail

/-- Skips extras, `fuel` of them at most, and leaves the nodes of those that have one. -/
def extrasUpTo : (fuel : Nat) → Parse κ Unit
  | 0 => pure ()
  | fuel + 1 => fun s c =>
    match s.extras s.source c.position with
    | none => .success () c
    | some (kind, stop) =>
      if c.position < stop then
        let forest :=
          match kind with
          | some kind => nodeOver s.source kind c.position stop [] :: c.forest
          | none => c.forest
        extrasUpTo fuel s ⟨stop, forest, c.memory⟩
      else .success () c

/-- Skips the extras at the position reached. -/
def extras : Parse κ Unit := fun s c => extrasUpTo (s.source.size - c.position) s c

/-- Leaves a node over everything from `start` up to the position reached. -/
def finish (kind : String) (start : Nat) (children : List Node) : Parse κ Unit := fun s c =>
  .success () ⟨c.position, nodeOver s.source kind start c.position children :: c.forest, c.memory⟩

/-- A node whose children are what the parse leaves.  It begins after the extras. -/
def node (kind : String) (p : Parse κ Unit) : Parse κ Unit := do
  extras
  let start ← position
  let children ← collected p
  finish kind start children

/-- A node whose children are what the parse leaves and whose kind is the parse's value.  It
begins after the extras. -/
def nodeOfKind (p : Parse κ String) : Parse κ Unit := do
  extras
  let start ← position
  let (kind, children) ← gathered p
  finish kind start children

/-- A leaf over what a scanner recognises after the extras. -/
def leaf (kind : String) (scanner : Source → Nat → Option Nat) (named : Bool := true) :
    Parse κ Unit := do
  extras
  leafHere kind scanner named
where
  /-- A leaf over what a scanner recognises at the position reached. -/
  leafHere (kind : String) (scanner : Source → Nat → Option Nat) (named : Bool) :
      Parse κ Unit := fun s c =>
    match scanner s.source c.position with
    | some stop =>
      .success () ⟨stop, nodeOver s.source kind c.position stop [] named :: c.forest, c.memory⟩
    | none => .failure c.memory

/-- A leaf that begins right where the token before it ends. -/
def leafAtOnce (kind : String) (scanner : Source → Nat → Option Nat) : Parse κ Unit :=
  leaf.leafHere kind scanner true

/-- Gives the nodes that a parse leaves a field, unless they have one or are comments. -/
def label (field : String) (p : Parse κ Unit) : Parse κ Unit := do
  let nodes ← collected p
  leaveAll (nodes.map fun n =>
    if n.field.isSome || isComment n then n else { n with field := some field })

/-! ### Rules -/

/-- The body of a rule. -/
@[inline] def call (rule : κ) : Parse κ Unit := fun s c => s.call rule s.extras c

/-- A parse between whose tokens stand other extras. -/
@[inline] def among (extras : Extras) (p : Parse κ α) : Parse κ α := fun s c =>
  p { s with extras := extras } c

/-- A parse that stands for a rule at its position: what it yields there is remembered. -/
def remembered (rule : κ) (p : Parse κ Unit) : Parse κ Unit := fun s c =>
  let position := c.position
  let forest := c.forest
  match c.memory[(rule, position)]? with
  | some (some (nodes, stop)) => .success () ⟨stop, nodes ++ forest, c.memory⟩
  | some none => .failure c.memory
  | none =>
    match p s ⟨position, [], c.memory⟩ with
    | .success _ c =>
      .success () ⟨c.position, c.forest ++ forest,
        c.memory.insert (rule, position) (some (c.forest, c.position))⟩
    | .failure m => .failure (m.insert (rule, position) none)

/-- The setting in which calls may nest `depth` deep. -/
def setting (source : Source) (body : κ → Parse κ Unit) : (depth : Nat) → Extras → Setting κ
  | 0, extras => ⟨source, extras, fun _ _ c => .failure c.memory⟩
  | depth + 1, extras =>
    ⟨source, extras, fun rule extras c => body rule (setting source body depth extras) c⟩

/-- The nodes that a parse of the whole text leaves, with the position it stops at.  Calls may
nest as deep as every character can open a hundred of them. -/
def run (source : Source) (extras : Extras) (body : κ → Parse κ Unit) (p : Parse κ Unit) :
    Option (List Node × Nat) :=
  match p (setting source body (100 * (source.size + 1)) extras) ⟨0, [], {}⟩ with
  | .success _ c => some (c.forest.reverse, c.position)
  | .failure _ => none

end Parse

end CodeSurvey
