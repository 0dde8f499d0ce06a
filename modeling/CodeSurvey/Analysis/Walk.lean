import CodeSurvey.Syntax.Node
import CodeSurvey.Report.Builder

/-!
# Reading a tree

An analysis visits the nodes of a tree in pre-order.  A *visit* of a node, made with the name of
the unit the node belongs to, says what the node means and which nodes below it are to be
visited, each with the unit it belongs to.  A walk may also have a memory, which every visit
reads and leaves to the next.  `Walk.events` keeps the nodes still to be visited on a stack, so
trees of any depth are read in constant stack space; it ends because what a visit puts back is
smaller than what it takes.
-/

namespace CodeSurvey

/-- What the visit of a node yields. -/
structure Visit where
  /-- What the node means, in order. -/
  events : List Event
  /-- The nodes to visit next. -/
  below : List Node
  /-- The unit that these nodes belong to. -/
  unit : Option String
deriving Repr, Inhabited

/-- The nodes to visit next, each with its unit. -/
def Visit.pending (v : Visit) : List (Node × Option String) := v.below.map fun n => (n, v.unit)

/-- A way to visit nodes in which every visit goes down. -/
structure Walk (Memory : Type) where
  /-- What the visit of a node yields, and what the walk remembers after it. -/
  visit : Memory → Node → Option String → Visit × Memory
  goesDown : ∀ memory n unit,
    Node.forestSize (visit memory n unit).1.below ≤ Node.forestSize n.children

namespace Walk

variable {Memory : Type}

/-- The number of nodes in a list of pending trees. -/
def pendingSize : List (Node × Option String) → Nat
  | [] => 0
  | (n, _) :: rest => n.size + pendingSize rest

theorem pendingSize_append (l r : List (Node × Option String)) :
    pendingSize (l ++ r) = pendingSize l + pendingSize r := by
  induction l with
  | nil => simp [pendingSize]
  | cons p l ih => simp [pendingSize, ih, Nat.add_assoc]

theorem pendingSize_pending (v : Visit) : pendingSize v.pending = Node.forestSize v.below := by
  obtain ⟨_, nodes, unit⟩ := v
  unfold Visit.pending
  induction nodes with
  | nil => simp [pendingSize]
  | cons n nodes ih => simpa [pendingSize] using ih

/-- Visits the pending nodes from first to last; `found` holds the events so far, latest first. -/
def loop (w : Walk Memory) (found : List Event) (memory : Memory) :
    List (Node × Option String) → List Event
  | [] => found.reverse
  | (n, unit) :: rest =>
    let v := w.visit memory n unit
    w.loop (v.1.events.reverse ++ found) v.2 (v.1.pending ++ rest)
termination_by pending => pendingSize pending
decreasing_by
  have := w.goesDown memory n unit
  simp only [pendingSize_append, pendingSize_pending, pendingSize]
  rw [Node.size_eq]
  omega

/-- The events of a tree, read outside of any unit. -/
def events (w : Walk Memory) (memory : Memory) (root : Node) : List Event :=
  w.loop [] memory [(root, none)]

end Walk

end CodeSurvey
