/-!
# Syntax trees

A `Node` is what the analyses see of a parsed text: its kind, whether it is named or a mere
token, the field it fills in its parent, the rows it spans, its text and its children.
`Node.preorder` lists the nodes of a tree, each before its children; the searches
`Node.first?` and `Node.last?` find the two ends of that list without building it.

The searches go down a tree by recursion, however deep it is.  An interpreter may limit the depth
to which it recurses, and then gives up on deeper trees; that limit is not part of the model.
-/

namespace CodeSurvey

/-- A node of a syntax tree. -/
structure Node where
  /-- The grammar's word for what the node is. -/
  kind : String
  /-- Tokens without a name of their own, such as brackets and keywords, are not named. -/
  named : Bool := true
  /-- The role of the node in its parent. -/
  field : Option String := none
  /-- The row, counted from zero, in which the node begins. -/
  startRow : Nat := 0
  /-- The row in which the node ends. -/
  endRow : Nat := 0
  /-- The part of the source that the node covers. -/
  text : String := ""
  children : List Node := []
deriving Repr, Inhabited, BEq

namespace Node

/-! ### Size and pre-order -/

mutual

/-- The number of nodes of the tree. -/
def size : Node → Nat
  | ⟨_, _, _, _, _, _, children⟩ => 1 + forestSize children

/-- The number of nodes of a list of trees. -/
def forestSize : List Node → Nat
  | [] => 0
  | n :: rest => size n + forestSize rest

end

mutual

/-- The nodes of the tree, each node before its children and these from first to last. -/
def preorder : Node → List Node
  | n@⟨_, _, _, _, _, _, children⟩ => n :: forestPreorder children

/-- The nodes of a list of trees, tree by tree. -/
def forestPreorder : List Node → List Node
  | [] => []
  | n :: rest => preorder n ++ forestPreorder rest

end

theorem size_eq (n : Node) : n.size = 1 + forestSize n.children := by
  cases n; rw [size]

@[simp] theorem forestSize_nil : forestSize [] = 0 := by rw [forestSize]

@[simp] theorem forestSize_cons (n : Node) (rest : List Node) :
    forestSize (n :: rest) = n.size + forestSize rest := by rw [forestSize]

@[simp] theorem forestSize_append (l r : List Node) :
    forestSize (l ++ r) = forestSize l + forestSize r := by
  induction l with
  | nil => simp
  | cons n l ih => simp [ih, Nat.add_assoc]

theorem size_le_forestSize {n : Node} {l : List Node} (h : n ∈ l) : n.size ≤ forestSize l := by
  induction l with
  | nil => cases h
  | cons m l ih =>
    rw [forestSize_cons]
    rcases List.mem_cons.1 h with rfl | h
    · omega
    · have := ih h; omega

theorem preorder_eq (n : Node) : n.preorder = n :: forestPreorder n.children := by
  cases n; rw [preorder]

@[simp] theorem forestPreorder_nil : forestPreorder [] = [] := by rw [forestPreorder]

@[simp] theorem forestPreorder_cons (n : Node) (rest : List Node) :
    forestPreorder (n :: rest) = n.preorder ++ forestPreorder rest := by rw [forestPreorder]

theorem forestPreorder_eq_flatMap (l : List Node) : forestPreorder l = l.flatMap preorder := by
  induction l with
  | nil => simp
  | cons n l ih => simp [ih]

theorem forestPreorder_append (l r : List Node) :
    forestPreorder (l ++ r) = forestPreorder l ++ forestPreorder r := by
  induction l with
  | nil => simp
  | cons n l ih => simp [ih]

/-! ### Children -/

/-- The first child that fills the field. -/
def childByField? (n : Node) (field : String) : Option Node :=
  n.children.find? (·.field = some field)

/-- The children that are named. -/
def namedChildren (n : Node) : List Node := n.children.filter (·.named)

theorem mem_children_of_childByField? {n m : Node} {field : String}
    (h : n.childByField? field = some m) : m ∈ n.children := List.mem_of_find?_eq_some h

/-! ### Searches -/

mutual

/-- The first node in pre-order that is of the given kind and passes the test. -/
def firstSuch? (kind : String) (test : Node → Bool) : Node → Option Node
  | n@⟨k, _, _, _, _, _, children⟩ =>
    if k = kind ∧ test n then some n else forestFirst? kind test children

/-- The first such node of a list of trees. -/
def forestFirst? (kind : String) (test : Node → Bool) : List Node → Option Node
  | [] => none
  | n :: rest =>
    match firstSuch? kind test n with
    | some found => some found
    | none => forestFirst? kind test rest

end

/-- The first node in pre-order that is of the given kind. -/
def first? (kind : String) (n : Node) : Option Node := n.firstSuch? kind fun _ => true

mutual

/-- The last node in pre-order that is of the given kind. -/
def last? (kind : String) : Node → Option Node
  | n@⟨k, _, _, _, _, _, children⟩ =>
    forestLast? kind (if k = kind then some n else none) children

/-- The last node of the kind in a list of trees, or `latest` when they have none. -/
def forestLast? (kind : String) (latest : Option Node) : List Node → Option Node
  | [] => latest
  | n :: rest =>
    match last? kind n with
    | some found => forestLast? kind (some found) rest
    | none => forestLast? kind latest rest

end

end Node

end CodeSurvey
