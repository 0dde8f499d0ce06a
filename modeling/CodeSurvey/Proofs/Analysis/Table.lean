import CodeSurvey.Analysis.Table
import CodeSurvey.Proofs.Analysis.Walk
import CodeSurvey.Proofs.Text.Trimming

/-!
# What a table-driven language reads

The walk of a language keeps a stack of nodes with the units around them.  This file says what it
finds without the stack: `Language.meaningAt` tells what a node means by its role and its
ancestors alone, and `Language.reads_readAddresses` that the walk takes the nodes in pre-order,
passes over nothing but what lies in a definition with a name outside of its body, and finds what
the nodes mean.  The text of a dependency is freed from the blanks at its ends
(`Language.mem_meaningAt_dependency`).
-/

namespace CodeSurvey

namespace Language

variable (l : Language)

/-! ### The reading -/

/-- The name of the unit that a node opens: a definition with a name that is not empty opens
one. -/
def opens? (n : Node) : Option String :=
  match l.roleOf? n.kind with
  | some .definition => (l.functionName? n).filter (· ≠ "")
  | _ => none

/-- The child with the number is the body of a definition, or part of it.  In C this is the first
child in the field `body`, if it is a block. -/
def isBody (n : Node) (i : Nat) : Bool :=
  match l with
  | python | java => true
  | cpp | c =>
    n.children.findIdx? (·.field = some "body") == some i &&
      n.children[i]?.any (·.kind = "compound_statement")
  | go => false

/-- What single nodes are to the reading of a language. -/
def scoping : Scoping where
  opens? := l.opens?
  reads n i := (l.opens? n).isNone || l.isBody n i
  callee? n :=
    match l.roleOf? n.kind with
    | some .call => (l.callee? n).filter (· ≠ "")
    | _ => none
  dependency? n :=
    match l.roleOf? n.kind with
    | some .dependency => some (Text.trim n.text)
    | _ => none
  callee?_of_opens n h := by
    unfold opens? at h
    split at h
    · next hrole => rw [hrole]
    · cases h

/-- What the node at an address means.  A call belongs to the nearest definition with a name among
its proper ancestors. -/
def meaningAt (root : Node) (a : Address) : List Event :=
  match root.descendant? a with
  | none => []
  | some n =>
    match l.roleOf? n.kind with
    | some .dependency => [.dependency (Text.trim n.text)]
    | some .definition =>
      match l.functionName? n with
      | some name => if name = "" then [] else [.define name ⟨n.startRow, n.endRow⟩]
      | none => []
    | some .call =>
      match l.scoping.enclosingName? root a, l.callee? n with
      | some caller, some callee => if callee = "" then [] else [.call caller callee]
      | _, _ => []
    | none => []

variable {l}

theorem unitName?_eq (n : Node) : l.unitName? n = (l.functionName? n).filter (· ≠ "") := by
  unfold unitName?
  cases l.functionName? n with
  | none => rfl
  | some name => by_cases hname : name = "" <;> simp [Option.filter_some, hname]

/-- A dependency means its text without the blanks at both ends. -/
theorem mem_meaningAt_dependency {root : Node} {a : Address} {text : String} :
    .dependency text ∈ l.meaningAt root a ↔ ∃ n, root.descendant? a = some n ∧
      l.roleOf? n.kind = some .dependency ∧ Text.Trims n.text text := by
  unfold meaningAt
  cases root.descendant? a with
  | none => simp
  | some n =>
    simp only [Option.some.injEq, exists_eq_left', ← Text.trim_eq_iff]
    cases hrole : l.roleOf? n.kind with
    | none => simp
    | some role =>
      cases role with
      | definition =>
        cases l.functionName? n with
        | none => simp
        | some name => by_cases hname : name = "" <;> simp [hname]
      | call =>
        dsimp only
        split
        · next callee _ _ => by_cases hcallee : callee = "" <;> simp [hcallee]
        · simp
      | dependency => simp [eq_comm]

/-! ### The body of a definition -/

theorem filter_zipIdx_snd_eq {α : Type} (l : List α) (i k : Nat) :
    ((l.zipIdx k).filter fun c => c.2 == i + k) = l[i]?.toList.map fun x => (x, i + k) := by
  induction l generalizing i k with
  | nil => rfl
  | cons y rest ih =>
    rw [List.zipIdx_cons]
    cases i with
    | zero =>
      have hrest : (rest.zipIdx (k + 1)).filter (fun c => c.2 == 0 + k) = [] := by
        refine List.filter_eq_nil_iff.2 fun c hc => ?_
        have := List.le_snd_of_mem_zipIdx hc
        simp only [beq_iff_eq]
        omega
      rw [List.filter_cons_of_pos (by simp), hrest]
      simp
    | succ i =>
      rw [List.filter_cons_of_neg (by simp), List.getElem?_cons_succ,
        show i + 1 + k = i + (k + 1) by omega, ih]

theorem blockBody_eq (n : Node) :
    blockBody n = (n.children.zipIdx.filter fun c =>
      n.children.findIdx? (·.field = some "body") == some c.2 &&
        n.children[c.2]?.any (·.kind = "compound_statement")).map (·.1) := by
  rw [blockBody, Node.childByField?, List.find?_eq_bind_findIdx?_getElem?]
  cases n.children.findIdx? (·.field = some "body") with
  | none => simp
  | some i =>
    have hsplit : (n.children.zipIdx.filter fun c =>
          some i == some c.2 && n.children[c.2]?.any (·.kind = "compound_statement")) =
        (n.children.zipIdx.filter fun c => c.2 == i + 0).filter fun c =>
          n.children[c.2]?.any (·.kind = "compound_statement") := by
      rw [List.filter_filter]
      refine List.filter_congr fun c _ => ?_
      rw [Bool.and_comm, Bool.beq_comm]
      rfl
    rw [hsplit, filter_zipIdx_snd_eq]
    cases hx : n.children[i]? with
    | none => simp [hx]
    | some x => by_cases hk : x.kind = "compound_statement" <;> simp [hx, hk]

/-- The parts of a body by their numbers. -/
theorem functionBody_eq (n : Node) :
    l.functionBody n = (n.children.zipIdx.filter fun c => l.isBody n c.2).map (·.1) := by
  cases l with
  | python | java => simp [functionBody, isBody, List.zipIdx_map_fst]
  | cpp | c => exact blockBody_eq n
  | go => simp [functionBody, isBody]

/-! ### The walk and the reading -/

theorem below_scoping (n : Node) :
    l.scoping.below n = if (l.opens? n).isSome then l.functionBody n else n.children := by
  rw [functionBody_eq, Scoping.below]
  cases h : l.opens? n <;> simp [scoping, h, List.zipIdx_map_fst]

theorem credit_scoping {n : Node} (hrole : l.roleOf? n.kind = some .call) (unit : Option String) :
    Scoping.credit unit (l.scoping.callee? n) = l.callEvents unit n := by
  have hcallee : l.scoping.callee? n = (l.callee? n).filter (· ≠ "") := by simp [scoping, hrole]
  rw [hcallee]
  exact Scoping.credit_filter unit (l.callee? n)

/-- The visit of a node, which goes by its role, goes by the scoping. -/
theorem visit_eq (n : Node) (around : Option String) : l.visit n around =
    ⟨l.scoping.meaning n ((l.opens? n).or around), l.scoping.below n,
      (l.opens? n).or around⟩ := by
  rw [below_scoping]
  cases hrole : l.roleOf? n.kind with
  | none => simp [visit, Scoping.meaning, scoping, opens?, hrole]
  | some role =>
    cases role with
    | definition =>
      have hopens : l.opens? n = l.unitName? n := by rw [opens?, hrole, unitName?_eq]
      have hopens' : l.scoping.opens? n = l.unitName? n := hopens
      have hcallee : l.scoping.callee? n = none := by simp [scoping, hrole]
      have hdependency : l.scoping.dependency? n = none := by simp [scoping, hrole]
      cases hname : l.unitName? n <;>
        simp [visit, Scoping.meaning, hrole, hname, hopens, hopens', hcallee, hdependency]
    | call =>
      have hopens : l.opens? n = none := by rw [opens?, hrole]
      have hopens' : l.scoping.opens? n = none := hopens
      have hdependency : l.scoping.dependency? n = none := by simp [scoping, hrole]
      simp [visit, Scoping.meaning, hrole, hopens, hopens', hdependency, credit_scoping hrole]
    | dependency => simp [visit, Scoping.meaning, scoping, opens?, hrole]

theorem describes_walk : l.scoping.Describes l.walk := fun _ n around => visit_eq n around

theorem meaningAt_scoping (root : Node) (a : Address) :
    l.scoping.meaningAt root a = l.meaningAt root a := by
  unfold Scoping.meaningAt meaningAt
  cases hn : root.descendant? a with
  | none => rfl
  | some n =>
    have hunit : l.scoping.unitAt? root a = l.opens? n := by
      rw [Scoping.unitAt?, hn]; rfl
    have hmeaning : l.scoping.meaning n (l.scoping.ownerName? root a) =
        (l.visit n (l.scoping.enclosingName? root a)).events := by
      rw [Scoping.ownerName?_eq_or, hunit, visit_eq]
    simp only [hmeaning]
    cases hrole : l.roleOf? n.kind with
    | none => simp [visit, hrole]
    | some role =>
      cases role with
      | definition =>
        simp only [visit, hrole, unitName?_eq]
        cases l.functionName? n with
        | none => rfl
        | some name => by_cases hname : name = "" <;> simp [Option.filter_some, hname]
      | call =>
        simp only [visit, hrole]
        rfl
      | dependency => simp [visit, hrole]

/-- A language reads the nodes at the addresses, and nothing else of the tree. -/
structure Reads (l : Language) (root : Node) (order : List Address) : Prop where
  /-- The loop takes them one by one and then ends. -/
  follows : l.walk.Follows () root order
  /-- They stand in pre-order, each once. -/
  sorted : order.Pairwise (· < ·)
  /-- Only what lies in a unit outside of its body is left out. -/
  mem_order : ∀ a, a ∈ order ↔ (root.descendant? a).isSome ∧
    ∀ p i n, p ++ [i] <+: a → root.descendant? p = some n → (l.opens? n).isSome →
      l.isBody n i = true
  /-- The body has the parts that the language says. -/
  body : ∀ n, l.functionBody n = (n.children.zipIdx.filter fun c => l.isBody n c.2).map (·.1)
  /-- What is found is what they mean. -/
  events : l.events root = order.flatMap (l.meaningAt root)
  /-- A dependency is what is left of a text without the blanks at both ends. -/
  dependencies : ∀ a text, .dependency text ∈ l.meaningAt root a ↔ ∃ n,
    root.descendant? a = some n ∧ l.roleOf? n.kind = some .dependency ∧ Text.Trims n.text text
  /-- Every call is made by a unit that is defined before it. -/
  callersKnown : History.CallersKnown (l.events root)

/-- **A language reads a tree in pre-order**, and what it finds at a node is what the node means
by its role and its ancestors. -/
theorem reads_readAddresses (l : Language) (root : Node) :
    l.Reads root (l.scoping.readAddresses root) where
  follows := describes_walk.follows () root
  sorted := Scoping.pairwise_lt_readAddresses root
  mem_order a := by
    rw [Scoping.mem_readAddresses, Scoping.isRead_iff]
    refine and_congr_right fun _ => forall₅_congr fun p i n _ _ => ?_
    cases h : l.opens? n <;> simp [scoping, h]
  body := functionBody_eq
  events := by
    rw [Language.events, describes_walk.events_eq, Scoping.events]
    exact List.flatMap_congr fun a _ => meaningAt_scoping root a
  dependencies a text := mem_meaningAt_dependency
  callersKnown := by
    rw [Language.events, describes_walk.events_eq]
    exact Scoping.callersKnown_events root

end Language

end CodeSurvey
