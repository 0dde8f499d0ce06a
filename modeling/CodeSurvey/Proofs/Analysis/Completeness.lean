import CodeSurvey.Proofs.Analysis.Table

/-!
# What the survey of a file leaves out

The walk of a language goes on from a definition with a name to the body of it.  In Python and in
Java the body is everything below the definition, and Go has no definitions, so nothing of the
tree is left out.  In C and in C++ the body is a block: parameters, declarators, and a function
whose body is a `try` statement, are *hidden* with everything in them.

* `Language.surveys_readAddresses` : the functions are the names of all definitions that are not
  hidden, and the dependencies the distinct texts of all that is depended on and not hidden, both
  in pre-order; **nothing is missing when nothing of the kind is hidden**, which is always so
  except in C and in C++;
* `Language.not_always_complete` : a C++ function whose body is a `try` statement hides what is
  used in it.
-/

namespace CodeSurvey

namespace Language

variable (l : Language)

/-! ### The whole tree -/

/-- The text of a node that the file depends on, without the blanks at both ends. -/
def dependency? (n : Node) : Option String :=
  match l.roleOf? n.kind with
  | some .dependency => some (Text.trim n.text)
  | _ => none

/-- The names of all definitions of a tree that have one, in pre-order. -/
def allFunctions (root : Node) : List String := root.preorder.filterMap l.opens?

/-- The distinct texts of all nodes of a tree that the file depends on, in pre-order of the first
occurrence and without the empty one. -/
def allDependencies (root : Node) : List String :=
  ((root.preorder.filterMap l.dependency?).filter (· ≠ "")).eraseDups

/-- The node at an address lies in a definition with a name, outside of its body. -/
def IsHidden (root : Node) (a : Address) : Prop :=
  ∃ p i n, p ++ [i] <+: a ∧ root.descendant? p = some n ∧ (l.opens? n).isSome ∧
    l.isBody n i = false

/-- What the report of a file says of the tree; `shown` are the nodes that are not hidden. -/
structure Surveys (root : Node) (shown : List Address) (r : FileReport) : Prop where
  /-- The nodes are listed in pre-order, each of them once. -/
  sorted : shown.Pairwise (· < ·)
  /-- They are all nodes but those that lie in a definition with a name outside of its body. -/
  mem_shown : ∀ a, a ∈ shown ↔ (root.descendant? a).isSome ∧ ¬ l.IsHidden root a
  /-- A function has a name that is not empty. -/
  opens?_eq_some_iff : ∀ n name, l.opens? n = some name ↔
    l.roleOf? n.kind = some .definition ∧ l.functionName? n = some name ∧ name ≠ ""
  /-- A dependency is what is left of a text without the blanks at both ends. -/
  dependency?_eq_some_iff : ∀ n text, l.dependency? n = some text ↔
    l.roleOf? n.kind = some .dependency ∧ Text.Trims n.text text
  functions : r.functions = shown.filterMap fun a => (root.descendant? a).bind l.opens?
  dependencies : r.dependencies =
    ((shown.filterMap fun a => (root.descendant? a).bind l.dependency?).filter (· ≠ "")).eraseDups
  /-- No function is missing exactly when no definition with a name is hidden. -/
  functions_eq_iff : r.functions = l.allFunctions root ↔
    ∀ a n, l.IsHidden root a → root.descendant? a = some n → l.opens? n = none
  /-- No dependency is missing when none is hidden. -/
  dependencies_eq :
    (∀ a n, l.IsHidden root a → root.descendant? a = some n → l.dependency? n = none) →
      r.dependencies = l.allDependencies root
  /-- Outside of C and C++ nothing is missing, wherever it stands. -/
  complete : l ≠ .cpp → l ≠ .c →
    r.functions = l.allFunctions root ∧ r.dependencies = l.allDependencies root

variable {l} {root : Node} {a : Address}

theorem opens?_eq_some_iff {n : Node} {name : String} : l.opens? n = some name ↔
    l.roleOf? n.kind = some .definition ∧ l.functionName? n = some name ∧ name ≠ "" := by
  unfold opens?
  cases hrole : l.roleOf? n.kind with
  | none => simp
  | some role => cases role <;> simp [Option.filter_eq_some_iff]

theorem dependency?_eq_some_iff {n : Node} {text : String} : l.dependency? n = some text ↔
    l.roleOf? n.kind = some .dependency ∧ Text.Trims n.text text := by
  rw [← Text.trim_eq_iff]
  unfold dependency?
  cases hrole : l.roleOf? n.kind with
  | none => simp
  | some role => cases role <;> simp

/-! ### Hidden nodes -/

theorem mem_readAddresses_iff : a ∈ l.scoping.readAddresses root ↔
    (root.descendant? a).isSome ∧ ¬ l.IsHidden root a := by
  rw [(l.reads_readAddresses root).mem_order, IsHidden]
  refine and_congr_right fun _ => ?_
  push Not
  simp only [ne_eq, Bool.not_eq_false]

/-- Only in C and in C++ is there anything outside of a body. -/
theorem not_isHidden (hcpp : l ≠ .cpp) (hc : l ≠ .c) : ¬ l.IsHidden root a := by
  rintro ⟨p, i, n, -, -, hopens, hbody⟩
  cases l with
  | python | java => cases hbody
  | cpp => exact hcpp rfl
  | c => exact hc rfl
  | go =>
    have hrole : Language.go.roleOf? n.kind ≠ some .definition := by
      unfold roleOf?
      split_ifs with hdefinition <;> simp [definitions] at *
    have hnone : Language.go.opens? n = none := by
      unfold opens?
      split
      · next h => exact absurd h hrole
      · rfl
    simp [hnone] at hopens

/-! ### Leaving out nodes -/

/-- Leaving out elements of a list loses nothing exactly when they yield nothing. -/
theorem filterMap_filter_eq_iff {α β : Type} (f : α → Option β) (p : α → Bool) (xs : List α) :
    (xs.filter p).filterMap f = xs.filterMap f ↔ ∀ x ∈ xs, p x = false → f x = none := by
  induction xs with
  | nil => simp
  | cons x xs ih =>
    rw [List.forall_mem_cons, ← ih]
    cases hp : p x with
    | true => cases hf : f x <;> simp [hp, hf]
    | false =>
      rw [List.filter_cons_of_neg (by simp [hp]), List.filterMap_cons]
      cases hf : f x with
      | none => simp
      | some y =>
        -- one element more than there can be
        have hle : ((xs.filter p).filterMap f).length ≤ (xs.filterMap f).length :=
          (List.filter_sublist.filterMap f).length_le
        have hne : (xs.filter p).filterMap f ≠ y :: xs.filterMap f := by
          intro h
          rw [h, List.length_cons] at hle
          omega
        simp [hne]

/-- What the nodes that are read yield is what all nodes yield exactly when the hidden ones yield
nothing. -/
theorem filterMap_readAddresses_eq_iff {β : Type} (f : Node → Option β) :
    ((l.scoping.readAddresses root).filterMap fun a => (root.descendant? a).bind f) =
        root.preorder.filterMap f ↔
      ∀ a n, l.IsHidden root a → root.descendant? a = some n → f n = none := by
  rw [← Node.filterMap_addresses, Scoping.readAddresses, filterMap_filter_eq_iff]
  have hread : ∀ {a n}, root.descendant? a = some n →
      (l.scoping.isRead root a = false ↔ l.IsHidden root a) := by
    intro a n hn
    have h := @mem_readAddresses_iff l root a
    rw [Scoping.mem_readAddresses] at h
    simp only [hn, Option.isSome_some, true_and] at h
    rw [← Bool.not_eq_true, h, not_not]
  constructor
  · intro hall a n hhidden hn
    have hmem : a ∈ root.addresses := Node.mem_addresses.2 (by simp [hn])
    simpa [hn] using hall a hmem ((hread hn).2 hhidden)
  · intro hall a hmem hskip
    obtain ⟨n, hn⟩ := Option.isSome_iff_exists.1 (Node.mem_addresses.1 hmem)
    simpa [hn] using hall a n ((hread hn).1 hskip) hn

theorem events_eq_scoping (l : Language) (root : Node) : l.events root = l.scoping.events root :=
  describes_walk.events_eq () root

/-- **A survey shows all that is not hidden.** -/
theorem surveys_readAddresses (l : Language) (file : String) (root : Node) :
    l.Surveys root (l.scoping.readAddresses root) (FileReport.ofEvents file (l.events root)) := by
  have hfunctions : (FileReport.ofEvents file (l.events root)).functions =
      (l.scoping.readAddresses root).filterMap fun a => (root.descendant? a).bind l.opens? := by
    rw [FileReport.ofEvents, Builder.functions_run, events_eq_scoping, Scoping.definedNames_events]
    rfl
  have hdependencies : (FileReport.ofEvents file (l.events root)).dependencies =
      (((l.scoping.readAddresses root).filterMap fun a =>
        (root.descendant? a).bind l.dependency?).filter (· ≠ "")).eraseDups := by
    rw [FileReport.ofEvents, Builder.dependencies_run, events_eq_scoping,
      Scoping.dependencyTexts_events]
    rfl
  have hwhole : (∀ a n, l.IsHidden root a → root.descendant? a = some n → l.dependency? n = none) →
      (FileReport.ofEvents file (l.events root)).dependencies = l.allDependencies root := by
    intro hnone
    rw [hdependencies, (filterMap_readAddresses_eq_iff _).2 hnone, allDependencies]
  have hiff : (FileReport.ofEvents file (l.events root)).functions = l.allFunctions root ↔
      ∀ a n, l.IsHidden root a → root.descendant? a = some n → l.opens? n = none := by
    rw [hfunctions, allFunctions, filterMap_readAddresses_eq_iff]
  refine
    { sorted := Scoping.pairwise_lt_readAddresses root
      mem_shown := fun a => mem_readAddresses_iff
      opens?_eq_some_iff := fun n name => opens?_eq_some_iff
      dependency?_eq_some_iff := fun n text => dependency?_eq_some_iff
      functions := hfunctions
      dependencies := hdependencies
      functions_eq_iff := hiff
      dependencies_eq := hwhole
      complete := fun hcpp hc => ⟨hiff.2 ?_, hwhole ?_⟩ }
  · exact fun a n hhidden => absurd hhidden (not_isHidden hcpp hc)
  · exact fun a n hhidden => absurd hhidden (not_isHidden hcpp hc)

/-- A C++ function whose body is a `try` statement with a declaration in it. -/
def guarded : Node :=
  { kind := "translation_unit"
    children :=
      [{ kind := "function_definition"
         children :=
          [{ kind := "function_declarator", field := some "declarator"
             children := [{ kind := "identifier", field := some "declarator", text := "f" }] },
           { kind := "try_statement", field := some "body"
             children :=
              [{ kind := "compound_statement", field := some "body"
                 children :=
                  [{ kind := "using_declaration", text := "using std::swap;" }] }] }] }] }

/-- The survey of a file does not always show everything. -/
theorem not_always_complete : ¬ ∀ (l : Language) (file : String) (root : Node),
    (FileReport.ofEvents file (l.events root)).dependencies = l.allDependencies root ∧
      (FileReport.ofEvents file (l.events root)).functions = l.allFunctions root := by
  intro h
  have hreport := (h .cpp "a.cpp" guarded).1
  have hfound : (FileReport.ofEvents "a.cpp" (Language.cpp.events guarded)).dependencies = [] := by
    rw [events_eq_scoping]
    decide +kernel
  have hall : Language.cpp.allDependencies guarded = ["using std::swap;"] := by decide
  rw [hfound, hall] at hreport
  cases hreport

end Language

end CodeSurvey
