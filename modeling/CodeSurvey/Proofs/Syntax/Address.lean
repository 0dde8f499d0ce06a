import CodeSurvey.Syntax.Node
import Mathlib.Data.List.Infix
import Mathlib.Data.List.Lex
import Mathlib.Order.Lattice

/-!
# Addresses of nodes

Two nodes of a tree can be equal and stand at different places.  What is said of single nodes is
therefore said of their *addresses*: the numbers of the children on the way from the root, counted
from zero.  The ancestors of a node have the prefixes of its address, and the order of lists is
pre-order: a node comes before all that lies below it, and what lies below a child comes before
what lies below a later one.

* `Node.mem_addresses` : `Node.addresses` lists every address of the tree;
* `Node.pairwise_lt_addresses` : it lists them in order, so each of them once;
* `Node.map_descendant?_addresses` : the nodes there are the nodes in pre-order;
* `Address.isPrefix_of_le_of_le` : what lies between a node and a node below it lies below it too.
-/

namespace CodeSurvey

/-- The way from the root of a tree to a node, as the numbers of the children on it. -/
abbrev Address := List Nat

namespace Address

variable {p a b : Address}

theorem cons_le_cons_iff {i j : Nat} : i :: p ≤ j :: a ↔ i < j ∨ i = j ∧ p ≤ a := by
  rw [← not_lt, List.cons_lt_cons_iff, ← not_lt (a := a)]
  constructor
  · intro h
    rcases Nat.lt_trichotomy i j with hij | rfl | hji
    · exact .inl hij
    · exact .inr ⟨rfl, fun hlt => h (.inr ⟨rfl, hlt⟩)⟩
    · exact absurd (.inl hji) h
  · rintro (hij | ⟨rfl, hle⟩) (hji | ⟨heq, hlt⟩)
    · omega
    · omega
    · omega
    · exact hle hlt

theorem le_of_isPrefix (h : p <+: a) : p ≤ a := by
  induction p generalizing a with
  | nil => exact not_lt.1 (List.not_lt_nil a)
  | cons i p ih =>
    obtain ⟨s, rfl⟩ := h
    exact cons_le_cons_iff.2 (.inr ⟨rfl, ih (List.prefix_append p s)⟩)

theorem lt_of_isPrefix_of_ne (h : p <+: a) (hne : p ≠ a) : p < a :=
  lt_of_le_of_ne (le_of_isPrefix h) hne

/-- What comes between a node and a node below it lies below it too. -/
theorem isPrefix_of_le_of_le (h : p <+: b) (hpa : p ≤ a) (hab : a ≤ b) : p <+: a := by
  induction p generalizing a b with
  | nil => exact List.nil_prefix
  | cons i p ih =>
    obtain ⟨s, rfl⟩ := h
    cases a with
    | nil => exact absurd hpa (not_le.2 (List.nil_lt_cons i p))
    | cons j a =>
      rw [cons_le_cons_iff] at hpa
      rw [List.cons_append, cons_le_cons_iff] at hab
      rcases hpa with hij | ⟨rfl, hpa⟩
      · rcases hab with hji | ⟨rfl, -⟩ <;> omega
      · rcases hab with hii | ⟨-, hab⟩
        · omega
        · exact List.cons_prefix_cons.2 ⟨rfl, ih (List.prefix_append p s) hpa hab⟩

/-! ### Lists in order -/

section Sorted

variable {α : Type} [LinearOrder α] {before after : List α} {x y : α}

/-- Behind an element of a sorted list stand the greater ones. -/
theorem mem_after_iff (h : (before ++ x :: after).Pairwise (· < ·)) :
    y ∈ after ↔ y ∈ before ++ x :: after ∧ x < y := by
  obtain ⟨-, hafter, hbefore⟩ := List.pairwise_append.1 h
  constructor
  · intro hy
    exact ⟨by simp [hy], (List.pairwise_cons.1 hafter).1 y hy⟩
  · rintro ⟨hy, hlt⟩
    rw [List.mem_append, List.mem_cons] at hy
    rcases hy with hy | rfl | hy
    · exact absurd (hbefore y hy x List.mem_cons_self) (lt_asymm hlt)
    · exact absurd hlt (lt_irrefl y)
    · exact hy

/-- In front of an element of a sorted list stand the smaller ones. -/
theorem mem_before_iff (h : (before ++ x :: after).Pairwise (· < ·)) :
    y ∈ before ↔ y ∈ before ++ x :: after ∧ y < x := by
  obtain ⟨-, hafter, hbefore⟩ := List.pairwise_append.1 h
  constructor
  · intro hy
    exact ⟨by simp [hy], hbefore y hy x List.mem_cons_self⟩
  · rintro ⟨hy, hlt⟩
    rw [List.mem_append, List.mem_cons] at hy
    rcases hy with hy | rfl | hy
    · exact hy
    · exact absurd hlt (lt_irrefl y)
    · exact absurd ((List.pairwise_cons.1 hafter).1 y hy) (lt_asymm hlt)

end Sorted

end Address

namespace Node

/-! ### The node at an address -/

/-- The node at an address, `none` if the address leaves the tree. -/
def descendant? (n : Node) : Address → Option Node
  | [] => some n
  | i :: rest => n.children[i]?.bind fun c => c.descendant? rest

@[simp] theorem descendant?_nil (n : Node) : n.descendant? [] = some n := rfl

@[simp] theorem descendant?_cons (n : Node) (i : Nat) (rest : Address) :
    n.descendant? (i :: rest) = n.children[i]?.bind fun c => c.descendant? rest := rfl

theorem descendant?_append (n : Node) (a b : Address) :
    n.descendant? (a ++ b) = (n.descendant? a).bind fun m => m.descendant? b := by
  induction a generalizing n with
  | nil => rfl
  | cons i a ih =>
    rw [List.cons_append, descendant?_cons, descendant?_cons]
    cases n.children[i]? with
    | none => rfl
    | some c => exact ih c

/-! ### Listing the addresses -/

mutual

/-- The addresses of the nodes of the tree, each node before its children and these from first to
last. -/
def addresses : Node → List Address
  | ⟨_, _, _, _, _, _, children⟩ => [] :: forestAddresses 0 children

/-- The addresses in a list of trees, the first of which is child number `i`. -/
def forestAddresses (i : Nat) : List Node → List Address
  | [] => []
  | n :: rest => (addresses n).map (i :: ·) ++ forestAddresses (i + 1) rest

end

theorem addresses_eq (n : Node) : n.addresses = [] :: forestAddresses 0 n.children := by
  cases n; rw [addresses]

@[simp] theorem forestAddresses_nil (i : Nat) : forestAddresses i [] = [] := by
  rw [forestAddresses]

@[simp] theorem forestAddresses_cons (i : Nat) (n : Node) (rest : List Node) :
    forestAddresses i (n :: rest) = n.addresses.map (i :: ·) ++ forestAddresses (i + 1) rest := by
  rw [forestAddresses]

theorem mem_forestAddresses {a : Address} {i : Nat} {l : List Node} :
    a ∈ forestAddresses i l ↔ ∃ j c b, l[j]? = some c ∧ b ∈ c.addresses ∧ a = (i + j) :: b := by
  induction l generalizing i with
  | nil => simp
  | cons n l ih =>
    rw [forestAddresses_cons, List.mem_append, List.mem_map, ih]
    constructor
    · rintro (⟨b, hb, rfl⟩ | ⟨j, c, b, hc, hb, rfl⟩)
      · exact ⟨0, n, b, rfl, hb, rfl⟩
      · exact ⟨j + 1, c, b, hc, hb, by rw [Nat.add_assoc, Nat.add_comm 1 j]⟩
    · rintro ⟨_ | j, c, b, hc, hb, rfl⟩
      · exact .inl ⟨b, Option.some.inj hc ▸ hb, rfl⟩
      · exact .inr ⟨j, c, b, hc, hb, by rw [Nat.add_assoc, Nat.add_comm 1 j]⟩

/-- The listed addresses are those that do not leave the tree. -/
theorem mem_addresses {n : Node} {a : Address} : a ∈ n.addresses ↔ (n.descendant? a).isSome := by
  induction a generalizing n with
  | nil => simp [addresses_eq]
  | cons i a ih =>
    rw [addresses_eq, List.mem_cons, mem_forestAddresses, descendant?_cons]
    constructor
    · rintro (h | ⟨j, c, b, hc, hb, h⟩)
      · cases h
      · obtain ⟨rfl, rfl⟩ := List.cons.inj h
        simpa [hc] using ih.1 hb
    · intro h
      obtain ⟨c, hc⟩ := Option.isSome_iff_exists.1 (Option.isSome_of_isSome_bind h)
      rw [hc, Option.bind_some] at h
      exact .inr ⟨i, c, a, hc, ih.2 h, by rw [Nat.zero_add]⟩

mutual

/-- The addresses are listed in order, so each of them once. -/
theorem pairwise_lt_addresses : ∀ n : Node, n.addresses.Pairwise (· < ·)
  | ⟨_, _, _, _, _, _, children⟩ => by
    rw [addresses, List.pairwise_cons]
    refine ⟨fun a ha => ?_, pairwise_lt_forestAddresses 0 children⟩
    obtain ⟨j, c, b, -, -, rfl⟩ := mem_forestAddresses.1 ha
    exact List.nil_lt_cons _ _

theorem pairwise_lt_forestAddresses (i : Nat) :
    ∀ l : List Node, (forestAddresses i l).Pairwise (· < ·)
  | [] => by simp
  | n :: rest => by
    rw [forestAddresses_cons, List.pairwise_append, List.pairwise_map]
    refine ⟨?_, pairwise_lt_forestAddresses (i + 1) rest, fun a ha b hb => ?_⟩
    · exact (pairwise_lt_addresses n).imp fun h => List.cons_lt_cons_iff.2 (.inr ⟨rfl, h⟩)
    · obtain ⟨a, -, rfl⟩ := List.mem_map.1 ha
      obtain ⟨j, c, b, -, -, rfl⟩ := mem_forestAddresses.1 hb
      exact List.cons_lt_cons_iff.2 (.inl (by omega))

end

mutual

/-- The nodes at the listed addresses are the nodes of the tree in pre-order. -/
theorem map_descendant?_addresses : ∀ n : Node, n.addresses.map n.descendant? = n.preorder.map some
  | ⟨kind, named, field, startRow, endRow, text, children⟩ => by
    have hbelow := map_descendant?_forestAddresses children []
      ⟨kind, named, field, startRow, endRow, text, children⟩ rfl
    rw [addresses, preorder, List.map_cons, List.map_cons, descendant?_nil]
    exact congrArg _ hbelow

theorem map_descendant?_forestAddresses :
    ∀ (l before : List Node) (n : Node), n.children = before ++ l →
      (forestAddresses before.length l).map n.descendant? = (forestPreorder l).map some
  | [], _, _, _ => by simp
  | c :: rest, before, n, h => by
    have hrest := map_descendant?_forestAddresses rest (before ++ [c]) n (by simp [h])
    rw [List.length_append, List.length_singleton] at hrest
    have hc : n.children[before.length]? = some c := by simp [h]
    have hfirst : (c.addresses.map (before.length :: ·)).map n.descendant? =
        c.preorder.map some := by
      rw [← map_descendant?_addresses c, List.map_map]
      exact List.map_congr_left fun a _ => by simp [hc]
    rw [forestAddresses_cons, forestPreorder_cons, List.map_append, List.map_append, hfirst, hrest]

end

/-! ### From addresses to nodes -/

theorem mem_preorder {n m : Node} : m ∈ n.preorder ↔ ∃ a, n.descendant? a = some m := by
  have hmem : m ∈ n.preorder ↔ some m ∈ n.addresses.map n.descendant? := by
    rw [map_descendant?_addresses]
    simp
  rw [hmem, List.mem_map]
  constructor
  · rintro ⟨a, -, ha⟩; exact ⟨a, ha⟩
  · rintro ⟨a, ha⟩; exact ⟨a, mem_addresses.2 (by simp [ha]), ha⟩

/-- What the listed addresses lead to is the tree in pre-order. -/
theorem filterMap_addresses {β : Type} (f : Node → Option β) (n : Node) :
    (n.addresses.filterMap fun a => (n.descendant? a).bind f) = n.preorder.filterMap f := by
  have hbind : (fun a => (n.descendant? a).bind f) = (·.bind f) ∘ n.descendant? := rfl
  rw [hbind, ← List.filterMap_map, map_descendant?_addresses, List.filterMap_map]
  rfl

theorem flatMap_addresses {β : Type} (f : Node → List β) (n : Node) :
    (n.addresses.flatMap fun a => (n.descendant? a).elim [] f) = n.preorder.flatMap f := by
  have h := congrArg (List.flatMap (·.elim [] f)) (map_descendant?_addresses n)
  rwa [List.flatMap_map, List.flatMap_map] at h

end Node

end CodeSurvey
