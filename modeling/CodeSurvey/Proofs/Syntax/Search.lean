import CodeSurvey.Proofs.Syntax.Address
import Mathlib.Data.List.Nodup
import Mathlib.Data.List.Sort

/-!
# What the searches in a tree find

`Node.firstSuch?` stops at the first node that will do and `Node.last?` goes on to the end.  Both
answer for the nodes of the tree in pre-order, which neither of them lists:

* `Node.firstSuch?_eq_find?` : the first such node of that list;
* `Node.last?_eq_getLast?` : the last node of the kind in that list.

Two nodes of a tree can be equal, as the two names of `x + x` are, so equal answers need not be the
same node.  Which node is meant shows in the trees that are like this one and tell the two apart:
a search *finds the node at an address* if it does so in all trees that have nodes at the same
addresses, of which the same ones are wanted.

* `Node.exists_alike_ne` : the nodes at two addresses are told apart by a tree alike, so a search
  for a kind finds the node at one address at most (`Node.pick_eq_of_findsAt`);
* `Node.findsEnds` : **the two searches find the two ends** of the nodes that they look for, so a
  node whenever there is one, and the same node exactly when there is no other.
-/

namespace CodeSurvey

namespace Node

mutual

/-- The search finds the first such node in pre-order. -/
theorem firstSuch?_eq_find? (kind : String) (test : Node → Bool) : ∀ n : Node,
    n.firstSuch? kind test = n.preorder.find? fun m => m.kind = kind ∧ test m
  | ⟨k, named, field, startRow, endRow, text, children⟩ => by
    have hbelow := forestFirst?_eq_find? kind test children
    rw [firstSuch?, preorder, List.find?_cons, hbelow]
    split
    · next h => rw [decide_eq_true h]
    · next h => rw [decide_eq_false h]

theorem forestFirst?_eq_find? (kind : String) (test : Node → Bool) : ∀ l : List Node,
    forestFirst? kind test l = (forestPreorder l).find? fun m => m.kind = kind ∧ test m
  | [] => by simp [forestFirst?]
  | n :: rest => by
    have hfirst := firstSuch?_eq_find? kind test n
    have hrest := forestFirst?_eq_find? kind test rest
    rw [forestFirst?, forestPreorder_cons, List.find?_append, hfirst, hrest]
    cases n.preorder.find? fun m => m.kind = kind ∧ test m <;> rfl

end

mutual

/-- The search finds the last node of the kind in pre-order. -/
theorem last?_eq_getLast? (kind : String) : ∀ n : Node,
    n.last? kind = (n.preorder.filter (·.kind = kind)).getLast?
  | ⟨k, named, field, startRow, endRow, text, children⟩ => by
    have hbelow := forestLast?_eq_getLast? kind children
    rw [last?, hbelow, preorder, List.filter_cons]
    split
    · next h => simp [h, List.getLast?_cons]
    · next h => simp [h]

theorem forestLast?_eq_getLast? (kind : String) : ∀ (l : List Node) (latest : Option Node),
    forestLast? kind latest l = ((forestPreorder l).filter (·.kind = kind)).getLast?.or latest
  | [], latest => by simp [forestLast?]
  | n :: rest, latest => by
    have hfirst := last?_eq_getLast? kind n
    have hrest := forestLast?_eq_getLast? kind rest
    rw [forestLast?, forestPreorder_cons, List.filter_append, List.getLast?_append, hfirst]
    cases (n.preorder.filter (·.kind = kind)).getLast? <;> simp [hrest]

end

/-! ### The nodes that are wanted -/

variable {n n' : Node} {a : Address} {kind : String} {wanted : Node → Bool}
  {search : Node → Option Node}

/-- The nodes of the kind, in pre-order. -/
def ofKind (kind : String) (n : Node) : List Node := n.preorder.filter (·.kind = kind)

/-- The nodes of the kind that pass the test, in pre-order. -/
def such (kind : String) (test : Node → Bool) (n : Node) : List Node :=
  n.preorder.filter fun m => m.kind = kind ∧ test m

theorem firstSuch?_eq_head? (kind : String) (test : Node → Bool) (n : Node) :
    n.firstSuch? kind test = (n.such kind test).head? := by
  rw [firstSuch?_eq_find?, such, List.head?_filter]

theorem first?_eq_head? (kind : String) (n : Node) : n.first? kind = (n.ofKind kind).head? := by
  rw [first?, firstSuch?_eq_head?, such, ofKind]
  simp

/-- The addresses of the wanted nodes, in pre-order. -/
def places (wanted : Node → Bool) (n : Node) : List Address :=
  n.addresses.filter fun a => (n.descendant? a).any wanted

theorem mem_places : a ∈ n.places wanted ↔ ∃ m, n.descendant? a = some m ∧ wanted m := by
  rw [places, List.mem_filter, mem_addresses]
  cases n.descendant? a <;> simp

theorem nodup_places (wanted : Node → Bool) (n : Node) : (n.places wanted).Nodup :=
  (n.pairwise_lt_addresses.imp ne_of_lt).filter _

/-- At these addresses stand the wanted nodes of the tree in pre-order. -/
theorem map_descendant?_places (wanted : Node → Bool) (n : Node) :
    (n.places wanted).map n.descendant? = (n.preorder.filter wanted).map some := calc
  (n.places wanted).map n.descendant?
    = (n.addresses.map n.descendant?).filter (·.any wanted) := by rw [List.filter_map]; rfl
  _ = (n.preorder.map some).filter (·.any wanted) := by rw [map_descendant?_addresses]
  _ = (n.preorder.filter wanted).map some := by rw [List.filter_map]; rfl

theorem length_places (wanted : Node → Bool) (n : Node) :
    (n.places wanted).length = (n.preorder.filter wanted).length := by
  have h := congrArg List.length (map_descendant?_places wanted n)
  rwa [List.length_map, List.length_map] at h

theorem eq_bind_descendant? {x : Option Address} {y : Option Node}
    (h : x.map n.descendant? = y.map some) : y = x.bind n.descendant? := by
  cases x <;> cases y <;> simp_all

theorem firstSuch?_eq_bind (kind : String) (test : Node → Bool) (n : Node) :
    n.firstSuch? kind test =
      (n.places fun m => m.kind = kind ∧ test m).head?.bind n.descendant? := by
  have h := congrArg List.head? (map_descendant?_places (fun m => m.kind = kind ∧ test m) n)
  rw [List.head?_map, List.head?_map] at h
  rw [firstSuch?_eq_head?, such, eq_bind_descendant? h]

theorem first?_eq_bind (kind : String) (n : Node) :
    n.first? kind = (n.places (·.kind = kind)).head?.bind n.descendant? := by
  rw [first?, firstSuch?_eq_bind]
  simp

theorem last?_eq_bind (kind : String) (n : Node) :
    n.last? kind = (n.places (·.kind = kind)).getLast?.bind n.descendant? := by
  have h := congrArg List.getLast? (map_descendant?_places (·.kind = kind) n)
  rw [List.getLast?_map, List.getLast?_map] at h
  rw [last?_eq_getLast?, eq_bind_descendant? h]

/-! ### Which node is found -/

/-- The trees have nodes at the same addresses, and the same of them are wanted. -/
def Alike (wanted : Node → Bool) (n n' : Node) : Prop :=
  ∀ a, (n'.descendant? a).map wanted = (n.descendant? a).map wanted

/-- The search for wanted nodes finds the node at the address, and not one that is merely equal to
it: it finds the node there in all trees alike. -/
def FindsAt (search : Node → Option Node) (wanted : Node → Bool) (n : Node) (a : Address) : Prop :=
  ∀ n', Alike wanted n n' → ∃ m, n'.descendant? a = some m ∧ search n' = some m

theorem Alike.refl (wanted : Node → Bool) (n : Node) : Alike wanted n n := fun _ => rfl

theorem Alike.places_eq (h : Alike wanted n n') : n'.places wanted = n.places wanted := by
  have haddresses : n'.addresses = n.addresses := by
    refine n'.pairwise_lt_addresses.sortedLT.eq_of_mem_iff n.pairwise_lt_addresses.sortedLT
      fun a => ?_
    rw [mem_addresses, mem_addresses, ← Option.isSome_map (f := wanted), h a, Option.isSome_map]
  rw [places, places, haddresses]
  refine List.filter_congr fun a _ => ?_
  simpa [Option.any_map] using congrArg (·.any id) (h a)

/-- The tree with the node at the address moved to the row. -/
def withRowAt (row : Nat) : Address → Node → Node
  | [], n => { n with startRow := row }
  | i :: a, n => { n with children := n.children.modify i (withRowAt row a) }

/-- What does not depend on the children changes at this address alone. -/
theorem map_descendant?_withRowAt {β : Type} (f : Node → β)
    (hf : ∀ (m : Node) (l : List Node), f { m with children := l } = f m) (row : Nat)
    (a b : Address) (n : Node) : ((n.withRowAt row a).descendant? b).map f =
      (n.descendant? b).map fun m => if a = b then f { m with startRow := row } else f m := by
  induction b generalizing a n with
  | nil =>
    cases a with
    | nil => rfl
    | cons i a => simp [withRowAt, hf]
  | cons j b ih =>
    cases a with
    | nil => simp [withRowAt]
    | cons i a =>
      rw [descendant?_cons, descendant?_cons, withRowAt, List.getElem?_modify]
      cases n.children[j]? with
      | none => rfl
      | some c => by_cases hij : i = j <;> simp [hij, ih]

theorem alike_withRowAt (kind : String) (row : Nat) (a : Address) (n : Node) :
    Alike (·.kind = kind) n (n.withRowAt row a) := by
  intro b
  rw [map_descendant?_withRowAt _ (fun _ _ => rfl)]
  simp

/-- The nodes at two addresses are told apart by a tree alike. -/
theorem exists_alike_ne (kind : String) {m : Node} {b : Address} (ha : n.descendant? a = some m)
    (hne : a ≠ b) :
    ∃ n', Alike (·.kind = kind) n n' ∧ n'.descendant? a ≠ n'.descendant? b := by
  refine ⟨n.withRowAt (m.startRow + 1) b, alike_withRowAt kind _ b n, fun heq => ?_⟩
  have hrow := map_descendant?_withRowAt (·.startRow) (fun _ _ => rfl) (m.startRow + 1) b
  have hkept := hrow a n
  have hmoved := hrow b n
  rw [ha, Option.map_some, if_neg hne.symm] at hkept
  rw [← heq, hkept] at hmoved
  cases hb : n.descendant? b <;> simp [hb] at hmoved

section Picking

variable {pick : List Address → Option Address}

/-- A search that goes to the place it picks finds the node there. -/
theorem findsAt_of_pick_eq
    (hsearch : ∀ n, search n = (pick (n.places wanted)).bind n.descendant?)
    (hpick : pick (n.places wanted) = some a) (ha : a ∈ n.places wanted) :
    FindsAt search wanted n a := by
  intro n' halike
  obtain ⟨m, hm, -⟩ := mem_places.1 (halike.places_eq ▸ ha)
  refine ⟨m, hm, ?_⟩
  rw [hsearch, halike.places_eq, hpick, Option.bind_some, hm]

/-- Where only the kind matters, it finds no node elsewhere. -/
theorem pick_eq_of_findsAt
    (hsearch : ∀ n, search n = (pick (n.places (·.kind = kind))).bind n.descendant?)
    (h : FindsAt search (·.kind = kind) n a) : pick (n.places (·.kind = kind)) = some a := by
  obtain ⟨m, hm, hfound⟩ := h n (.refl _ n)
  rw [hsearch] at hfound
  obtain ⟨b, hb, -⟩ := Option.bind_eq_some_iff.1 hfound
  by_contra hpick
  have hne : a ≠ b := fun heq => hpick (heq ▸ hb)
  obtain ⟨n', halike, hdiffers⟩ := exists_alike_ne kind hm hne
  obtain ⟨m', hm', hfound'⟩ := h n' halike
  rw [hsearch, halike.places_eq, hb, Option.bind_some] at hfound'
  exact hdiffers (hm'.trans hfound'.symm)

end Picking

theorem findsAt_first?_iff :
    FindsAt (first? kind) (·.kind = kind) n a ↔ (n.places (·.kind = kind)).head? = some a :=
  ⟨pick_eq_of_findsAt (first?_eq_bind kind), fun h =>
    findsAt_of_pick_eq (first?_eq_bind kind) h (List.mem_of_head? h)⟩

theorem findsAt_last?_iff :
    FindsAt (last? kind) (·.kind = kind) n a ↔ (n.places (·.kind = kind)).getLast? = some a :=
  ⟨pick_eq_of_findsAt (last?_eq_bind kind), fun h =>
    findsAt_of_pick_eq (last?_eq_bind kind) h (List.mem_of_getLast? h)⟩

/-! ### The two ends -/

/-- The two ends of a list without repetition are one exactly when nothing else is in it. -/
theorem exists_ends_iff {α : Type} {l : List α} (hl : l.Nodup) :
    (∃ x, l.head? = some x ∧ l.getLast? = some x) ↔ l.length = 1 := by
  rw [List.length_eq_one_iff]
  constructor
  · rintro ⟨x, hhead, hlast⟩
    have hne : l ≠ [] := by rintro rfl; cases hhead
    rw [List.head?_eq_some_head hne] at hhead
    rw [List.getLast?_eq_some_getLast hne] at hlast
    exact (hl.head_eq_getLast_iff hne).1 (Option.some.inj (hhead.trans hlast.symm))
  · rintro ⟨x, rfl⟩
    exact ⟨x, rfl, rfl⟩

/-- What the two searches for a kind find in a tree. -/
structure FindsEnds (kind : String) (n : Node) : Prop where
  /-- The first search finds the first node in pre-order that is of the kind and passes the test. -/
  firstSuch_eq : ∀ test, n.firstSuch? kind test = (n.such kind test).head?
  /-- It finds none exactly when there is none. -/
  firstSuch_eq_none_iff : ∀ test, n.firstSuch? kind test = none ↔ n.such kind test = []
  /-- It is the node at the first address of these nodes. -/
  firstSuch_at : ∀ test a, (n.places fun m => m.kind = kind ∧ test m).head? = some a →
    FindsAt (firstSuch? kind test) (fun m => m.kind = kind ∧ test m) n a
  /-- Without a test the first search finds the first node of the kind, at its address only. -/
  first_eq : n.first? kind = (n.ofKind kind).head?
  first_eq_none_iff : n.first? kind = none ↔ n.ofKind kind = []
  first_at_iff : ∀ a,
    FindsAt (first? kind) (·.kind = kind) n a ↔ (n.places (·.kind = kind)).head? = some a
  /-- The last search finds the last node of the kind, at its address only. -/
  last_eq : n.last? kind = (n.ofKind kind).getLast?
  last_eq_none_iff : n.last? kind = none ↔ n.ofKind kind = []
  last_at_iff : ∀ a,
    FindsAt (last? kind) (·.kind = kind) n a ↔ (n.places (·.kind = kind)).getLast? = some a
  /-- Where there is a node of the kind, both find one. -/
  found : (∃ m ∈ n.preorder, m.kind = kind) → (n.first? kind).isSome ∧ (n.last? kind).isSome
  /-- They find the same node exactly when there is only one. -/
  same_iff : (∃ a, FindsAt (first? kind) (·.kind = kind) n a ∧
    FindsAt (last? kind) (·.kind = kind) n a) ↔ (n.ofKind kind).length = 1

/-- **The two searches find the two ends** of the nodes that they look for. -/
theorem findsEnds (kind : String) (n : Node) : n.FindsEnds kind := by
  have hfirst : n.first? kind = (n.ofKind kind).head? := first?_eq_head? kind n
  have hlast : n.last? kind = (n.ofKind kind).getLast? := last?_eq_getLast? kind n
  refine
    { firstSuch_eq := fun test => firstSuch?_eq_head? kind test n
      firstSuch_eq_none_iff := fun test => by rw [firstSuch?_eq_head?, List.head?_eq_none_iff]
      firstSuch_at := fun test a h =>
        findsAt_of_pick_eq (firstSuch?_eq_bind kind test) h (List.mem_of_head? h)
      first_eq := hfirst
      first_eq_none_iff := by rw [hfirst, List.head?_eq_none_iff]
      first_at_iff := fun a => findsAt_first?_iff
      last_eq := hlast
      last_eq_none_iff := by rw [hlast, List.getLast?_eq_none_iff]
      last_at_iff := fun a => findsAt_last?_iff
      found := ?found
      same_iff := ?same }
  case found =>
    rintro ⟨m, hm, hkind⟩
    have hmem : m ∈ n.ofKind kind := List.mem_filter.2 ⟨hm, decide_eq_true hkind⟩
    have hne : n.ofKind kind ≠ [] := List.ne_nil_of_mem hmem
    rw [hfirst, hlast]
    exact ⟨List.isSome_head?.2 hne, List.getLast?_isSome.2 hne⟩
  case same =>
    simp only [findsAt_first?_iff, findsAt_last?_iff]
    rw [exists_ends_iff (nodup_places _ n), length_places, ofKind]

-- equal answers need not be the same node: in `x + x` there are two
example :
    let x : Node := { kind := "identifier", text := "x" }
    let sum : Node := { kind := "binary_operator", children := [x, x] }
    sum.first? "identifier" = sum.last? "identifier" ∧ (sum.ofKind "identifier").length = 2 :=
  ⟨rfl, rfl⟩

end Node

end CodeSurvey
