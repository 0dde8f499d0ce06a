import CodeSurvey.Proofs.Report.History
import CodeSurvey.Proofs.Syntax.Address

/-!
# The scoped reading of a tree

A `Scoping` tells what single nodes are: which open a unit, which are calls, which are
dependencies, and which children of a node are read at all.  From it `Scoping.events` reads a
whole tree without any loop: the nodes that are read stand in pre-order, and each means what it is
together with its *owner*, the nearest unit at it or around it.

* `Scoping.owner?_eq_some_iff` : what it is to be the nearest unit;
* `Scoping.isRead_iff` : a node is read when no child on the way to it is passed over;
* `Scoping.callersKnown_events` : the caller of every call is defined before the call;
* `Scoping.eventsIn_eq` : the reading of a tree from those of the trees below its root.
-/

namespace CodeSurvey

/-- What single nodes are to a scoped reading. -/
structure Scoping where
  /-- The name of the unit that a node opens. -/
  opens? : Node → Option String
  /-- The child with the number is read. -/
  reads : Node → Nat → Bool
  /-- Whom a node calls. -/
  callee? : Node → Option String
  /-- What a node depends on. -/
  dependency? : Node → Option String
  /-- A node that opens a unit is not a call. -/
  callee?_of_opens : ∀ n, (opens? n).isSome → callee? n = none

namespace Scoping

variable (σ : Scoping)

/-! ### Units and their owners -/

/-- The name of the unit that the node at an address opens. -/
def unitAt? (root : Node) (a : Address) : Option String := (root.descendant? a).bind σ.opens?

/-- The nearest unit among the node at an address and its ancestors. -/
def owner? (root : Node) (a : Address) : Option Address :=
  a.inits.reverse.find? fun p => (σ.unitAt? root p).isSome

/-- The name of the owner. -/
def ownerName? (root : Node) (a : Address) : Option String :=
  (σ.owner? root a).bind (σ.unitAt? root)

/-- The name of the nearest unit among the proper ancestors of a node. -/
def enclosingName? (root : Node) (a : Address) : Option String :=
  a.inits.dropLast.reverse.findSome? (σ.unitAt? root)

/-- Whom the node at an address calls. -/
def calleeAt? (root : Node) (a : Address) : Option String := (root.descendant? a).bind σ.callee?

/-! ### What is read and what it means -/

/-- The node at an address is in the tree and no child on the way to it is passed over. -/
def isRead : Node → Address → Bool
  | _, [] => true
  | n, i :: rest => σ.reads n i && n.children[i]?.any fun c => isRead c rest

/-- The addresses of the nodes that are read, in pre-order. -/
def readAddresses (root : Node) : List Address := root.addresses.filter (σ.isRead root)

/-- The call of a callee by a caller, if there are both. -/
def credit : Option String → Option String → List Event
  | some caller, some callee => [.call caller callee]
  | _, _ => []

/-- What a node means that belongs to a unit. -/
def meaning (n : Node) (unit : Option String) : List Event :=
  ((σ.opens? n).toList.map fun name => .define name ⟨n.startRow, n.endRow⟩) ++
    credit unit (σ.callee? n) ++ (σ.dependency? n).toList.map .dependency

/-- What the node at an address means. -/
def meaningAt (root : Node) (a : Address) : List Event :=
  match root.descendant? a with
  | some n => σ.meaning n (σ.ownerName? root a)
  | none => []

/-- What the tree means. -/
def events (root : Node) : List Event := (σ.readAddresses root).flatMap (σ.meaningAt root)

variable {σ} {root n c : Node} {a p q : Address} {i : Nat}

/-! ### Owners -/

@[simp] theorem unitAt?_nil : σ.unitAt? n [] = σ.opens? n := rfl

theorem unitAt?_cons (hc : n.children[i]? = some c) : σ.unitAt? n (i :: a) = σ.unitAt? c a := by
  simp [unitAt?, hc]

theorem owner?_nil : σ.owner? n [] = if (σ.opens? n).isSome then some [] else none := by
  rw [owner?, List.inits, List.reverse_singleton, List.find?_singleton, unitAt?_nil]

theorem owner?_concat : σ.owner? root (a ++ [i]) =
    if (σ.unitAt? root (a ++ [i])).isSome then some (a ++ [i]) else σ.owner? root a := by
  rw [owner?, List.inits_append]
  simp only [List.inits, List.map_cons, List.map_nil, List.tail_cons, List.reverse_append,
    List.reverse_cons, List.reverse_nil, List.nil_append, List.cons_append, List.find?_cons, owner?]
  cases (σ.unitAt? root (a ++ [i])).isSome <;> rfl

/-- The owner is the longest prefix of an address at which a unit is opened. -/
theorem owner?_eq_some_iff :
    σ.owner? root a = some p ↔ p <+: a ∧ (σ.unitAt? root p).isSome ∧
      ∀ q, q <+: a → p.length < q.length → σ.unitAt? root q = none := by
  induction a using List.reverseRecOn with
  | nil =>
    rw [owner?_nil, List.prefix_nil]
    constructor
    · intro h
      split at h
      · next hu =>
        obtain rfl := Option.some.inj h
        exact ⟨rfl, hu, fun q hq hlen => by simp [List.prefix_nil.1 hq] at hlen⟩
      · cases h
    · rintro ⟨rfl, hu, -⟩
      rw [if_pos (by simpa using hu)]
  | append_singleton a i ih =>
    rw [owner?_concat]
    split
    · next hu =>
      constructor
      · intro h
        obtain rfl := Option.some.inj h
        exact ⟨List.prefix_rfl, hu, fun q hq hlen => absurd hq.length_le (by omega)⟩
      · rintro ⟨hp, -, hno⟩
        rcases List.prefix_concat_iff.1 hp with rfl | hp
        · rfl
        · have hlen : p.length < (a ++ [i]).length := by
            have := hp.length_le
            simp only [List.length_append, List.length_singleton]
            omega
          simp [hno _ List.prefix_rfl hlen] at hu
    · next hu =>
      rw [ih]
      constructor
      · rintro ⟨hp, hup, hno⟩
        refine ⟨hp.trans (List.prefix_append a [i]), hup, fun q hq hlen => ?_⟩
        rcases List.prefix_concat_iff.1 hq with rfl | hq
        · simpa using hu
        · exact hno q hq hlen
      · rintro ⟨hp, hup, hno⟩
        rcases List.prefix_concat_iff.1 hp with rfl | hp
        · exact absurd hup hu
        · exact ⟨hp, hup, fun q hq => hno q (hq.trans (List.prefix_append a [i]))⟩

theorem owner?_cons (hc : n.children[i]? = some c) :
    σ.owner? n (i :: a) =
      ((σ.owner? c a).map (i :: ·)).or (if (σ.opens? n).isSome then some [] else none) := by
  have hbelow : ∀ p, (σ.unitAt? n (i :: p)).isSome = (σ.unitAt? c p).isSome := fun p => by
    rw [unitAt?_cons hc]
  rw [owner?, List.inits_cons, List.reverse_cons, List.find?_append, ← List.map_reverse,
    List.find?_map]
  simp only [Function.comp_def, hbelow, List.find?_cons, unitAt?_nil, List.find?_nil]
  rw [owner?]
  cases (σ.opens? n).isSome <;> rfl

theorem ownerName?_nil : σ.ownerName? n [] = σ.opens? n := by
  rw [ownerName?, owner?_nil]
  cases h : σ.opens? n <;> simp [h]

/-- Below a child the root is the owner of last resort. -/
theorem ownerName?_cons (hc : n.children[i]? = some c) :
    σ.ownerName? n (i :: a) = (σ.ownerName? c a).or (σ.opens? n) := by
  rw [ownerName?, ownerName?, owner?_cons hc]
  cases ho : σ.owner? c a with
  | none => cases h : σ.opens? n <;> simp [h]
  | some p =>
    have hu := (owner?_eq_some_iff.1 ho).2.1
    rw [Option.map_some, Option.some_or, Option.bind_some, Option.bind_some, unitAt?_cons hc]
    obtain ⟨name, hname⟩ := Option.isSome_iff_exists.1 hu
    rw [hname, Option.some_or]

/-- A node that opens a unit is its own owner, and any other belongs to the unit around it. -/
theorem ownerName?_eq_or (root : Node) (a : Address) :
    σ.ownerName? root a = (σ.unitAt? root a).or (σ.enclosingName? root a) := by
  have hfind : ∀ l : List Address, (l.find? fun p => (σ.unitAt? root p).isSome).bind
      (σ.unitAt? root) = l.findSome? (σ.unitAt? root) := by
    intro l
    induction l with
    | nil => rfl
    | cons p l ih =>
      rw [List.find?_cons, List.findSome?_cons]
      cases hp : σ.unitAt? root p with
      | none => exact ih
      | some name => exact hp
  have hinits : a.inits.reverse = a :: a.inits.dropLast.reverse := by
    induction a using List.reverseRecOn with
    | nil => rfl
    | append_singleton a i => simp [List.inits_append]
  rw [ownerName?, owner?, hfind, hinits, List.findSome?_cons, enclosingName?]
  cases σ.unitAt? root a <;> rfl

theorem calleeAt?_of_isSome_unitAt? (h : (σ.unitAt? root a).isSome) :
    σ.calleeAt? root a = none := by
  rw [unitAt?] at h
  rw [calleeAt?]
  cases hn : root.descendant? a with
  | none => rfl
  | some n =>
    rw [hn, Option.bind_some] at h
    exact σ.callee?_of_opens n h

/-- The owner of a call is a proper ancestor of it. -/
theorem owner?_ne_of_isSome_calleeAt? (hcall : (σ.calleeAt? root a).isSome)
    (ho : σ.owner? root a = some p) : p ≠ a := by
  rintro rfl
  simp [calleeAt?_of_isSome_unitAt? (owner?_eq_some_iff.1 ho).2.1] at hcall

/-! ### Read addresses -/

theorem isRead_cons (hc : n.children[i]? = some c) :
    σ.isRead n (i :: a) = (σ.reads n i && σ.isRead c a) := by simp [isRead, hc]

/-- A node is read when no child on the way to it is passed over. -/
theorem isRead_iff : σ.isRead root a = true ↔ (root.descendant? a).isSome ∧
    ∀ p i n, p ++ [i] <+: a → root.descendant? p = some n → σ.reads n i = true := by
  induction a generalizing root with
  | nil => simp [isRead]
  | cons j a ih =>
    cases hc : root.children[j]? with
    | none => simp [isRead, hc]
    | some c =>
      rw [isRead_cons hc, Bool.and_eq_true, ih, Node.descendant?_cons, hc, Option.bind_some]
      constructor
      · rintro ⟨hj, hin, hway⟩
        refine ⟨hin, fun p i n hp hn => ?_⟩
        cases p with
        | nil =>
          obtain ⟨rfl, -⟩ := List.cons_prefix_cons.1 hp
          exact Option.some.inj hn ▸ hj
        | cons k p =>
          obtain ⟨rfl, hp'⟩ := List.cons_prefix_cons.1 hp
          rw [Node.descendant?_cons, hc, Option.bind_some] at hn
          exact hway p i n hp' hn
      · rintro ⟨hin, hway⟩
        refine ⟨hway [] j root (by simp) rfl, hin, fun p i n hp hn => ?_⟩
        exact hway (j :: p) i n (List.cons_prefix_cons.2 ⟨rfl, hp⟩) (by simpa [hc] using hn)

theorem mem_readAddresses : a ∈ σ.readAddresses root ↔ σ.isRead root a = true := by
  rw [readAddresses, List.mem_filter, Node.mem_addresses]
  exact ⟨And.right, fun h => ⟨(isRead_iff.1 h).1, h⟩⟩

theorem pairwise_lt_readAddresses (root : Node) : (σ.readAddresses root).Pairwise (· < ·) :=
  (Node.pairwise_lt_addresses root).filter _

/-- The ancestors of a node that is read are read. -/
theorem isRead_of_isPrefix (hp : p <+: a) (ha : σ.isRead root a = true) :
    σ.isRead root p = true := by
  obtain ⟨hin, hway⟩ := isRead_iff.1 ha
  refine isRead_iff.2 ⟨?_, fun q i n hq hn => hway q i n (hq.trans hp) hn⟩
  obtain ⟨s, rfl⟩ := hp
  rw [Node.descendant?_append] at hin
  exact Option.isSome_of_isSome_bind hin

/-! ### Single events -/

@[simp] theorem credit_none (unit : Option String) : credit unit none = [] := by cases unit <;> rfl

theorem mem_credit {e : Event} {unit callee : Option String} :
    e ∈ credit unit callee ↔ ∃ u c, unit = some u ∧ callee = some c ∧ e = .call u c := by
  cases unit <;> cases callee <;> simp [credit]

theorem length_credit_le_one (unit callee : Option String) : (credit unit callee).length ≤ 1 := by
  cases unit <;> cases callee <;> simp [credit]

theorem definedNames_credit (unit callee : Option String) :
    History.definedNames (credit unit callee) = [] := by
  cases unit <;> cases callee <;> rfl

theorem dependencyTexts_credit (unit callee : Option String) :
    History.dependencyTexts (credit unit callee) = [] := by
  cases unit <;> cases callee <;> rfl

/-- A call of the empty name is not credited. -/
theorem credit_filter (unit callee : Option String) :
    credit unit (callee.filter (· ≠ "")) = match unit, callee with
      | some u, some c => if c = "" then [] else [.call u c]
      | _, _ => [] := by
  cases unit with
  | none => rfl
  | some u =>
    cases callee with
    | none => rfl
    | some c => by_cases hc : c = "" <;> simp [credit, Option.filter_some, hc]

theorem mem_meaningAt_define {name : String} {span : Span} :
    .define name span ∈ σ.meaningAt root a ↔ ∃ n, root.descendant? a = some n ∧
      σ.opens? n = some name ∧ span = ⟨n.startRow, n.endRow⟩ := by
  unfold meaningAt
  cases root.descendant? a with
  | none => simp
  | some n =>
    simp only [meaning, List.mem_append, List.mem_map, Option.mem_toList, mem_credit]
    constructor
    · rintro ((⟨_, hname, h⟩ | ⟨_, _, -, -, h⟩) | ⟨_, -, h⟩)
      · cases h; exact ⟨n, rfl, hname, rfl⟩
      · cases h
      · cases h
    · rintro ⟨_, hm, hname, rfl⟩
      obtain rfl := Option.some.inj hm
      exact .inl (.inl ⟨name, hname, rfl⟩)

theorem mem_meaningAt_dependency {text : String} :
    .dependency text ∈ σ.meaningAt root a ↔
      ∃ n, root.descendant? a = some n ∧ σ.dependency? n = some text := by
  unfold meaningAt
  cases root.descendant? a with
  | none => simp
  | some n => simp [meaning, mem_credit]

theorem mem_definedNames_meaningAt {name : String} :
    name ∈ History.definedNames (σ.meaningAt root a) ↔ σ.unitAt? root a = some name := by
  simp only [History.mem_definedNames, mem_meaningAt_define, unitAt?]
  cases root.descendant? a <;> simp

theorem mem_meaningAt_call {caller callee : String} :
    .call caller callee ∈ σ.meaningAt root a ↔
      σ.ownerName? root a = some caller ∧ σ.calleeAt? root a = some callee := by
  unfold meaningAt calleeAt?
  cases root.descendant? a with
  | none => simp
  | some n =>
    simp only [meaning, List.mem_append, List.mem_map, Option.bind_some, mem_credit]
    constructor
    · rintro ((⟨_, -, h⟩ | ⟨_, _, hcaller, hcallee, h⟩) | ⟨_, -, h⟩)
      · cases h
      · cases h; exact ⟨hcaller, hcallee⟩
      · cases h
    · rintro ⟨hcaller, hcallee⟩
      exact .inl (.inr ⟨_, _, hcaller, hcallee, rfl⟩)

/-- A call belongs to the nearest unit around it, which is a proper ancestor. -/
theorem mem_meaningAt_call_iff {caller callee : String} :
    .call caller callee ∈ σ.meaningAt root a ↔ σ.calleeAt? root a = some callee ∧
      ∃ p, p <+: a ∧ p ≠ a ∧ σ.unitAt? root p = some caller ∧
        ∀ q, q <+: a → p.length < q.length → σ.unitAt? root q = none := by
  rw [mem_meaningAt_call, ownerName?, Option.bind_eq_some_iff, and_comm]
  refine and_congr_right fun hcallee => exists_congr fun p => ?_
  constructor
  · rintro ⟨ho, hp⟩
    have hne := owner?_ne_of_isSome_calleeAt? (by simp [hcallee]) ho
    obtain ⟨hway, -, hnearest⟩ := owner?_eq_some_iff.1 ho
    exact ⟨hway, hne, hp, hnearest⟩
  · rintro ⟨hway, -, hp, hnearest⟩
    exact ⟨owner?_eq_some_iff.2 ⟨hway, by simp [hp], hnearest⟩, hp⟩

/-- An element of what a list is mapped to comes from one element of the list. -/
theorem exists_of_flatMap_eq_append_cons {α β : Type} {f : α → List β} {x : β}
    {before after : List β} :
    ∀ {l : List α}, l.flatMap f = before ++ x :: after → ∃ l₁ y l₂ pre post,
      l = l₁ ++ y :: l₂ ∧ f y = pre ++ x :: post ∧ before = l₁.flatMap f ++ pre ∧
        after = post ++ l₂.flatMap f
  | [], h => by simp at h
  | y :: rest, h => by
    rw [List.flatMap_cons, List.append_eq_append_iff] at h
    rcases h with ⟨as, rfl, hrest⟩ | ⟨bs, hy, hx⟩
    · obtain ⟨l₁, z, l₂, pre, post, rfl, hz, rfl, rfl⟩ := exists_of_flatMap_eq_append_cons hrest
      exact ⟨y :: l₁, z, l₂, pre, post, rfl, hz, by simp, rfl⟩
    · cases bs with
      | nil =>
        rw [List.nil_append] at hx
        have hrest : rest.flatMap f = [] ++ x :: after := hx.symm
        obtain ⟨l₁, z, l₂, pre, post, rfl, hz, hpre, rfl⟩ := exists_of_flatMap_eq_append_cons hrest
        rw [List.append_nil] at hy
        exact ⟨y :: l₁, z, l₂, pre, post, rfl, hz, by simp [hy, ← hpre], rfl⟩
      | cons b bs =>
        obtain ⟨rfl, rfl⟩ := List.cons.inj hx
        exact ⟨[], y, rest, before, bs, rfl, hy, rfl, rfl⟩

/-- The caller of every call is defined before the call: it is the name of the call's owner, which
is read first. -/
theorem callersKnown_events (root : Node) : History.CallersKnown (σ.events root) := by
  intro before caller callee after h
  have hknown : caller ∈ History.definedNames before := by
    obtain ⟨l₁, a, l₂, pre, post, hl, ha, rfl, -⟩ := exists_of_flatMap_eq_append_cons h
    have hcall : .call caller callee ∈ σ.meaningAt root a := by simp [ha]
    obtain ⟨hname, hcallee⟩ := mem_meaningAt_call.1 hcall
    obtain ⟨p, ho, hp⟩ := Option.bind_eq_some_iff.1 hname
    have hway := (owner?_eq_some_iff.1 ho).1
    have hne := owner?_ne_of_isSome_calleeAt? (by simp [hcallee]) ho
    have hread : p ∈ σ.readAddresses root := by
      have hin : a ∈ σ.readAddresses root := by simp [hl]
      exact mem_readAddresses.2 (isRead_of_isPrefix hway (mem_readAddresses.1 hin))
    -- what is read stands in order, and the owner comes before the call
    have hsorted := pairwise_lt_readAddresses (σ := σ) root
    rw [hl] at hread hsorted
    have hearlier : p ∈ l₁ :=
      (Address.mem_before_iff hsorted).2 ⟨hread, Address.lt_of_isPrefix_of_ne hway hne⟩
    rw [History.definedNames_append, List.mem_append]
    refine .inl ?_
    obtain ⟨span, hspan⟩ := History.mem_definedNames.1 (mem_definedNames_meaningAt.2 hp)
    exact History.mem_definedNames.2 ⟨span, List.mem_flatMap.2 ⟨p, hearlier, hspan⟩⟩
  exact ⟨hknown, fun file => Builder.isSome_callsOf?_run hknown⟩

/-! ### What is found in total -/

variable (σ) in
/-- What the node at an address depends on. -/
def dependencyAt? (root : Node) (a : Address) : Option String :=
  (root.descendant? a).bind σ.dependency?

theorem definedNames_meaningAt (root : Node) (a : Address) :
    History.definedNames (σ.meaningAt root a) = (σ.unitAt? root a).toList := by
  unfold meaningAt unitAt?
  cases root.descendant? a with
  | none => rfl
  | some n =>
    simp only [meaning, History.definedNames_append, definedNames_credit, Option.bind_some]
    cases σ.opens? n <;> cases σ.dependency? n <;> rfl

theorem dependencyTexts_meaningAt (root : Node) (a : Address) :
    History.dependencyTexts (σ.meaningAt root a) =
      (σ.dependencyAt? root a).toList.filter (· ≠ "") := by
  unfold meaningAt dependencyAt?
  cases root.descendant? a with
  | none => rfl
  | some n =>
    simp only [meaning, History.dependencyTexts_append, dependencyTexts_credit, Option.bind_some]
    cases σ.opens? n <;> cases σ.dependency? n <;> rfl

theorem definedNames_events (root : Node) :
    History.definedNames (σ.events root) = (σ.readAddresses root).filterMap (σ.unitAt? root) := by
  rw [events, History.definedNames_flatMap, List.filterMap_eq_flatMap_toList]
  exact List.flatMap_congr fun a _ => definedNames_meaningAt root a

theorem dependencyTexts_events (root : Node) :
    History.dependencyTexts (σ.events root) =
      ((σ.readAddresses root).filterMap (σ.dependencyAt? root)).filter (· ≠ "") := by
  rw [events, History.dependencyTexts_flatMap, List.filterMap_eq_flatMap_toList,
    List.filter_flatMap]
  exact List.flatMap_congr fun a _ => dependencyTexts_meaningAt root a

/-! ### A tree and the trees below it -/

variable (σ) in
/-- The children that are read. -/
def below (n : Node) : List Node := (n.children.zipIdx.filter fun c => σ.reads n c.2).map (·.1)

theorem filter_forestAddresses (n : Node) : ∀ l before : List Node, n.children = before ++ l →
    (Node.forestAddresses before.length l).filter (σ.isRead n) =
      ((l.zipIdx before.length).filter fun c => σ.reads n c.2).flatMap fun c =>
        (σ.readAddresses c.1).map (c.2 :: ·)
  | [], _, _ => by simp
  | c :: rest, before, h => by
    have hrest := filter_forestAddresses n rest (before ++ [c]) (by simp [h])
    rw [List.length_append, List.length_singleton] at hrest
    have hc : n.children[before.length]? = some c := by simp [h]
    have hfirst : (c.addresses.map (before.length :: ·)).filter (σ.isRead n) =
        if σ.reads n before.length then (σ.readAddresses c).map (before.length :: ·) else [] := by
      rw [List.filter_map]
      cases hr : σ.reads n before.length <;>
        simp [Function.comp_def, isRead_cons hc, hr, readAddresses]
    rw [Node.forestAddresses_cons, List.filter_append, hrest, hfirst, List.zipIdx_cons,
      List.filter_cons]
    split <;> simp

theorem readAddresses_eq (n : Node) :
    σ.readAddresses n = [] :: (n.children.zipIdx.filter fun c => σ.reads n c.2).flatMap fun c =>
      (σ.readAddresses c.1).map (c.2 :: ·) := by
  rw [readAddresses, Node.addresses_eq, List.filter_cons_of_pos (by rfl)]
  exact congrArg _ (filter_forestAddresses n n.children [] rfl)

variable (σ) in
/-- What a tree means inside a unit. -/
def eventsIn (n : Node) (around : Option String) : List Event :=
  (σ.readAddresses n).flatMap fun a =>
    match n.descendant? a with
    | some m => σ.meaning m ((σ.ownerName? n a).or around)
    | none => []

theorem eventsIn_none (n : Node) : σ.eventsIn n none = σ.events n := by
  simp only [eventsIn, Option.or_none]
  rfl

/-- A tree means what its root means and then what the trees below mean, inside the unit that the
root belongs to. -/
theorem eventsIn_eq (n : Node) (around : Option String) :
    σ.eventsIn n around = σ.meaning n ((σ.opens? n).or around) ++
      (σ.below n).flatMap fun c => σ.eventsIn c ((σ.opens? n).or around) := by
  rw [eventsIn, readAddresses_eq, List.flatMap_cons, Node.descendant?_nil, ownerName?_nil, below,
    List.flatMap_map, List.flatMap_assoc]
  congr 1
  refine List.flatMap_congr fun c hc => ?_
  have hc' := List.mem_zipIdx_iff_getElem?.1 (List.mem_filter.1 hc).1
  rw [List.flatMap_map, eventsIn]
  refine List.flatMap_congr fun a _ => ?_
  simp [hc', ownerName?_cons hc', Option.or_assoc]

/-- The nodes that are read in a tree: its root and those of the trees below. -/
theorem map_descendant?_readAddresses (n : Node) :
    (σ.readAddresses n).map n.descendant? =
      some n :: (σ.below n).flatMap fun c => (σ.readAddresses c).map c.descendant? := by
  rw [readAddresses_eq, List.map_cons, Node.descendant?_nil, List.map_flatMap, below,
    List.flatMap_map]
  congr 1
  refine List.flatMap_congr fun c hc => ?_
  have hc' := List.mem_zipIdx_iff_getElem?.1 (List.mem_filter.1 hc).1
  rw [List.map_map]
  exact List.map_congr_left fun a _ => by simp [hc']

end Scoping

end CodeSurvey
