import CodeSurvey.Proofs.Analysis.Script

/-!
# What the flat reading of a script finds

In the flat reading a unit is the context of every call behind it, up to the next unit, whether or
not it lies around the call.  A statement that declares variables defines all of them that are
functions as soon as it is reached; the declarators below it define nothing of their own.

* `Script.units_flat` : what a node of a script defines in this reading, which is what
  `Script.Defines` says;
* `Script.loop_flat` : the loop of the walk hands on the unit declared last, and the units that it
  keeps beside the pending nodes do not matter;
* `Script.latestUnit?_eq_some_iff` : what it is to be declared last;
* `Script.flatReads_addresses` : the walk takes all nodes of a tree in pre-order and finds what
  they mean, each with the unit declared last up to it.
-/

namespace CodeSurvey

namespace Script

variable {s : Script} {n root : Node} {a p : Address} {name : String}

/-! ### The units of the flat reading -/

/-- The units that the flat reading defines at the node at an address. -/
def flatUnitsAt (s : Script) (root : Node) (a : Address) : List (String × Node) :=
  match root.descendant? a with
  | some n => s.flatUnits n
  | none => []

/-- The name of the unit that the nodes at the addresses define last. -/
def lastUnit? (s : Script) (root : Node) (l : List Address) : Option String :=
  (l.flatMap (s.flatUnitsAt root)).getLast?.map (·.1)

/-- The name of the unit defined last up to an address. -/
def latestUnit? (s : Script) (root : Node) (a : Address) : Option String :=
  s.lastUnit? root (root.addresses.filter (· ≤ a))

/-- What the node at an address means: the units it defines, a call that belongs to the unit
defined last, and a dependency. -/
def flatMeaningAt (s : Script) (root : Node) (a : Address) : List Event :=
  match root.descendant? a with
  | some n =>
    (s.flatUnits n).map (fun u => .define u.1 ⟨u.2.startRow, u.2.endRow⟩) ++
      Scoping.credit (s.latestUnit? root a) ((s.callee? n).filter (· ≠ "")) ++
        (source? n).toList.map .dependency
  | none => []

theorem mem_addresses_of_flatUnitsAt (h : s.flatUnitsAt root a ≠ []) : a ∈ root.addresses := by
  rw [Node.mem_addresses]
  cases hn : root.descendant? a with
  | none => simp [flatUnitsAt, hn] at h
  | some n => rfl

/-- A node is a declaration or a statement, never both. -/
theorem units_flat (hs : s.reading = .flat) (n : Node) : s.units n = s.flatUnits n := by
  rw [units, flatUnits, declarationName?, hs]
  by_cases h : n.kind ∈ functionKinds ∨ (s.classesAsUnits ∧ n.kind ∈ classKinds)
  · have hkind : n.kind ∉ variableKinds := by
      simp only [functionKinds, classKinds, List.mem_cons, List.not_mem_nil, or_false] at h
      rcases h with (h | h) | ⟨-, h | h⟩ <;> rw [h] <;> decide
    rw [if_pos h, if_pos h, statedUnits_eq_nil hkind, List.append_nil]
    cases n.childByField? "name" <;> rfl
  · rw [if_neg h, if_neg h]
    rfl

/-- A call defines nothing. -/
theorem flatUnits_eq_nil_of_callee? (h : (s.callee? n).isSome) : s.flatUnits n = [] := by
  obtain ⟨callee, hcallee⟩ := Option.isSome_iff_exists.1 h
  rcases (callee?_eq_some_iff.1 hcallee).kind with hkind | hkind <;>
    exact flatUnits_eq_nil (by rw [hkind]; decide)

/-- An import defines nothing. -/
theorem flatUnits_eq_nil_of_source? (h : (source? n).isSome) : s.flatUnits n = [] := by
  have hkind : n.kind = "import_statement" := by
    by_contra hno
    simp [source?_eq_none hno] at h
  exact flatUnits_eq_nil (by rw [hkind]; decide)

/-- A declarator on its own defines nothing. -/
theorem flatUnits_eq_nil_of_declarator (h : n.kind = "variable_declarator") :
    s.flatUnits n = [] :=
  flatUnits_eq_nil (by rw [h]; decide)

/-! ### The loop -/

/-- What nodes mean that are read one after the other when `latest` has been declared last. -/
def eventsAfter (s : Script) (latest : Option String) : List Node → List Event
  | [] => []
  | n :: rest =>
    (s.eventsAt n latest).1 ++ s.eventsAfter (unitAt (s.units n) latest) rest

/-- The invariant of the loop: what is found, then what the nodes of the pending trees mean one
after the other. -/
theorem loop_flat (hs : s.reading = .flat) (found : List Event) (latest : Option String)
    (pending : List (Node × Option String)) :
    s.walk.loop found latest pending =
      found.reverse ++ s.eventsAfter latest (Node.forestPreorder (pending.map (·.1))) := by
  fun_induction s.walk.loop found latest pending with
  | case1 => simp [eventsAfter]
  | case2 found latest n around rest v ih =>
    have hv : v = (⟨(s.eventsAt n latest).1, n.children, (s.eventsAt n latest).2⟩,
        unitAt (s.units n) latest) := by
      have hbefore : s.unitBefore latest around = latest := by rw [unitBefore, hs]
      simp only [v, walk, hbefore]
    simp only [List.unattach_reverse, List.unattach_attach] at ih
    rw [ih, hv, List.map_append, Visit.pending, List.map_map, List.map_cons,
      Node.forestPreorder_append, Node.forestPreorder_cons, Node.preorder_eq, List.cons_append,
      eventsAfter, List.reverse_append, List.reverse_reverse, List.append_assoc]
    simp only [Function.comp_def, List.map_id']

/-! ### The unit defined last -/

theorem lastUnit?_concat (l : List Address) (a : Address) :
    s.lastUnit? root (l ++ [a]) =
      ((s.flatUnitsAt root a).getLast?.map (·.1)).or (s.lastUnit? root l) := by
  rw [lastUnit?, List.flatMap_append, List.flatMap_singleton, List.getLast?_append, Option.map_or,
    lastUnit?]

/-- Up to one of the listed addresses there are those in front of it and the address itself. -/
theorem latestUnit?_eq {before after : List Address} (h : root.addresses = before ++ a :: after) :
    s.latestUnit? root a = s.lastUnit? root (before ++ [a]) := by
  have hsorted := Node.pairwise_lt_addresses root
  rw [h] at hsorted
  have hbefore : before.filter (· ≤ a) = before := by
    refine List.filter_eq_self.2 fun q hq => ?_
    simpa using ((Address.mem_before_iff hsorted).1 hq).2.le
  have hafter : after.filter (· ≤ a) = [] := by
    refine List.filter_eq_nil_iff.2 fun q hq => ?_
    simpa using ((Address.mem_after_iff hsorted).1 hq).2
  rw [latestUnit?, h, List.filter_append, List.filter_cons_of_pos (by simp), hbefore, hafter]

/-- The unit defined last is the last one of the last node that defines any. -/
theorem latestUnit?_eq_some_iff : s.latestUnit? root a = some name ↔
    ∃ p, p ≤ a ∧ (s.flatUnitsAt root p).getLast?.map (·.1) = some name ∧
      ∀ q, p < q → q ≤ a → s.flatUnitsAt root q = [] := by
  have hsorted := (Node.pairwise_lt_addresses root).filter (· ≤ a)
  have hmem : ∀ q, q ∈ root.addresses.filter (· ≤ a) ↔ q ∈ root.addresses ∧ q ≤ a := by simp
  rw [latestUnit?, lastUnit?, Option.map_eq_some_iff]
  simp only [List.getLast?_flatMap, List.findSome?_eq_some_iff, List.getLast?_eq_none_iff]
  constructor
  · rintro ⟨u, ⟨later, p, earlier, hsplit, hu, hlater⟩, rfl⟩
    have hsplit' : root.addresses.filter (· ≤ a) = earlier.reverse ++ p :: later.reverse := by
      rw [← List.reverse_inj, hsplit]
      simp
    have hp : p ∈ root.addresses.filter (· ≤ a) := by simp [hsplit']
    refine ⟨p, ((hmem p).1 hp).2, by rw [hu]; rfl, fun q hpq hqa => ?_⟩
    by_contra hne
    have hq : q ∈ root.addresses.filter (· ≤ a) :=
      (hmem q).2 ⟨mem_addresses_of_flatUnitsAt hne, hqa⟩
    rw [hsplit'] at hq hsorted
    have hq' := (Address.mem_after_iff hsorted).2 ⟨hq, hpq⟩
    exact hne (hlater q (List.mem_reverse.1 hq'))
  · rintro ⟨p, hpa, hname, hno⟩
    obtain ⟨u, hu, rfl⟩ := Option.map_eq_some_iff.1 hname
    have hne : s.flatUnitsAt root p ≠ [] := by
      intro hnil
      simp [hnil] at hu
    obtain ⟨earlier, later, hsplit⟩ :=
      List.append_of_mem ((hmem p).2 ⟨mem_addresses_of_flatUnitsAt hne, hpa⟩)
    refine ⟨u, ⟨later.reverse, p, earlier.reverse, by simp [hsplit], hu, fun q hq => ?_⟩, rfl⟩
    rw [hsplit] at hsorted
    obtain ⟨hq, hpq⟩ := (Address.mem_after_iff hsorted).1 (List.mem_reverse.1 hq)
    rw [← hsplit, hmem] at hq
    exact hno q hpq hq.2

/-- Behind a node that defines units there is a unit defined last. -/
theorem isSome_latestUnit? (h : s.flatUnitsAt root p ≠ []) (hpa : p ≤ a) :
    (s.latestUnit? root a).isSome := by
  have hp : p ∈ root.addresses.filter (· ≤ a) :=
    List.mem_filter.2 ⟨mem_addresses_of_flatUnitsAt h, by simpa using hpa⟩
  have hne : (root.addresses.filter (· ≤ a)).flatMap (s.flatUnitsAt root) ≠ [] :=
    fun hnil => h (List.flatMap_eq_nil_iff.1 hnil p hp)
  rw [latestUnit?, lastUnit?, Option.isSome_map, List.getLast?_isSome]
  exact hne

/-! ### What is found -/

theorem eventsAt_flat (hs : s.reading = .flat) {before after : List Address}
    (h : root.addresses = before ++ a :: after) (hn : root.descendant? a = some n) :
    (s.eventsAt n (s.lastUnit? root before)).1 = s.flatMeaningAt root a ∧
      unitAt (s.units n) (s.lastUnit? root before) = s.lastUnit? root (before ++ [a]) := by
  have hat : s.flatUnitsAt root a = s.flatUnits n := by rw [flatUnitsAt, hn]
  have hunit : unitAt (s.units n) (s.lastUnit? root before) = s.lastUnit? root (before ++ [a]) := by
    rw [lastUnit?_concat, hat, units_flat hs, unitAt]
    cases (s.flatUnits n).getLast? <;> rfl
  refine ⟨?_, hunit⟩
  have hcall : s.callEvents (s.latestUnit? root a) n =
      Scoping.credit (s.latestUnit? root a) ((s.callee? n).filter (· ≠ "")) :=
    (Scoping.credit_filter _ (s.callee? n)).symm
  rw [eventsAt, hunit, ← latestUnit?_eq h, hcall, units_flat hs, dependencyEvents_eq,
    flatMeaningAt, hn]
  rfl

/-- Along the listed addresses the walk finds what the nodes mean. -/
theorem eventsAfter_eq (hs : s.reading = .flat) (root : Node) :
    ∀ (after before : List Address) (nodes : List Node), root.addresses = before ++ after →
      after.map root.descendant? = nodes.map some →
      s.eventsAfter (s.lastUnit? root before) nodes = after.flatMap (s.flatMeaningAt root)
  | [], before, nodes, _, hnodes => by
    have hnil : nodes = [] := by simpa using hnodes.symm
    rw [hnil]
    rfl
  | a :: after, before, nodes, h, hnodes => by
    cases nodes with
    | nil => simp at hnodes
    | cons n nodes =>
      rw [List.map_cons, List.map_cons] at hnodes
      obtain ⟨hn, hnodes⟩ := List.cons.inj hnodes
      obtain ⟨hevents, hunit⟩ := eventsAt_flat hs h hn
      rw [eventsAfter, hevents, hunit, List.flatMap_cons]
      exact congrArg _ (eventsAfter_eq hs root after (before ++ [a]) nodes (by simp [h]) hnodes)

theorem events_flat (hs : s.reading = .flat) (root : Node) :
    s.events root = root.addresses.flatMap (s.flatMeaningAt root) := by
  have hnodes := Node.map_descendant?_addresses root
  have hpreorder : Node.forestPreorder [root] = root.preorder := by simp
  rw [events, Walk.events, loop_flat hs, List.reverse_nil, List.nil_append, List.map_singleton,
    hpreorder]
  exact eventsAfter_eq hs root root.addresses [] root.preorder rfl hnodes

theorem mem_flatMeaningAt_call {caller callee : String} :
    .call caller callee ∈ s.flatMeaningAt root a ↔
      s.scoping.calleeAt? root a = some callee ∧ s.latestUnit? root a = some caller := by
  unfold flatMeaningAt Scoping.calleeAt?
  cases root.descendant? a with
  | none => simp
  | some n =>
    simp only [List.mem_append, List.mem_map, Option.bind_some, Scoping.mem_credit]
    constructor
    · rintro ((⟨_, -, h⟩ | ⟨_, _, hcaller, hcallee, h⟩) | ⟨_, -, h⟩)
      · cases h
      · cases h; exact ⟨hcallee, hcaller⟩
      · cases h
    · rintro ⟨hcallee, hcaller⟩
      exact .inl (.inr ⟨_, _, hcaller, hcallee, rfl⟩)

theorem definedNames_flatMeaningAt (root : Node) (a : Address) :
    History.definedNames (s.flatMeaningAt root a) = (s.flatUnitsAt root a).map (·.1) := by
  unfold flatMeaningAt flatUnitsAt
  cases root.descendant? a with
  | none => rfl
  | some n =>
    have hdefine : History.definedNames ((s.flatUnits n).map fun u =>
        .define u.1 ⟨u.2.startRow, u.2.endRow⟩) = (s.flatUnits n).map (·.1) := by
      rw [History.definedNames, List.filterMap_map]
      exact congrFun List.filterMap_eq_map (s.flatUnits n)
    have hdepend : History.definedNames ((source? n).toList.map .dependency) = [] := by
      cases source? n <;> rfl
    simp only [History.definedNames_append, Scoping.definedNames_credit, hdefine, hdepend,
      List.append_nil]

theorem dependencyTexts_flatMeaningAt (root : Node) (a : Address) :
    History.dependencyTexts (s.flatMeaningAt root a) =
      (s.scoping.dependencyAt? root a).toList.filter (· ≠ "") := by
  unfold flatMeaningAt Scoping.dependencyAt?
  cases root.descendant? a with
  | none => rfl
  | some n =>
    have hdefine : History.dependencyTexts ((s.flatUnits n).map fun u =>
        .define u.1 ⟨u.2.startRow, u.2.endRow⟩) = [] := by
      simp [History.dependencyTexts, Event.dependencyText?]
    have hdepend : s.scoping.dependency? n = source? n := rfl
    simp only [History.dependencyTexts_append, Scoping.dependencyTexts_credit, hdefine,
      Option.bind_some, hdepend, List.nil_append]
    cases source? n <;> rfl

/-- A call is behind the unit that it is credited to. -/
theorem exists_lt_of_mem_flatMeaningAt_call {caller callee : String}
    (h : .call caller callee ∈ s.flatMeaningAt root a) :
    ∃ p, p < a ∧ (s.flatUnitsAt root p).getLast?.map (·.1) = some caller ∧
      ∀ q, p < q → q ≤ a → s.flatUnitsAt root q = [] := by
  obtain ⟨hcallee, hlatest⟩ := mem_flatMeaningAt_call.1 h
  obtain ⟨p, hpa, hname, hno⟩ := latestUnit?_eq_some_iff.1 hlatest
  refine ⟨p, lt_of_le_of_ne hpa ?_, hname, hno⟩
  rintro rfl
  obtain ⟨n, hn, hcall⟩ := Option.bind_eq_some_iff.1 hcallee
  have hsome : (s.callee? n).isSome := by
    obtain ⟨hc, -⟩ := Option.filter_eq_some_iff.1 hcall
    simp [hc]
  rw [flatUnitsAt, hn] at hname
  simp [flatUnits_eq_nil_of_callee? hsome] at hname

/-- A unit is defined before the calls that are credited to it. -/
theorem callersKnown_flat (hs : s.reading = .flat) (root : Node) :
    History.CallersKnown (s.events root) := by
  rw [events_flat hs]
  intro before caller callee after h
  have hknown : caller ∈ History.definedNames before := by
    obtain ⟨l₁, a, l₂, pre, post, hl, ha, rfl, -⟩ := Scoping.exists_of_flatMap_eq_append_cons h
    have hcall : .call caller callee ∈ s.flatMeaningAt root a := by simp [ha]
    obtain ⟨p, hpa, hname, -⟩ := exists_lt_of_mem_flatMeaningAt_call hcall
    obtain ⟨u, hu, rfl⟩ := Option.map_eq_some_iff.1 hname
    have hmem : u.1 ∈ (s.flatUnitsAt root p).map (·.1) :=
      List.mem_map_of_mem (List.mem_of_getLast? hu)
    have hp : p ∈ root.addresses := by
      refine mem_addresses_of_flatUnitsAt (s := s) fun hnil => ?_
      simp [hnil] at hmem
    have hsorted := Node.pairwise_lt_addresses root
    rw [hl] at hp hsorted
    have hearlier : p ∈ l₁ := (Address.mem_before_iff hsorted).2 ⟨hp, hpa⟩
    rw [History.definedNames_append, History.definedNames_flatMap, List.mem_append,
      List.mem_flatMap]
    exact .inl ⟨p, hearlier, by rwa [definedNames_flatMeaningAt]⟩
  exact ⟨hknown, fun file => Builder.isSome_callsOf?_run hknown⟩

/-! ### What the nodes mean -/

/-- A node that defines units is neither a call nor an import. -/
theorem flatMeaningAt_of_flatUnits_ne_nil (hn : root.descendant? a = some n)
    (hunits : s.flatUnits n ≠ []) :
    s.flatMeaningAt root a =
      (s.flatUnits n).map fun u => .define u.1 ⟨u.2.startRow, u.2.endRow⟩ := by
  have hcallee : s.callee? n = none := by
    rw [← Option.not_isSome_iff_eq_none]
    exact fun h => hunits (flatUnits_eq_nil_of_callee? h)
  have hsource : source? n = none := by
    rw [← Option.not_isSome_iff_eq_none]
    exact fun h => hunits (flatUnits_eq_nil_of_source? h)
  rw [flatMeaningAt, hn]
  simp [hcallee, hsource]

theorem flatMeaningAt_of_flatUnits_eq_nil (hn : root.descendant? a = some n)
    (hunits : s.flatUnits n = []) :
    s.flatMeaningAt root a =
      Scoping.credit (s.latestUnit? root a) ((s.callee? n).filter (· ≠ "")) ++
        (source? n).toList.map .dependency := by
  rw [flatMeaningAt, hn]
  simp [hunits]

theorem mem_flatMeaningAt_dependency {text : String} :
    .dependency text ∈ s.flatMeaningAt root a ↔
      ∃ n, root.descendant? a = some n ∧ source? n = some text := by
  unfold flatMeaningAt
  cases root.descendant? a with
  | none => simp
  | some n => simp [Scoping.mem_credit]

theorem flatUnitsAt_eq_nil_iff :
    s.flatUnitsAt root a = [] ↔ ∀ n, root.descendant? a = some n → s.Defines n [] := by
  unfold flatUnitsAt
  cases root.descendant? a with
  | none => simp
  | some n => simp [flatUnits_eq_iff]

theorem getLast?_flatUnitsAt_iff : (s.flatUnitsAt root a).getLast?.map (·.1) = some name ↔
    ∃ n earlier d, root.descendant? a = some n ∧ s.Defines n (earlier ++ [(name, d)]) := by
  unfold flatUnitsAt
  cases root.descendant? a with
  | none => simp
  | some n =>
    simp only [← flatUnits_eq_iff, Option.map_eq_some_iff, List.getLast?_eq_some_iff]
    constructor
    · rintro ⟨u, ⟨earlier, hunits⟩, rfl⟩
      exact ⟨n, earlier, u.2, rfl, hunits⟩
    · rintro ⟨_, earlier, d, hn, hunits⟩
      obtain rfl := Option.some.inj hn
      exact ⟨(name, d), ⟨earlier, hunits⟩, rfl⟩

/-- The unit declared last before an address: a node before it states the unit last, and no node
in between states any. -/
theorem flatUnitsAt_latest_iff {caller : String} :
    ((s.flatUnitsAt root p).getLast?.map (·.1) = some caller ∧
      ∀ q, p < q → q < a → s.flatUnitsAt root q = []) ↔
    ∃ m earlier d, root.descendant? p = some m ∧ s.Defines m (earlier ++ [(caller, d)]) ∧
      ∀ q m', p < q → q < a → root.descendant? q = some m' → s.Defines m' [] := by
  rw [getLast?_flatUnitsAt_iff]
  simp only [flatUnitsAt_eq_nil_iff]
  constructor
  · rintro ⟨⟨m, earlier, d, hm, hunits⟩, hno⟩
    exact ⟨m, earlier, d, hm, hunits, fun q m' hpq hqa => hno q hpq hqa m'⟩
  · rintro ⟨m, earlier, d, hm, hunits, hno⟩
    exact ⟨⟨m, earlier, d, hm, hunits⟩, fun q hpq hqa m' => hno q m' hpq hqa⟩

theorem mem_flatMeaningAt_call_iff {caller callee : String} :
    .call caller callee ∈ s.flatMeaningAt root a ↔
      s.scoping.calleeAt? root a = some callee ∧ ∃ p, p < a ∧
        (s.flatUnitsAt root p).getLast?.map (·.1) = some caller ∧
        ∀ q, p < q → q < a → s.flatUnitsAt root q = [] := by
  constructor
  · intro h
    obtain ⟨p, hpa, hname, hno⟩ := exists_lt_of_mem_flatMeaningAt_call h
    exact ⟨(mem_flatMeaningAt_call.1 h).1, p, hpa, hname, fun q hpq hqa => hno q hpq hqa.le⟩
  · rintro ⟨hcallee, p, hpa, hname, hno⟩
    refine mem_flatMeaningAt_call.2 ⟨hcallee, latestUnit?_eq_some_iff.2 ⟨p, hpa.le, hname, ?_⟩⟩
    intro q hpq hqa
    rcases eq_or_lt_of_le hqa with rfl | hlt
    · obtain ⟨n, hn, hcall⟩ := Option.bind_eq_some_iff.1 hcallee
      obtain ⟨hc, -⟩ := Option.filter_eq_some_iff.1 hcall
      rw [flatUnitsAt, hn]
      exact flatUnits_eq_nil_of_callee? (by simp [hc])
    · exact hno q hpq hlt

/-- A script is read node by node, each call for the unit defined last. -/
structure FlatReads (s : Script) (root : Node) : Prop where
  /-- The loop takes all nodes one by one and then ends. -/
  follows : s.walk.Follows none root root.addresses
  /-- These are the nodes of the tree in pre-order. -/
  preorder : root.addresses.map root.descendant? = root.preorder.map some
  /-- What is found is what they mean. -/
  events : s.events root = root.addresses.flatMap (s.flatMeaningAt root)
  /-- Every node defines units in one way: a declaration itself, a statement the variables among
  its named children that it initialises with functions, and any other node none. -/
  units : ∀ n, ∃! units, s.Defines n units
  /-- A node that defines units means their definitions, in order and each with its own span, and
  nothing else. -/
  definitions : ∀ a n units, root.descendant? a = some n → s.Defines n units → units ≠ [] →
    s.flatMeaningAt root a = units.map fun u => .define u.1 ⟨u.2.startRow, u.2.endRow⟩
  /-- Any other node means one thing at most, and no definition. -/
  others : ∀ a n, root.descendant? a = some n → s.Defines n [] →
    (s.flatMeaningAt root a).length ≤ 1 ∧ History.definedNames (s.flatMeaningAt root a) = []
  /-- A declarator means no definition on its own. -/
  declarator : ∀ a n, root.descendant? a = some n → n.kind = "variable_declarator" →
    History.definedNames (s.flatMeaningAt root a) = []
  /-- A call belongs to the last unit of the last node before it that defines any, wherever that
  node stands, and is not recorded when there is none. -/
  context : ∀ a caller callee, .call caller callee ∈ s.flatMeaningAt root a ↔
    ((∃ n, root.descendant? a = some n ∧ s.Calls n callee) ∧ callee ≠ "") ∧
      ∃ p, p < a ∧ ∃ m earlier d, root.descendant? p = some m ∧
        s.Defines m (earlier ++ [(caller, d)]) ∧
        ∀ q m', p < q → q < a → root.descendant? q = some m' → s.Defines m' []
  /-- An import means the dependency on its source, without the quotes. -/
  dependencies : ∀ a text, .dependency text ∈ s.flatMeaningAt root a ↔
    ∃ n, root.descendant? a = some n ∧ Imports n text
  /-- Every call is made by a unit that is defined before it. -/
  callersKnown : History.CallersKnown (s.events root)

/-- **In the flat reading a unit is the context of what stands behind it**, up to the next unit,
whether or not it lies around it. -/
theorem flatReads_addresses (s : Script) (root : Node) :
    FlatReads { s with reading := .flat } root := by
  have hflat : ({ s with reading := .flat } : Script).reading = .flat := rfl
  generalize { s with reading := .flat } = s at hflat
  have hguides : s.scoping.Guides s.walk := by
    intro latest n around
    simp [Scoping.below, scoping, walk, List.zipIdx_map_fst]
  refine
    { follows := ?_
      preorder := Node.map_descendant?_addresses root
      events := events_flat hflat root
      units := fun n => ?_
      definitions := fun a n units hn hunits hne => ?_
      others := fun a n hn hunits => ?_
      declarator := fun a n hn hkind => ?_
      context := fun a caller callee => ?_
      dependencies := fun a text => ?_
      callersKnown := callersKnown_flat hflat root }
  · rw [← readAddresses_scoping (s := s)]
    exact hguides.follows none root
  · exact ⟨s.flatUnits n, flatUnits_eq_iff.1 rfl, fun units hunits =>
      (flatUnits_eq_iff.2 hunits).symm⟩
  · obtain rfl := flatUnits_eq_iff.2 hunits
    exact flatMeaningAt_of_flatUnits_ne_nil hn hne
  · have hnil := flatUnits_eq_iff.2 hunits
    constructor
    · rw [flatMeaningAt_of_flatUnits_eq_nil hn hnil]
      exact length_credit_append_le_one _ n
    · rw [definedNames_flatMeaningAt, flatUnitsAt, hn]
      exact congrArg _ hnil
  · rw [definedNames_flatMeaningAt, flatUnitsAt, hn]
    exact congrArg _ (flatUnits_eq_nil_of_declarator hkind)
  · rw [mem_flatMeaningAt_call_iff, calleeAt?_eq_some_iff]
    simp only [flatUnitsAt_latest_iff]
  · rw [mem_flatMeaningAt_dependency]
    simp only [source?_eq_some_iff]

end Script

end CodeSurvey
