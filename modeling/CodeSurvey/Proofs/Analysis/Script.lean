import CodeSurvey.Proofs.Analysis.ScriptNode
import CodeSurvey.Proofs.Analysis.Walk

/-!
# What the scoped reading of a script finds

The walk of a script carries two contexts, the unit around each pending node and the unit
declared last.  In the scoped reading only the first of them counts:

* `Script.scoping` : what the nodes of a script are, whatever stands around them;
* `Script.describes_walk` : every visit of the walk goes by it, whatever was declared last;
* `Script.reads_addresses` : the walk takes all nodes of a tree in pre-order and finds what they
  mean, each with the nearest unit at it or around it.
-/

namespace CodeSurvey

namespace Script

variable {s : Script} {n root : Node} {a : Address}

/-! ### The scoping -/

/-- A unit is no call. -/
theorem callee?_of_isSome_unitName? (h : (s.unitName? n).isSome) : s.callee? n = none := by
  by_contra hcall
  obtain ⟨callee, hcallee⟩ := Option.ne_none_iff_exists'.1 hcall
  have hnone : s.unitName? n = none := by
    rcases (callee?_eq_some_iff.1 hcallee).kind with hkind | hkind <;>
      exact unitName?_eq_none (by rw [hkind]; decide)
  simp [hnone] at h

/-- What single nodes are to the scoped reading of a script. -/
def scoping (s : Script) : Scoping where
  opens? := s.unitName?
  reads _ _ := true
  callee? n := (s.callee? n).filter (· ≠ "")
  dependency? := source?
  callee?_of_opens n h := by rw [callee?_of_isSome_unitName? h, Option.filter_none]

theorem readAddresses_scoping (root : Node) : s.scoping.readAddresses root = root.addresses := by
  refine List.filter_eq_self.2 fun a ha => ?_
  exact Scoping.isRead_iff.2 ⟨Node.mem_addresses.1 ha, fun _ _ _ _ _ => rfl⟩

/-! ### The walk and the scoping -/

theorem units_eq (hs : s.reading = .scoped) (n : Node) :
    s.units n = (s.unitName? n).toList.map fun name => (name, n) := by
  rw [units, unitName?, hs]
  split
  · cases n.childByField? "name" <;> rfl
  · dsimp only
    cases declaratorUnit? n <;> rfl

theorem dependencyEvents_eq (n : Node) :
    dependencyEvents n = (source? n).toList.map .dependency := by
  rw [dependencyEvents, source?]
  split
  · cases n.childByField? "source" <;> rfl
  · rfl

/-- Every visit goes by the scoping, whatever unit was declared last. -/
theorem describes_walk (hs : s.reading = .scoped) : s.scoping.Describes s.walk := by
  intro latest n around
  have hbefore : s.unitBefore latest around = around := by rw [unitBefore, hs]
  have hunit : unitAt (s.units n) around = (s.unitName? n).or around := by
    rw [units_eq hs]
    cases s.unitName? n <;> rfl
  have hdefine : defineEvents (s.units n) =
      (s.unitName? n).toList.map fun name => .define name ⟨n.startRow, n.endRow⟩ := by
    rw [units_eq hs, defineEvents, List.map_map]
    rfl
  have hcall : ∀ unit, s.callEvents unit n =
      Scoping.credit unit ((s.callee? n).filter (· ≠ "")) := fun unit =>
    (Scoping.credit_filter unit (s.callee? n)).symm
  have hbelow : s.scoping.below n = n.children := by
    simp [Scoping.below, scoping, List.zipIdx_map_fst]
  rw [hbelow]
  simp only [walk, eventsAt, hbefore, hunit, hdefine, hcall, dependencyEvents_eq]
  rfl

/-! ### What is found -/

/-- The unit that a node at an address lies in is the nearest one: it has the name, and no node
below it on the way to the address is a unit. -/
theorem unitAt?_nearest_iff {caller : String} {p : Address} :
    (s.scoping.unitAt? root p = some caller ∧
      ∀ q, q <+: a → p.length < q.length → s.scoping.unitAt? root q = none) ↔
    ∃ m, root.descendant? p = some m ∧ s.OpensUnit m caller ∧
      ∀ q m', q <+: a → p.length < q.length → root.descendant? q = some m' →
        ∀ name, ¬ s.OpensUnit m' name := by
  constructor
  · rintro ⟨hp, hno⟩
    obtain ⟨m, hm, hname⟩ := Option.bind_eq_some_iff.1 hp
    refine ⟨m, hm, unitName?_eq_some_iff.1 hname, ?_⟩
    intro q m' hq hlen hm'
    exact unitName?_eq_none_iff.1 (Option.bind_eq_none_iff.1 (hno q hq hlen) m' hm')
  · rintro ⟨m, hm, hopens, hno⟩
    refine ⟨Option.bind_eq_some_iff.2 ⟨m, hm, unitName?_eq_some_iff.2 hopens⟩, ?_⟩
    intro q hq hlen
    refine Option.bind_eq_none_iff.2 ?_
    intro m' hm'
    exact unitName?_eq_none_iff.2 (hno q m' hq hlen hm')

/-- A node calls somebody, and the name is not empty. -/
theorem calleeAt?_eq_some_iff {callee : String} :
    s.scoping.calleeAt? root a = some callee ↔
      (∃ n, root.descendant? a = some n ∧ s.Calls n callee) ∧ callee ≠ "" := by
  rw [Scoping.calleeAt?, Option.bind_eq_some_iff]
  simp only [scoping, Option.filter_eq_some_iff, callee?_eq_some_iff, decide_eq_true_eq]
  constructor
  · rintro ⟨n, hn, hcalls, hne⟩
    exact ⟨⟨n, hn, hcalls⟩, hne⟩
  · rintro ⟨⟨n, hn, hcalls⟩, hne⟩
    exact ⟨n, hn, hcalls, hne⟩

/-- A call is no import. -/
theorem length_credit_append_le_one (unit : Option String) (n : Node) :
    (Scoping.credit unit ((s.callee? n).filter (· ≠ "")) ++
      (source? n).toList.map Event.dependency).length ≤ 1 := by
  cases hcallee : s.callee? n with
  | none =>
    rw [Option.filter_none, Scoping.credit_none, List.nil_append, List.length_map]
    cases source? n <;> simp
  | some callee =>
    have hsource : source? n = none := by
      refine source?_eq_none fun himport => ?_
      rcases (callee?_eq_some_iff.1 hcallee).kind with hkind | hkind <;> simp [hkind] at himport
    rw [hsource, Option.toList_none, List.map_nil, List.append_nil]
    exact Scoping.length_credit_le_one unit _

/-- A node is a unit, a call or an import: no two of these at once. -/
theorem length_meaningAt_le_one : (s.scoping.meaningAt root a).length ≤ 1 := by
  unfold Scoping.meaningAt
  cases root.descendant? a with
  | none => simp
  | some n =>
    cases hunit : s.unitName? n with
    | none => simpa [Scoping.meaning, scoping, hunit] using length_credit_append_le_one _ n
    | some name =>
      have hcallee := callee?_of_isSome_unitName? (s := s) (n := n) (by simp [hunit])
      have hsource : source? n = none := by
        refine source?_eq_none fun himport => ?_
        rw [unitName?_eq_none (by rw [himport]; decide)] at hunit
        cases hunit
      simp [Scoping.meaning, scoping, hunit, hcallee, hsource]

/-- A script is read node by node, each in the unit it lies in. -/
structure Reads (s : Script) (root : Node) : Prop where
  /-- Whatever was declared before, the loop takes all nodes one by one and then ends. -/
  follows : ∀ latest, s.walk.Follows latest root root.addresses
  /-- These are the nodes of the tree in pre-order. -/
  preorder : root.addresses.map root.descendant? = root.preorder.map some
  /-- What is found is what they mean. -/
  events : s.events root = root.addresses.flatMap (s.scoping.meaningAt root)
  /-- Nor does it depend on what was declared before. -/
  forgets : ∀ latest, s.walk.events latest root = s.events root
  /-- A node means one thing at most. -/
  single : ∀ a, (s.scoping.meaningAt root a).length ≤ 1
  /-- A unit, which is a declaration or a variable initialised with a function, means its
  definition with its own span. -/
  definitions : ∀ a name span, .define name span ∈ s.scoping.meaningAt root a ↔
    ∃ n, root.descendant? a = some n ∧ s.OpensUnit n name ∧ span = ⟨n.startRow, n.endRow⟩
  /-- A call belongs to the nearest unit that it lies in, and to no other. -/
  context : ∀ a caller callee, .call caller callee ∈ s.scoping.meaningAt root a ↔
    ((∃ n, root.descendant? a = some n ∧ s.Calls n callee) ∧ callee ≠ "") ∧
      ∃ p, p <+: a ∧ p ≠ a ∧ ∃ m, root.descendant? p = some m ∧ s.OpensUnit m caller ∧
        ∀ q m', q <+: a → p.length < q.length → root.descendant? q = some m' →
          ∀ name, ¬ s.OpensUnit m' name
  /-- An import means the dependency on its source, without the quotes. -/
  dependencies : ∀ a text, .dependency text ∈ s.scoping.meaningAt root a ↔
    ∃ n, root.descendant? a = some n ∧ Imports n text
  /-- Every call is made by a unit that is defined before it. -/
  callersKnown : History.CallersKnown (s.events root)

/-- **In the scoped reading a unit is the context of what lies inside it**, whatever is nested in
it and whatever follows it. -/
theorem reads_addresses (s : Script) (root : Node) : Reads { s with reading := .scoped } root := by
  have hscoped : ({ s with reading := .scoped } : Script).reading = .scoped := rfl
  generalize { s with reading := .scoped } = s at hscoped
  have hdescribes := describes_walk hscoped
  have hevents : ∀ latest, s.walk.events latest root = s.scoping.events root := fun latest =>
    hdescribes.events_eq latest root
  refine
    { follows := fun latest => ?_
      preorder := Node.map_descendant?_addresses root
      events := ?_
      forgets := fun latest => ?_
      single := fun a => length_meaningAt_le_one
      definitions := fun a name span => ?_
      context := fun a caller callee => ?_
      dependencies := fun a text => ?_
      callersKnown := ?_ }
  · rw [← readAddresses_scoping (s := s)]
    exact hdescribes.follows latest root
  · rw [events, hevents, Scoping.events, readAddresses_scoping]
  · rw [events, hevents, hevents]
  · rw [Scoping.mem_meaningAt_define]
    simp only [scoping, unitName?_eq_some_iff]
  · rw [Scoping.mem_meaningAt_call_iff, calleeAt?_eq_some_iff]
    simp only [unitAt?_nearest_iff]
  · rw [Scoping.mem_meaningAt_dependency]
    simp only [scoping, source?_eq_some_iff]
  · rw [events, hevents]
    exact Scoping.callersKnown_events root

end Script

end CodeSurvey
