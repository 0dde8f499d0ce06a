import CodeSurvey.Proofs.Analysis.FlatReading
import Mathlib.Data.List.Perm.Basic

/-!
# The two readings of a script compared

The scoped and the flat reading define the same units at different nodes: a function that a
variable is initialised with is defined at its declarator in one and at the statement around it in
the other.  They credit calls to different units.  When every declarator stands in a statement,
the reports of both readings list the same dependencies, functions and callers, and when no name
is declared twice, no callee of the scoped report is missing in the flat one.

* `Node.perm_flatMap_preorder` : the nodes of a tree are its root and the children of its nodes;
* `Script.perm_flatUnits` : both readings declare the same names;
* `Script.isSome_latestUnit?` : what lies in a unit has a unit declared before it;
* `Script.agrees_of_declaratorsStated` : the two reports.
-/

namespace CodeSurvey

namespace Node

variable {β : Type}

mutual

/-- What the nodes of a tree yield is what the root yields and what the children of all nodes
yield. -/
theorem perm_flatMap_preorder (f : Node → List β) : ∀ n : Node, (n.preorder.flatMap f).Perm
    (f n ++ n.preorder.flatMap fun m => m.children.flatMap f)
  | ⟨kind, named, field, startRow, endRow, text, children⟩ => by
    have hbelow := perm_flatMap_forestPreorder f children
    rw [preorder, List.flatMap_cons, List.flatMap_cons]
    exact hbelow.append_left _

theorem perm_flatMap_forestPreorder (f : Node → List β) : ∀ l : List Node,
    ((forestPreorder l).flatMap f).Perm
      (l.flatMap f ++ (forestPreorder l).flatMap fun m => m.children.flatMap f)
  | [] => by simp
  | n :: rest => by
    have hfirst := perm_flatMap_preorder f n
    have hrest := perm_flatMap_forestPreorder f rest
    rw [forestPreorder_cons, List.flatMap_append, List.flatMap_append, List.flatMap_cons]
    refine (hfirst.append hrest).trans ?_
    simp only [List.append_assoc]
    exact (List.perm_append_comm_assoc _ _ _).append_left _

end

end Node

namespace Script

variable {s : Script} {n root : Node} {a p : Address}

/-! ### The same units -/

/-- Every declarator of a tree is a named child of a statement that declares variables. -/
structure DeclaratorsStated (root : Node) : Prop where
  outermost : root.kind ≠ "variable_declarator"
  below : ∀ n ∈ root.preorder, ∀ c ∈ n.children, c.kind = "variable_declarator" →
    c.named = true ∧ n.kind ∈ variableKinds

/-- A statement declares all declarators below it. -/
theorem map_statedUnits (hroot : DeclaratorsStated root) (hn : n ∈ root.preorder) :
    (statedUnits n).map (·.1) = n.children.flatMap fun c => (declaratorUnit? c).toList := by
  rw [← List.filterMap_eq_flatMap_toList]
  by_cases hkind : n.kind ∈ variableKinds
  · rw [statedUnits, if_pos hkind, List.map_filterMap, Node.namedChildren, List.filterMap_filter]
    refine List.filterMap_congr fun c hc => ?_
    by_cases hdeclarator : c.kind = "variable_declarator"
    · rw [if_pos (hroot.below n hn c hc hdeclarator).1, Option.map_map]
      cases declaratorUnit? c <;> rfl
    · rw [declaratorUnit?_eq_none hdeclarator]
      split <;> rfl
  · rw [statedUnits_eq_nil hkind, List.map_nil]
    refine (List.filterMap_eq_nil_iff.2 fun c hc => ?_).symm
    exact declaratorUnit?_eq_none fun h => hkind (hroot.below n hn c hc h).2

/-- Both readings declare the same names. -/
theorem perm_flatUnits (hroot : DeclaratorsStated root) :
    (root.preorder.flatMap fun n => (s.flatUnits n).map (·.1)).Perm
      (root.preorder.filterMap s.unitName?) := by
  have hdeclarators : (root.preorder.flatMap fun n => (statedUnits n).map (·.1)).Perm
      (root.preorder.flatMap fun n => (declaratorUnit? n).toList) := by
    have hsum := Node.perm_flatMap_preorder (fun n => (declaratorUnit? n).toList) root
    rw [declaratorUnit?_eq_none hroot.outermost, Option.toList_none, List.nil_append] at hsum
    rw [List.flatMap_congr fun n hn => map_statedUnits hroot hn]
    exact hsum.symm
  have hunits : (fun n => (s.flatUnits n).map (·.1)) =
      fun n => (s.declarationName? n).toList ++ (statedUnits n).map (·.1) := by
    funext n
    rw [flatUnits, List.map_append]
    cases s.declarationName? n <;> rfl
  rw [hunits, List.filterMap_eq_flatMap_toList]
  simp only [toList_unitName?]
  -- the declarations apart from the declarators, which the statements list in another order
  refine (List.flatMap_append_perm ..).symm.trans ?_
  exact (hdeclarators.append_left _).trans (List.flatMap_append_perm ..)

/-- What lies in a unit has a unit declared before it: the unit itself, or those of the statement
that it is declared in. -/
theorem isSome_latestUnit?_of_isPrefix (hroot : DeclaratorsStated root) (hp : p <+: a)
    (hunit : (s.scoping.unitAt? root p).isSome) : (s.latestUnit? root a).isSome := by
  obtain ⟨name, hname⟩ := Option.isSome_iff_exists.1 hunit
  obtain ⟨n, hn, hopens⟩ := Option.bind_eq_some_iff.1 hname
  have hor : name ∈ (s.declarationName? n).toList ++ (declaratorUnit? n).toList := by
    rw [← toList_unitName?, Option.mem_toList]
    exact hopens
  rcases List.mem_append.1 hor with hdeclaration | hdeclarator
  · refine isSome_latestUnit? (p := p) ?_ (Address.le_of_isPrefix hp)
    rw [flatUnitsAt, hn]
    simp [flatUnits, Option.mem_toList.1 hdeclaration]
  · have hkind : n.kind = "variable_declarator" := by
      by_contra hno
      simp [declaratorUnit?_eq_none hno] at hdeclarator
    rcases List.eq_nil_or_concat p with rfl | ⟨q, i, rfl⟩
    · obtain rfl := Option.some.inj hn
      exact absurd hkind hroot.outermost
    · rw [List.concat_eq_append] at hp hn
      rw [Node.descendant?_append] at hn
      obtain ⟨m, hm, hc⟩ := Option.bind_eq_some_iff.1 hn
      have hchild : n ∈ m.children := by
        rw [Node.descendant?_cons] at hc
        obtain ⟨c, hi, hcn⟩ := Option.bind_eq_some_iff.1 hc
        obtain rfl := Option.some.inj hcn
        exact List.mem_of_getElem? hi
      obtain ⟨hnamed, hstatement⟩ :=
        hroot.below m (Node.mem_preorder.2 ⟨q, hm⟩) n hchild hkind
      have hstated : (name, n) ∈ statedUnits m := by
        rw [statedUnits, if_pos hstatement, List.mem_filterMap]
        refine ⟨n, List.mem_filter.2 ⟨hchild, hnamed⟩, ?_⟩
        rw [Option.mem_toList.1 hdeclarator]
        rfl
      refine isSome_latestUnit? (p := q) (fun hnil => ?_)
        (Address.le_of_isPrefix ((List.prefix_append q [i]).trans hp))
      rw [flatUnitsAt, hm] at hnil
      have hin : (name, n) ∈ s.flatUnits m := List.mem_append_right _ hstated
      simp [hnil] at hin

/-! ### The reports -/

theorem definedNames_events_flat (hs : s.reading = .flat) (root : Node) :
    History.definedNames (s.events root) =
      root.preorder.flatMap fun n => (s.flatUnits n).map (·.1) := by
  rw [events_flat hs, History.definedNames_flatMap, ← Node.flatMap_addresses]
  refine List.flatMap_congr fun a _ => ?_
  rw [definedNames_flatMeaningAt, flatUnitsAt]
  cases root.descendant? a <;> rfl

theorem definedNames_events_scoped (hs : s.reading = .scoped) (root : Node) :
    History.definedNames (s.events root) = root.preorder.filterMap s.unitName? := by
  rw [events, (describes_walk hs).events_eq, Scoping.definedNames_events, readAddresses_scoping]
  exact Node.filterMap_addresses s.unitName? root

/-- What a script depends on is the same in both readings. -/
theorem dependencyTexts_events (s : Script) (root : Node) :
    History.dependencyTexts (s.events root) =
      (root.addresses.filterMap (s.scoping.dependencyAt? root)).filter (· ≠ "") := by
  rcases hs : s.reading with _ | _
  · rw [events, (describes_walk hs).events_eq, Scoping.dependencyTexts_events,
      readAddresses_scoping]
  · rw [events_flat hs, History.dependencyTexts_flatMap, List.filterMap_eq_flatMap_toList,
      List.filter_flatMap]
    exact List.flatMap_congr fun a _ => dependencyTexts_flatMeaningAt root a

/-- A callee of the scoped reading is a callee of the flat one, for what caller so ever. -/
theorem exists_call_flat (hroot : DeclaratorsStated root) {caller callee : String}
    (hcall : .call caller callee ∈ { s with reading := .scoped }.events root) :
    ∃ latest, .call latest callee ∈ { s with reading := .flat }.events root := by
  have hscoped : ({ s with reading := .scoped } : Script).reading = .scoped := rfl
  rw [events, (describes_walk hscoped).events_eq, Scoping.events, readAddresses_scoping] at hcall
  obtain ⟨a, ha, hmeans⟩ := List.mem_flatMap.1 hcall
  obtain ⟨hcallee, p, hp, -, hunit, -⟩ := Scoping.mem_meaningAt_call_iff.1 hmeans
  have hlatest := isSome_latestUnit?_of_isPrefix (s := { s with reading := .flat }) hroot hp
    (Option.isSome_iff_exists.2 ⟨caller, hunit⟩)
  obtain ⟨latest, hlatest⟩ := Option.isSome_iff_exists.1 hlatest
  rw [events_flat rfl]
  exact ⟨latest, List.mem_flatMap.2 ⟨a, ha, mem_flatMeaningAt_call.2 ⟨hcallee, hlatest⟩⟩⟩

end Script

/-- The callee is named in the edges of some caller. -/
def FileReport.HasCallee (r : FileReport) (callee : String) : Prop :=
  ∃ caller edges, r.callsOf? caller = some edges ∧ callee ∈ edges.map (·.name)

namespace Script

/-- What the reports of the scoped and the flat reading of a tree have in common. -/
structure Agrees (s : Script) (root : Node) (nested flat : FileReport) : Prop where
  /-- The same dependencies in the same order. -/
  dependencies : flat.dependencies = nested.dependencies
  /-- The same functions, each as often, in whatever order. -/
  functions : flat.functions.Perm nested.functions
  /-- The same callers. -/
  callers : ∀ caller, caller ∈ flat.calls.map (·.1) ↔ caller ∈ nested.calls.map (·.1)
  /-- When no two nodes are units of one name, no callee of the scoped reading is missing. -/
  callees : (root.preorder.filterMap s.unitName?).Nodup →
    ∀ callee, nested.HasCallee callee → flat.HasCallee callee

/-- **The flat reading may credit a call to another unit but never loses it.** -/
theorem agrees_of_declaratorsStated (s : Script) (file : String) {root : Node}
    (hroot : DeclaratorsStated root) : s.Agrees root
      (FileReport.ofEvents file ({ s with reading := .scoped }.events root))
      (FileReport.ofEvents file ({ s with reading := .flat }.events root)) := by
  have hscoped := definedNames_events_scoped (s := { s with reading := .scoped }) rfl root
  have hflat := definedNames_events_flat (s := { s with reading := .flat }) rfl root
  have hperm : (History.definedNames ({ s with reading := .flat }.events root)).Perm
      (History.definedNames ({ s with reading := .scoped }.events root)) := by
    rw [hflat, hscoped]
    exact perm_flatUnits hroot
  refine ⟨?_, ?_, fun caller => ?_, fun hnodup callee => ?_⟩
  · simp only [FileReport.ofEvents, Builder.dependencies_run, dependencyTexts_events]
    rfl
  · simpa only [FileReport.ofEvents, Builder.functions_run] using hperm
  · simp only [FileReport.ofEvents, Builder.keys_run, List.mem_eraseDups]
    exact hperm.mem_iff
  · rintro ⟨caller, edges, hedges, hcallee⟩
    obtain ⟨latest, hcall⟩ := exists_call_flat hroot (Builder.mem_of_callsOf?_run hedges hcallee)
    have hnames : (History.definedNames ({ s with reading := .flat }.events root)).Nodup := by
      rw [hperm.nodup_iff, hscoped]
      exact hnodup
    obtain ⟨edges, hedges, hcallee⟩ :=
      Builder.exists_callsOf?_run_of_nodup (callersKnown_flat rfl root) hnames hcall file
    exact ⟨latest, edges, hedges, hcallee⟩

/-- Two functions that one statement declares, each with a call. -/
def paired : Node :=
  let declarator (name callee : String) : Node :=
    { kind := "variable_declarator"
      children :=
        [{ kind := "identifier", field := some "name", text := name },
         { kind := "arrow_function", field := some "value"
           children :=
            [{ kind := "call_expression"
               children :=
                [{ kind := "identifier", field := some "function", text := callee }] }] }] }
  { kind := "program"
    children :=
      [{ kind := "lexical_declaration", children := [declarator "a" "x", declarator "b" "y"] }] }

theorem declaratorsStated_paired : DeclaratorsStated paired := by
  constructor <;> decide

-- the scoped reading credits `x` to `a` and the flat one to `b`
theorem agrees_paired : DeclaratorsStated paired ∧
    (paired.preorder.filterMap ({} : Script).unitName?).Nodup ∧
    ({} : Script).Agrees paired
      (FileReport.ofEvents "d.js" ({ reading := .scoped : Script }.events paired))
      (FileReport.ofEvents "d.js" ({ reading := .flat : Script }.events paired)) ∧
    ∀ callee, (FileReport.ofEvents "d.js"
        ({ reading := .scoped : Script }.events paired)).HasCallee callee →
      (FileReport.ofEvents "d.js"
        ({ reading := .flat : Script }.events paired)).HasCallee callee := by
  have hnodup : (paired.preorder.filterMap ({} : Script).unitName?).Nodup := by decide
  have hagrees := agrees_of_declaratorsStated {} "d.js" declaratorsStated_paired
  exact ⟨declaratorsStated_paired, hnodup, hagrees, hagrees.callees hnodup⟩

end Script

end CodeSurvey
