import CodeSurvey.Proofs.Analysis.LatestDefinition

/-!
# The call graph and the order of declarations

A tree is rearranged by permuting the children of nodes that mean nothing to an analysis and lie
in no node that does.  Then whole declarations change places, and a call that was located at an
earlier definition may come to stand before it.  So lines may get lost or be found, and edges that
differ in their lines only may become one or several.  The names stay:

* `Scoping.perm_events` : the events of a rearranged tree are those of the tree in another order;
* `Builder.calls_run_iff` : when no name is defined twice, a caller has an edge to whom it is found
  to call, wherever the call stands;
* `Analysis.sameGraph_of_rearranged` : **the reports have the same functions, dependencies, callers
  and callees**, in whatever order.
-/

namespace CodeSurvey

/-! ### Rearranged trees -/

namespace Node

/-- The second tree is the first with the children of neutral nodes permuted, where no node is
touched that lies below another than neutral ones. -/
inductive Rearranged (neutral : Node → Prop) : Node → Node → Prop
  | refl (n : Node) : Rearranged neutral n n
  | here {n : Node} {children : List Node} (hn : neutral n) (h : n.children.Perm children) :
      Rearranged neutral n { n with children }
  | inside {n c c' : Node} {before after : List Node} (hn : neutral n)
      (hchildren : n.children = before ++ c :: after) (h : Rearranged neutral c c') :
      Rearranged neutral n { n with children := before ++ c' :: after }
  | trans {n m k : Node} (h : Rearranged neutral n m) (h' : Rearranged neutral m k) :
      Rearranged neutral n k

/-- A rearranged tree keeps its role in the tree around it. -/
theorem Rearranged.field_eq {neutral : Node → Prop} {n n' : Node}
    (h : Rearranged neutral n n') : n'.field = n.field := by
  induction h with
  | refl | here | inside => rfl
  | trans _ _ ih ih' => rw [ih', ih]

end Node

/-! ### Events of a rearranged tree -/

namespace Scoping

variable {σ : Scoping} {neutral : Node → Prop} {n root root' : Node}

variable (σ) in
/-- The node means nothing and nothing below it is passed over. -/
structure Inert (n : Node) : Prop where
  opens : σ.opens? n = none
  callee : σ.callee? n = none
  dependency : σ.dependency? n = none
  reads : ∀ i, σ.reads n i = true

theorem Inert.events_eq (h : σ.Inert n) : σ.events n = n.children.flatMap σ.events := by
  have hmeaning : σ.meaning n none = [] := by
    simp [meaning, h.opens, h.callee, h.dependency]
  have hbelow : σ.below n = n.children := by
    simp [below, h.reads, List.zipIdx_map_fst]
  rw [← eventsIn_none, eventsIn_eq, h.opens, Option.or_none, hmeaning, hbelow, List.nil_append]
  simp only [eventsIn_none]

variable (σ) in
/-- Neutral nodes are inert, and stay so with other children in the same roles. -/
def InertIf (neutral : Node → Prop) : Prop := ∀ n children, neutral n →
  (∀ c ∈ children, ∃ d ∈ n.children, c.field = d.field) → σ.Inert { n with children }

theorem InertIf.inert (h : σ.InertIf neutral) (hn : neutral n) : σ.Inert n := by
  have hsame := h n n.children hn fun c hc => ⟨c, hc, rfl⟩
  cases n
  exact hsame

/-- **A rearranged tree has the same events in another order.** -/
theorem perm_events (hneutral : σ.InertIf neutral) (h : Node.Rearranged neutral root root') :
    (σ.events root).Perm (σ.events root') := by
  induction h with
  | refl n => exact .refl _
  | @here n children hn hperm =>
    have hinert' : σ.Inert { n with children } :=
      hneutral n children hn fun c hc => ⟨c, hperm.mem_iff.2 hc, rfl⟩
    rw [(hneutral.inert hn).events_eq, hinert'.events_eq]
    exact hperm.flatMap_right σ.events
  | @inside n c c' before after hn hchildren hc ih =>
    have hinert' : σ.Inert { n with children := before ++ c' :: after } := by
      refine hneutral n _ hn fun d hd => ?_
      rw [hchildren]
      -- the rearranged child has the role of the child that it stands for
      rcases List.mem_append.1 hd with hd | hd
      · exact ⟨d, List.mem_append_left _ hd, rfl⟩
      · rcases List.mem_cons.1 hd with rfl | hd
        · exact ⟨c, by simp, hc.field_eq⟩
        · exact ⟨d, by simp [hd], rfl⟩
    rw [(hneutral.inert hn).events_eq, hinert'.events_eq, hchildren]
    simp only [List.flatMap_append, List.flatMap_cons]
    exact (ih.append_right _).append_left _
  | trans _ _ ih ih' => exact ih.trans ih'

/-- What is read in a tree declares no name twice if the tree does not. -/
theorem nodup_definedNames_events (h : (root.preorder.filterMap σ.opens?).Nodup) :
    (History.definedNames (σ.events root)).Nodup := by
  rw [definedNames_events]
  have hsub : ((σ.readAddresses root).filterMap (σ.unitAt? root)).Sublist
      (root.addresses.filterMap (σ.unitAt? root)) := List.filter_sublist.filterMap _
  refine hsub.nodup ?_
  rw [← Node.filterMap_addresses] at h
  exact h

end Scoping

/-! ### Reports of the same events in another order -/

/-- The caller has an edge to the callee, located wherever. -/
def FileReport.Calls (r : FileReport) (caller callee : String) : Prop :=
  ∃ edges, r.callsOf? caller = some edges ∧ callee ∈ edges.map (·.name)

/-- The reports name the same functions, dependencies, callers and callees. -/
structure FileReport.SameGraph (r r' : FileReport) : Prop where
  functions : r'.functions.Perm r.functions
  dependencies : r'.dependencies.Perm r.dependencies
  callers : (r'.calls.map (·.1)).Perm (r.calls.map (·.1))
  callees : ∀ caller callee, r'.Calls caller callee ↔ r.Calls caller callee

/-- Without repetition, the order of a list shows in the order of its elements only. -/
theorem perm_eraseDups {α : Type} [BEq α] [LawfulBEq α] {l l' : List α} (h : l.Perm l') :
    l.eraseDups.Perm l'.eraseDups := by
  rw [List.perm_ext_iff_of_nodup (nodup_eraseDups l) (nodup_eraseDups l')]
  intro x
  rw [List.mem_eraseDups, List.mem_eraseDups]
  exact h.mem_iff

namespace Builder

variable {h h' : History}

/-- When no name is defined twice, no call of a known caller gets lost, and none is added. -/
theorem calls_run_iff (hknown : h.CallersKnown) (hnodup : (History.definedNames h).Nodup)
    (file caller callee : String) :
    (run { file } h).report.Calls caller callee ↔ .call caller callee ∈ h := by
  constructor
  · rintro ⟨edges, hedges, hcallee⟩
    exact mem_of_callsOf?_run hedges hcallee
  · intro hcall
    exact exists_callsOf?_run_of_nodup hknown hnodup hcall file

theorem sameGraph_run (hperm : h.Perm h') (hknown : h.CallersKnown) (hknown' : h'.CallersKnown)
    (hnodup : (History.definedNames h).Nodup) (file : String) :
    FileReport.SameGraph (run { file } h).report (run { file } h').report := by
  have hnames : (History.definedNames h).Perm (History.definedNames h') := hperm.filterMap _
  have htexts : (History.dependencyTexts h).Perm (History.dependencyTexts h') :=
    (hperm.filterMap _).filter _
  refine ⟨?_, ?_, ?_, fun caller callee => ?_⟩
  · rw [functions_run, functions_run]
    exact hnames.symm
  · rw [dependencies_run, dependencies_run]
    exact perm_eraseDups htexts.symm
  · rw [keys_run, keys_run]
    exact perm_eraseDups hnames.symm
  · rw [calls_run_iff hknown hnodup, calls_run_iff hknown' (hnames.nodup_iff.1 hnodup)]
    exact hperm.mem_iff.symm

end Builder

/-! ### The analyses -/

namespace Analysis

/-- The node is no function, call or dependency to the analysis, nor a part of a script that might
be one. -/
def IsNeutral : Analysis → Node → Prop
  | table language, n => language.roleOf? n.kind = none
  | script settings, n => settings.unitName? n = none ∧
      n.kind ∉ ["variable_declarator", "call_expression", "await_expression", "import_statement"]

instance (α : Analysis) (n : Node) : Decidable (α.IsNeutral n) := by
  cases α <;> unfold IsNeutral <;> infer_instance

theorem inertIf_table (language : Language) :
    language.scoping.InertIf (table language).IsNeutral := by
  intro n children hn _
  have hrole : language.roleOf? n.kind = none := hn
  have hopens : language.opens? { n with children } = none := by
    simp only [Language.opens?, hrole]
  exact
    { opens := hopens
      callee := by simp only [Language.scoping, hrole]
      dependency := by simp only [Language.scoping, hrole]
      reads := by simp [Language.scoping, hopens] }

/-- A script's declaration without a name has none with its children in another order. -/
theorem unitName?_of_fields {s : Script} {n : Node} {children : List Node}
    (hunit : s.unitName? n = none) (hkind : n.kind ≠ "variable_declarator")
    (hfields : ∀ c ∈ children, ∃ d ∈ n.children, c.field = d.field) :
    s.unitName? { n with children } = none := by
  rw [Script.unitName?] at hunit ⊢
  split at hunit
  · next hdeclaration =>
    rw [if_pos hdeclaration]
    rw [Option.map_eq_none_iff, Node.childByField?, List.find?_eq_none] at hunit ⊢
    intro c hc
    obtain ⟨d, hd, hfield⟩ := hfields c hc
    rw [hfield]
    exact hunit d hd
  · next hother =>
    rw [if_neg hother, Script.declaratorUnit?, if_neg hkind]

theorem inertIf_script (settings : Script) :
    settings.scoping.InertIf (script settings).IsNeutral := by
  rintro n children ⟨hunit, hkind⟩ hfields
  simp only [List.mem_cons, List.not_mem_nil, or_false, not_or] at hkind
  obtain ⟨hdeclarator, hcall, hawait, himport⟩ := hkind
  have hcallee : settings.callee? { n with children } = none := by
    rw [Script.callee?, if_neg hcall, if_neg fun h => hawait h.2]
  exact
    { opens := unitName?_of_fields hunit hdeclarator hfields
      callee := by simp only [Script.scoping, hcallee, Option.filter_none]
      dependency := if_neg himport
      reads := fun _ => rfl }

theorem inertIf_isNeutral (α : Analysis) : α.scoping.InertIf α.IsNeutral := by
  cases α with
  | table language => exact inertIf_table language
  | script settings => exact inertIf_script settings

/-- **The names in a report do not depend on the order of declarations.**  When no name is declared
twice, a rearranged tree has the same functions, dependencies, callers and callees. -/
theorem sameGraph_of_rearranged (α : Analysis) (file : String) {root root' : Node}
    (hnames : (root.preorder.filterMap α.scoping.opens?).Nodup)
    (h : Node.Rearranged α.IsNeutral root root') :
    FileReport.SameGraph (FileReport.ofEvents file (α.events root))
      (FileReport.ofEvents file (α.events root')) := by
  have hperm : (α.scoping.events root).Perm (α.scoping.events root') :=
    Scoping.perm_events α.inertIf_isNeutral h
  rw [events_eq, events_eq]
  exact Builder.sameGraph_run hperm (Scoping.callersKnown_events root)
    (Scoping.callersKnown_events root') (Scoping.nodup_definedNames_events hnames) file

/-- The definition of a function that calls the names. -/
def function (name : String) (startRow endRow : Nat) (callees : List String) : Node where
  kind := "function_definition"
  startRow := startRow
  endRow := endRow
  children :=
    [{ kind := "identifier", field := some "name", text := name },
     { kind := "block", field := some "body"
       children := callees.map fun callee =>
        { kind := "call", children := [{ kind := "identifier", text := callee }] } }]

/-- A class with the given methods. -/
def classOf (methods : List Node) : Node where
  kind := "class_definition"
  children := [{ kind := "block", field := some "body", children := methods }]

/-- A function that calls a method of the class behind it. -/
def callBefore : Node where
  kind := "module"
  children :=
    [function "f" 0 1 ["g", "print"], classOf [function "g" 3 4 [], function "h" 5 6 ["g"]]]

/-- The same with the class in front of the function and its methods the other way round. -/
def callBehind : Node where
  kind := "module"
  children :=
    [classOf [function "h" 5 6 ["g"], function "g" 3 4 []], function "f" 0 1 ["g", "print"]]

theorem rearranged_callBehind :
    Node.Rearranged (table .python).IsNeutral callBefore callBehind := by
  have hmethods : Node.Rearranged (table .python).IsNeutral
      (classOf [function "g" 3 4 [], function "h" 5 6 ["g"]])
      (classOf [function "h" 5 6 ["g"], function "g" 3 4 []]) :=
    @Node.Rearranged.inside _ _ _ _ [] [] (by decide) rfl (.here (by decide) (.swap _ _ _))
  have hclass := @Node.Rearranged.inside _ callBefore _ _ [function "f" 0 1 ["g", "print"]] []
    (by decide) rfl hmethods
  exact hclass.trans (.here (by decide) (.swap _ _ _))

-- the calls of `g` by `f` and by `h` change places: one finds its line and the other loses it
theorem sameGraph_callBehind :
    (callBefore.preorder.filterMap (table .python).scoping.opens?).Nodup ∧
    Node.Rearranged (table .python).IsNeutral callBefore callBehind ∧
    FileReport.SameGraph (FileReport.ofEvents "a.py" ((table .python).events callBefore))
      (FileReport.ofEvents "a.py" ((table .python).events callBehind)) ∧
    (FileReport.ofEvents "a.py" ((table .python).events callBefore)).calls =
      [("f", [⟨"g", { file := "a.py" }⟩, ⟨"print", { file := "a.py" }⟩]), ("g", []),
        ("h", [⟨"g", ⟨"a.py", some 4, some 5⟩⟩])] ∧
    (FileReport.ofEvents "a.py" ((table .python).events callBehind)).calls =
      [("h", [⟨"g", { file := "a.py" }⟩]), ("g", []),
        ("f", [⟨"g", ⟨"a.py", some 4, some 5⟩⟩, ⟨"print", { file := "a.py" }⟩])] := by
  have hnames : (callBefore.preorder.filterMap (table .python).scoping.opens?).Nodup := by decide
  refine ⟨hnames, rearranged_callBehind,
    sameGraph_of_rearranged (table .python) "a.py" hnames rearranged_callBehind, ?_, ?_⟩
  · rw [events_eq]
    decide
  · rw [events_eq]
    decide

end Analysis

end CodeSurvey
