import CodeSurvey.Analyzer
import CodeSurvey.Proofs.Analysis.Script

/-!
# Calls that are awaited

A script analysis that unwraps awaited calls meets each of them twice: at the `await` and at the
call itself.  The second time is lost on the report: between the two stand tokens only, so the call
comes right behind itself, is located at the same definition and is covered by itself.

* `Builder.call_call` : a call made twice in a row is made once;
* `Script.repeats_eventsFrom` : the invariant of both walks, in whatever reading: with the
  unwrapping they find the same events, some calls twice in a row;
* `Script.sameReport_of_tokensAreLeaves` : **unwrapping changes no report**, and where no class has
  a name, scripts with and without markup are analysed alike.
-/

namespace CodeSurvey

/-! ### Calls that are made twice -/

theorem EdgeKey.coveredBy_self (k : EdgeKey) : k.coveredBy k = true := by simp [coveredBy]

namespace Builder

/-- An edge that has just been added covers the same call. -/
theorem accepts_call_self (b : Builder) (caller callee : String) :
    (b.call caller callee).accepts caller callee = false := by
  cases hedges : b.report.callsOf? caller with
  | none => simp [call, accepts, hedges]
  | some edges =>
    have hedges' := callsOf?_call_self hedges callee
    have hedge : (b.call caller callee).edgeTo callee = b.edgeTo callee := by
      rw [edgeTo, edgeTo, resolve_call]
    rw [accepts, hedges', hedge]
    cases haccepts : b.accepts caller callee with
    | true => simp [EdgeKey.coveredBy_self]
    | false => simpa [accepts, hedges] using haccepts

/-- **A call made twice in a row is made once.** -/
theorem call_call (b : Builder) (caller callee : String) :
    (b.call caller callee).call caller callee = b.call caller callee := by
  rw [call, accepts_call_self]
  rfl

end Builder

/-- The first history is the second with some calls made twice in a row. -/
inductive History.Repeats : History → History → Prop
  | nil : Repeats [] []
  | cons (e : Event) {h k : History} (hk : Repeats h k) : Repeats (e :: h) (e :: k)
  | twice (caller callee : String) {h k : History} (hk : Repeats h k) :
      Repeats (.call caller callee :: .call caller callee :: h) (.call caller callee :: k)

namespace History.Repeats

variable {h k : History}

theorem append_left (events : List Event) (hk : Repeats h k) :
    Repeats (events ++ h) (events ++ k) := by
  induction events with
  | nil => exact hk
  | cons e events ih => exact .cons e ih

theorem run_eq (hk : Repeats h k) (b : Builder) : b.run h = b.run k := by
  induction hk generalizing b with
  | nil => rfl
  | cons e hk ih => exact ih (b.apply e)
  | twice caller callee hk ih =>
    have htwice (rest : History) : b.run (.call caller callee :: .call caller callee :: rest) =
        ((b.call caller callee).call caller callee).run rest := rfl
    rw [htwice, Builder.call_call]
    exact ih (b.call caller callee)

end History.Repeats

/-! ### The two visits of an awaited call -/

namespace Node

/-- The node is named or has no children. -/
def TokenIsLeaf (n : Node) : Prop := n.named = false → n.children = []

/-- All nodes of the tree that are not named are leaves. -/
def TokensAreLeaves (root : Node) : Prop := ∀ n ∈ root.preorder, n.TokenIsLeaf

instance (n : Node) : Decidable n.TokenIsLeaf := by unfold TokenIsLeaf; infer_instance

instance (root : Node) : Decidable root.TokensAreLeaves := by
  unfold TokensAreLeaves; infer_instance

end Node

namespace Script

variable {s s' : Script} {n inner : Node} {latest around : Option String}
  {rest : List (Node × Option String)}

/-- The call that is awaited at a node. -/
def awaited? (n : Node) : Option Node :=
  if n.kind = "await_expression" then n.namedChildren.head?.filter (·.kind = "call_expression")
  else none

theorem awaited?_eq_some_iff : awaited? n = some inner ↔ n.kind = "await_expression" ∧
    inner.kind = "call_expression" ∧ ∃ tokens more, n.children = tokens ++ inner :: more ∧
      inner.named = true ∧ ∀ t ∈ tokens, t.named = false := by
  rw [awaited?]
  split
  · next hkind =>
    rw [Node.namedChildren, List.head?_filter, Option.filter_eq_some_iff,
      List.find?_eq_some_iff_append]
    constructor
    · rintro ⟨⟨hnamed, tokens, more, hchildren, htokens⟩, hinner⟩
      exact ⟨hkind, by simpa using hinner, tokens, more, hchildren, hnamed, by simpa using htokens⟩
    · rintro ⟨-, hinner, tokens, more, hchildren, hnamed, htokens⟩
      exact ⟨⟨hnamed, tokens, more, hchildren, by simpa using htokens⟩, by simpa using hinner⟩
  · next hkind => simp [hkind]

/-! ### Nodes that declare nothing -/

theorem childByField?_of_leaf (h : n.children = []) (field : String) :
    n.childByField? field = none := by rw [Node.childByField?, h, List.find?_nil]

theorem units_of_leaf (h : n.children = []) : s.units n = [] := by
  rw [units, declaratorUnit?, Node.namedChildren, h, childByField?_of_leaf h]
  cases s.reading <;> simp

theorem callee?_of_leaf (h : n.children = []) : s.callee? n = none := by
  simp [callee?, callTarget?, Node.namedChildren, childByField?_of_leaf h, h]

theorem callEvents_of_callee?_eq_none (h : s.callee? n = none) (unit : Option String) :
    s.callEvents unit n = [] := by
  cases unit <;> simp [callEvents, h]

theorem dependencyEvents_of_leaf (h : n.children = []) : dependencyEvents n = [] := by
  simp [dependencyEvents, childByField?_of_leaf h]

theorem units_of_kind (h : n.kind = "call_expression" ∨ n.kind = "await_expression") :
    s.units n = [] := by
  rw [units, declaratorUnit?]
  rcases h with h | h <;> cases s.reading <;>
    simp [h, functionKinds, classKinds, variableKinds]

theorem dependencyEvents_of_kind (h : n.kind = "call_expression" ∨ n.kind = "await_expression") :
    dependencyEvents n = [] := by
  rw [dependencyEvents]
  rcases h with h | h <;> simp [h]

/-- What the walk finds from the first pending node on. -/
theorem eventsFrom_cons (s : Script) (latest : Option String) (n : Node)
    (around : Option String) (rest : List (Node × Option String)) :
    s.walk.eventsFrom latest ((n, around) :: rest) =
      (s.eventsAt n (s.unitBefore latest around)).1 ++
        s.walk.eventsFrom (unitAt (s.units n) latest)
          (n.children.map (·, unitAt (s.units n) (s.unitBefore latest around)) ++ rest) :=
  s.walk.eventsFrom_cons latest n around rest

/-- A node that declares nothing hands both contexts on. -/
theorem eventsFrom_cons_of_call (h : n.kind = "call_expression" ∨ n.kind = "await_expression") :
    s.walk.eventsFrom latest ((n, around) :: rest) =
      s.callEvents (s.unitBefore latest around) n ++
        s.walk.eventsFrom latest (n.children.map (·, s.unitBefore latest around) ++ rest) := by
  rw [eventsFrom_cons, eventsAt, units_of_kind h, dependencyEvents_of_kind h]
  simp [defineEvents, unitAt]

/-- Tokens are passed over. -/
theorem eventsFrom_tokens {tokens : List Node} (htokens : ∀ t ∈ tokens, t.children = []) :
    s.walk.eventsFrom latest (tokens.map (·, around) ++ rest) = s.walk.eventsFrom latest rest := by
  induction tokens with
  | nil => rfl
  | cons t tokens ih =>
    obtain ⟨ht, htokens⟩ := List.forall_mem_cons.1 htokens
    rw [List.map_cons, List.cons_append, eventsFrom_cons, eventsAt, units_of_leaf ht,
      callEvents_of_callee?_eq_none (callee?_of_leaf ht), dependencyEvents_of_leaf ht, ht]
    exact ih htokens

theorem unitBefore_unitBefore (s : Script) (latest around : Option String) :
    s.unitBefore latest (s.unitBefore latest around) = s.unitBefore latest around := by
  rw [unitBefore, unitBefore]
  cases s.reading <;> rfl

/-- Between an `await` and its call there are tokens only, so the call comes next. -/
theorem eventsFrom_await {tokens more : List Node} (hkind : n.kind = "await_expression")
    (hinner : inner.kind = "call_expression") (hchildren : n.children = tokens ++ inner :: more)
    (htokens : ∀ t ∈ tokens, t.children = []) {unit : Option String}
    (hunit : s.unitBefore latest around = unit) :
    s.walk.eventsFrom latest ((n, around) :: rest) =
      s.callEvents unit n ++ (s.callEvents unit inner ++
        s.walk.eventsFrom latest
          (inner.children.map (·, unit) ++ (more.map (·, unit) ++ rest))) := by
  subst hunit
  rw [eventsFrom_cons_of_call (.inr hkind), hchildren, List.map_append, List.append_assoc,
    eventsFrom_tokens htokens, List.map_cons, List.cons_append,
    eventsFrom_cons_of_call (.inl hinner), unitBefore_unitBefore]

/-! ### With and without the unwrapping -/

theorem callEvents_congr {m : Node} (h : s.callee? n = s'.callee? m) (unit : Option String) :
    s.callEvents unit n = s'.callEvents unit m := by
  unfold callEvents
  rw [h]

/-- A call is credited once or not at all. -/
theorem callEvents_cases (s : Script) (unit : Option String) (n : Node) :
    s.callEvents unit n = [] ∨ ∃ caller callee, s.callEvents unit n = [.call caller callee] := by
  unfold callEvents
  split
  · split
    · exact .inl rfl
    · exact .inr ⟨_, _, rfl⟩
  · exact .inl rfl

/-- Whom a call expression calls, and nothing for other nodes. -/
def directCallee? (n : Node) : Option String :=
  if n.kind = "call_expression" then callTarget? n else none

theorem callee?_of_not_unwrapAwait (hs : s.unwrapAwait = false) (n : Node) :
    s.callee? n = directCallee? n := by simp [callee?, directCallee?, hs]

theorem callee?_of_unwrapAwait (hs : s.unwrapAwait = true) (n : Node) :
    s.callee? n = (directCallee? n).or ((awaited? n).bind directCallee?) := by
  rw [callee?, directCallee?, awaited?]
  by_cases hcall : n.kind = "call_expression"
  · rw [if_pos hcall, if_pos hcall, if_neg (by rw [hcall]; decide), Option.bind_none,
      Option.or_none]
  · rw [if_neg hcall, if_neg hcall, Option.none_or]
    by_cases hawait : n.kind = "await_expression"
    · rw [if_pos ⟨hs, hawait⟩, if_pos hawait]
      rcases n.namedChildren with _ | ⟨inner, more⟩
      · rfl
      · by_cases hinner : inner.kind = "call_expression" <;>
          simp [Option.filter_some, directCallee?, hinner]
    · rw [if_neg fun h => hawait h.2, if_neg hawait, Option.bind_none]

/-- With the unwrapping an `await` calls what its call calls, and without it nothing. -/
theorem callee?_of_awaited (hs : s.unwrapAwait = true) (hs' : s'.unwrapAwait = false)
    (h : awaited? n = some inner) : s.callee? n = s.callee? inner ∧
      s'.callee? inner = s.callee? inner ∧ s'.callee? n = none := by
  obtain ⟨hkind, hinner, -⟩ := awaited?_eq_some_iff.1 h
  have hnone : directCallee? n = none := if_neg (by rw [hkind]; decide)
  have hdirect : awaited? inner = none := if_neg (by rw [hinner]; decide)
  simp [callee?_of_unwrapAwait hs, callee?_of_not_unwrapAwait hs', h, hdirect, hnone]

theorem mem_forestPreorder_pending {m : Node} {nodes : List Node} {unit : Option String} :
    m ∈ Node.forestPreorder ((nodes.map (·, unit) ++ rest).map (·.1)) ↔
      m ∈ Node.forestPreorder nodes ∨ m ∈ Node.forestPreorder (rest.map (·.1)) := by
  simp [Node.forestPreorder_append, Function.comp_def]

theorem pendingSize_pending (nodes : List Node) (unit : Option String)
    (rest : List (Node × Option String)) :
    Walk.pendingSize (nodes.map (·, unit) ++ rest) =
      Node.forestSize nodes + Walk.pendingSize rest := by
  rw [Walk.pendingSize_append]
  exact congrArg (· + _) (Walk.pendingSize_pending ⟨[], nodes, unit⟩)

/-- **The invariant of the two walks.**  Where both know the same units, the one that unwraps
awaited calls finds what the other one finds, with some calls twice in a row. -/
theorem repeats_eventsFrom (hs : s.unwrapAwait = true) (hs' : s'.unwrapAwait = false)
    (hreading : s.reading = s'.reading) :
    ∀ (pending : List (Node × Option String)) (latest : Option String),
      (∀ n ∈ Node.forestPreorder (pending.map (·.1)), n.TokenIsLeaf ∧ s.units n = s'.units n) →
        History.Repeats (s.walk.eventsFrom latest pending) (s'.walk.eventsFrom latest pending)
  | [], latest, _ => by
    rw [Walk.eventsFrom_nil, Walk.eventsFrom_nil]
    exact .nil
  | (n, around) :: rest, latest, h => by
    have hbefore : s'.unitBefore latest around = s.unitBefore latest around := by
      rw [unitBefore, unitBefore, hreading]
    have hbelow : ∀ m ∈ Node.forestPreorder n.children, m.TokenIsLeaf ∧ s.units m = s'.units m :=
      fun m hm => h m (by simp [Node.preorder_eq, hm])
    have hrest : ∀ m ∈ Node.forestPreorder (rest.map (·.1)),
        m.TokenIsLeaf ∧ s.units m = s'.units m := fun m hm => h m (by simp [hm])
    cases hawaited : awaited? n with
    | none =>
      have hunits : s.units n = s'.units n := (h n (by simp [Node.preorder_eq])).2
      have hcallee : s.callee? n = s'.callee? n := by
        rw [callee?_of_unwrapAwait hs, callee?_of_not_unwrapAwait hs', hawaited, Option.bind_none,
          Option.or_none]
      have hevents : (s.eventsAt n (s.unitBefore latest around)).1 =
          (s'.eventsAt n (s.unitBefore latest around)).1 := by
        rw [eventsAt, eventsAt, hunits, callEvents_congr hcallee]
      rw [eventsFrom_cons, eventsFrom_cons, hbefore, hunits, hevents]
      refine (repeats_eventsFrom hs hs' hreading _ _ fun m hm => ?_).append_left _
      exact (mem_forestPreorder_pending.1 hm).elim (hbelow m) (hrest m)
    | some inner =>
      obtain ⟨hkind, hinner, tokens, more, hchildren, -, htokens⟩ := awaited?_eq_some_iff.1 hawaited
      rw [hchildren, Node.forestPreorder_append, Node.forestPreorder_cons] at hbelow
      have hleaves : ∀ t ∈ tokens, t.children = [] := fun t ht => by
        refine (hbelow t (List.mem_append_left _ ?_)).1 (htokens t ht)
        rw [Node.forestPreorder_eq_flatMap, List.mem_flatMap]
        exact ⟨t, ht, by simp [Node.preorder_eq]⟩
      generalize hunit : s.unitBefore latest around = unit at hbefore
      obtain ⟨hawait, hcall, hnone⟩ := callee?_of_awaited hs hs' hawaited
      rw [eventsFrom_await hkind hinner hchildren hleaves hunit,
        eventsFrom_await hkind hinner hchildren hleaves hbefore, callEvents_congr hawait,
        callEvents_congr hcall, callEvents_of_callee?_eq_none hnone, List.nil_append]
      have ih := repeats_eventsFrom hs hs' hreading
        (inner.children.map (·, unit) ++ (more.map (·, unit) ++ rest)) latest fun m hm => by
          rw [mem_forestPreorder_pending, mem_forestPreorder_pending] at hm
          rcases hm with hm | hm | hm
          · exact hbelow m (by simp [Node.preorder_eq, hm])
          · exact hbelow m (by simp [hm])
          · exact hrest m hm
      rcases s.callEvents_cases unit inner with hcall | ⟨caller, callee, hcall⟩ <;> rw [hcall]
      · exact ih
      · exact ih.twice caller callee
termination_by pending => Walk.pendingSize pending
decreasing_by
  · rw [pendingSize_pending, Walk.pendingSize, Node.size_eq]
    omega
  · rw [pendingSize_pending, pendingSize_pending, Walk.pendingSize, Node.size_eq n, hchildren,
      Node.forestSize_append, Node.forestSize_cons, Node.size_eq inner]
    omega

/-! ### The reports -/

/-- Two scripts that differ in the unwrapping find the same report of a tree in which they know the
same units. -/
theorem ofEvents_eq_of_units_eq (s s' : Script) {root : Node} (hs : s.unwrapAwait = true)
    (hs' : s'.unwrapAwait = false) (hreading : s.reading = s'.reading)
    (hroot : root.TokensAreLeaves) (hunits : ∀ n ∈ root.preorder, s.units n = s'.units n)
    (file : String) :
    FileReport.ofEvents file (s.events root) = FileReport.ofEvents file (s'.events root) := by
  have hrepeats : History.Repeats (s.events root) (s'.events root) := by
    refine repeats_eventsFrom hs hs' hreading [(root, none)] none fun n hn => ?_
    have hin : n ∈ root.preorder := by simpa using hn
    exact ⟨hroot n hin, hunits n hin⟩
  rw [FileReport.ofEvents, FileReport.ofEvents, hrepeats.run_eq]

/-- The node declares a class that has a name. -/
def NamesClass (n : Node) : Prop := n.kind ∈ classKinds ∧ (n.childByField? "name").isSome

instance (n : Node) : Decidable (NamesClass n) := by unfold NamesClass; infer_instance

/-- Whether classes count shows at classes with a name only. -/
theorem units_classesAsUnits (s : Script) (h : ¬NamesClass n) :
    { s with classesAsUnits := true }.units n = { s with classesAsUnits := false }.units n := by
  by_cases hclass : n.kind ∈ classKinds
  · have hname : n.childByField? "name" = none := by
      cases hn : n.childByField? "name" with
      | none => rfl
      | some m => exact absurd ⟨hclass, by rw [hn]; rfl⟩ h
    have hkinds : n.kind ∉ variableKinds ∧ n.kind ≠ "variable_declarator" := by
      simp only [classKinds, List.mem_cons, List.not_mem_nil, or_false] at hclass
      rcases hclass with hk | hk <;> rw [hk] <;> decide
    cases hreading : s.reading <;>
      simp [units, hname, hkinds, hclass, declaratorUnit?]
  · simp [units, hclass]

/-- **Unwrapping awaited calls changes no report**, whichever reading is taken and whether or not
classes count.  So a tree in which no class has a name has one report, with and without markup. -/
theorem sameReport_of_tokensAreLeaves (s : Script) (file : String) (tree : SyntaxTree)
    (hroot : tree.root.TokensAreLeaves) :
    FileReport.ofEvents file ({ s with unwrapAwait := true }.events tree.root) =
        FileReport.ofEvents file ({ s with unwrapAwait := false }.events tree.root) ∧
      ((∀ n ∈ tree.root.preorder, ¬NamesClass n) → ∀ reading report,
        (Analyzer.script .plain reading).analyzeTree file tree = .ok report ↔
          (Analyzer.script .markup reading).analyzeTree file tree = .ok report) := by
  refine ⟨?_, fun hclass reading report => ?_⟩
  · exact ofEvents_eq_of_units_eq { s with unwrapAwait := true } { s with unwrapAwait := false }
      rfl rfl rfl hroot (fun _ _ => rfl) file
  have hreport : FileReport.ofEvents file ((Dialect.plain.script reading).events tree.root) =
      FileReport.ofEvents file ((Dialect.markup.script reading).events tree.root) := by
    refine ofEvents_eq_of_units_eq (Dialect.plain.script reading) (Dialect.markup.script reading)
      rfl rfl rfl hroot (fun n hn => ?_) file
    exact (units_classesAsUnits { reading } (hclass n hn)).symm
  rw [Analyzer.analyzeTree, Analyzer.analyzeTree]
  cases tree.hasError with
  | true => simp
  | false => simp [hreport]

/-- A function that awaits a call of what it awaits, beside a class without a name. -/
def nestedAwaits : SyntaxTree where
  root :=
    let call (callee : String) (arguments : List Node) : Node :=
      { kind := "call_expression"
        children :=
          [{ kind := "identifier", field := some "function", text := callee },
           { kind := "arguments", field := some "arguments", children := arguments }] }
    let await (awaited : Node) : Node :=
      { kind := "await_expression"
        children := [{ kind := "await", named := false, text := "await" }, awaited] }
    { kind := "program"
      children :=
        [{ kind := "function_declaration"
           children :=
            [{ kind := "identifier", field := some "name", text := "f" },
             { kind := "statement_block", field := some "body"
               children := [await (call "g" [await (call "h" [])]), call "g" []] }] },
         { kind := "class_declaration"
           children := [{ kind := "class_body", field := some "body" }] }] }

-- with the unwrapping each awaited call is found twice, and still the reports are the same
theorem sameReport_nestedAwaits :
    nestedAwaits.root.TokensAreLeaves ∧
    (∀ n ∈ nestedAwaits.root.preorder, ¬NamesClass n) ∧
    ({ unwrapAwait := true : Script }.events nestedAwaits.root).length = 6 ∧
    ({ unwrapAwait := false : Script }.events nestedAwaits.root).length = 4 ∧
    FileReport.ofEvents "a.ts" ({ unwrapAwait := true : Script }.events nestedAwaits.root) =
      FileReport.ofEvents "a.ts" ({ unwrapAwait := false : Script }.events nestedAwaits.root) ∧
    ∀ reading report,
      (Analyzer.script .plain reading).analyzeTree "a.ts" nestedAwaits = .ok report ↔
        (Analyzer.script .markup reading).analyzeTree "a.ts" nestedAwaits = .ok report := by
  have hroot : nestedAwaits.root.TokensAreLeaves := by decide
  have hclass : ∀ n ∈ nestedAwaits.root.preorder, ¬NamesClass n := by decide
  have hsame := sameReport_of_tokensAreLeaves {} "a.ts" nestedAwaits hroot
  refine ⟨hroot, hclass, ?_, ?_, hsame.1, hsame.2 hclass⟩
  · rw [events, (describes_walk rfl).events_eq]
    decide
  · rw [events, (describes_walk rfl).events_eq]
    decide

end Script

end CodeSurvey
