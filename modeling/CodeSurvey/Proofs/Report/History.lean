import CodeSurvey.Report.Builder
import Mathlib.Data.List.Induction

/-!
# What a report says of its history

A builder takes events one at a time and changes its report with each.  This file says what the
report is in terms of the whole *history*, the list of the events taken, with the earliest first:

* `definedNames`, `locate`, `callsBy` and `dependencyTexts` read a history without a builder;
* `Builder.run_tells` : after any history, the builder holds exactly what these functions read.

The coverage test by which a builder turns calls away is not symmetric.  It agrees with plain
equality of keys (`Builder.accepts_run_iff`) because a name, once defined, stays defined: a call
without a line never comes after a call of the same name with one (`Builder.settled_run`).
-/

namespace CodeSurvey

/-- The events a builder has taken, the earliest first. -/
abbrev History := List Event

/-! ### Reading a history -/

namespace Event

/-- The name that an event defines. -/
def definedName? : Event → Option String
  | define name _ => some name
  | _ => none

/-- The span that an event defines a name over. -/
def spanOf? (name : String) : Event → Option Span
  | define other span => if other = name then some span else none
  | _ => none

/-- The text that an event depends on. -/
def dependencyText? : Event → Option String
  | dependency text => some text
  | _ => none

end Event

namespace History

/-- The defined names in the order of definition, repeats kept. -/
def definedNames (h : History) : List String := h.filterMap Event.definedName?

/-- The texts depended on, in order and without the empty ones. -/
def dependencyTexts (h : History) : List String :=
  (h.filterMap Event.dependencyText?).filter (· ≠ "")

/-- Where a call made after the history is located: at the latest definition of the callee, or at
the file alone when there is none. -/
def locate (file : String) (h : History) (name : String) : Location :=
  match (h.filterMap (Event.spanOf? name)).getLast? with
  | some span => ⟨file, some (span.startRow + 1), some (span.endRow + 1)⟩
  | none => { file }

/-- The calls that a caller makes in a history, each located by what comes before it; `before` is
what came before the history. -/
def callsBy (file caller : String) (before : History) : History → List CallEdge
  | [] => []
  | e :: rest =>
    match e with
    | .call c callee =>
      if c = caller then
        ⟨callee, locate file before callee⟩ :: callsBy file caller (before ++ [e]) rest
      else callsBy file caller (before ++ [e]) rest
    | _ => callsBy file caller (before ++ [e]) rest

end History

/-- What tells the edges of one caller apart: the callee and the line it begins at. -/
def CallEdge.spot (e : CallEdge) : String × Option Int := (e.name, e.location.startLine)

open History

/-- Every call is made by a name that is defined before it, so no builder finds its caller
unknown. -/
def History.CallersKnown (h : History) : Prop :=
  ∀ before caller callee after, h = before ++ .call caller callee :: after →
    caller ∈ definedNames before ∧
      ∀ file, ((Builder.run { file } before).report.callsOf? caller).isSome

/-! ### Lists without repetition -/

theorem nodup_eraseDups {α : Type} [BEq α] [LawfulBEq α] : ∀ l : List α, l.eraseDups.Nodup
  | [] => by simp
  | x :: rest => by
    rw [List.eraseDups_cons, List.nodup_cons]
    refine ⟨?_, nodup_eraseDups _⟩
    rw [List.mem_eraseDups, List.mem_filter]
    rintro ⟨-, h⟩
    simp at h
termination_by l => l.length
decreasing_by exact Nat.lt_succ_of_le (List.length_filter_le ..)

/-- Keeping the first element with each value keeps each value once. -/
theorem map_eraseDupsBy {α β : Type} [BEq β] (f : α → β) :
    ∀ l : List α, (l.eraseDupsBy (f · == f ·)).map f = (l.map f).eraseDups
  | [] => rfl
  | x :: rest => by
    rw [List.eraseDupsBy_cons, List.map_cons, map_eraseDupsBy f, List.map_cons, List.eraseDups_cons,
      List.filter_map]
    congr 4
    funext y
    simp
termination_by l => l.length
decreasing_by exact Nat.lt_succ_of_le (List.length_filter_le ..)

theorem mem_of_mem_eraseDupsBy {α β : Type} [BEq β] (f : α → β) {y : α} :
    ∀ l : List α, y ∈ l.eraseDupsBy (f · == f ·) → y ∈ l
  | [], h => h
  | x :: rest, h => by
    rw [List.eraseDupsBy_cons, List.mem_cons] at h
    rcases h with rfl | h
    · exact List.mem_cons_self
    · exact List.mem_cons_of_mem _ (List.mem_filter.1 (mem_of_mem_eraseDupsBy f _ h)).1
termination_by l => l.length
decreasing_by exact Nat.lt_succ_of_le (List.length_filter_le ..)

theorem eraseDups_concat {α : Type} [DecidableEq α] (l : List α) (x : α) :
    (l ++ [x]).eraseDups = if x ∈ l then l.eraseDups else l.eraseDups ++ [x] := by
  rw [List.eraseDups_append, List.removeAll, List.filter_cons]
  by_cases h : x ∈ l <;> simp [h, List.eraseDups_cons]

/-- One more element stays exactly when it is the first with its value. -/
theorem eraseDupsBy_concat {α β : Type} [BEq β] [LawfulBEq β] (f : α → β) (x : α) :
    ∀ l : List α, (l ++ [x]).eraseDupsBy (f · == f ·) =
      if f x ∈ l.map f then l.eraseDupsBy (f · == f ·) else l.eraseDupsBy (f · == f ·) ++ [x]
  | [] => by simp [List.eraseDupsBy_cons]
  | y :: rest => by
    rw [List.cons_append, List.eraseDupsBy_cons, List.eraseDupsBy_cons, List.filter_append]
    by_cases hxy : f x = f y
    · simp [hxy]
    · have hmem : f x ∈ (rest.filter fun b => (f b == f y) = false).map f ↔ f x ∈ rest.map f := by
        simp only [List.mem_map, List.mem_filter]
        constructor
        · rintro ⟨z, ⟨hz, -⟩, hzx⟩; exact ⟨z, hz, hzx⟩
        · rintro ⟨z, hz, hzx⟩; exact ⟨z, ⟨hz, by simpa [hzx] using hxy⟩, hzx⟩
      rw [List.filter_cons_of_pos (by simpa using hxy), List.filter_nil, eraseDupsBy_concat f x]
      simp only [hmem, List.map_cons, List.mem_cons, hxy, false_or]
      split <;> rfl
termination_by l => l.length
decreasing_by exact Nat.lt_succ_of_le (List.length_filter_le ..)

/-! ### Histories that grow -/

namespace History

theorem definedNames_concat (h : History) (e : Event) :
    definedNames (h ++ [e]) = definedNames h ++ e.definedName?.toList := by
  cases e <;> simp [definedNames, Event.definedName?]

theorem definedNames_append (h k : History) :
    definedNames (h ++ k) = definedNames h ++ definedNames k := List.filterMap_append

theorem definedNames_flatMap {α : Type} (f : α → History) (l : List α) :
    definedNames (l.flatMap f) = l.flatMap fun x => definedNames (f x) := by
  rw [definedNames, List.filterMap_flatMap]
  rfl

theorem mem_definedNames {h : History} {name : String} :
    name ∈ definedNames h ↔ ∃ span, .define name span ∈ h := by
  simp only [definedNames, List.mem_filterMap]
  constructor
  · rintro ⟨e, he, hn⟩
    cases e with
    | define other span => cases hn; exact ⟨span, he⟩
    | call | dependency => cases hn
  · rintro ⟨span, hs⟩; exact ⟨_, hs, rfl⟩

theorem dependencyTexts_concat (h : History) (e : Event) :
    dependencyTexts (h ++ [e]) =
      dependencyTexts h ++ e.dependencyText?.toList.filter (· ≠ "") := by
  cases e <;> simp [dependencyTexts, Event.dependencyText?]

theorem dependencyTexts_append (h k : History) :
    dependencyTexts (h ++ k) = dependencyTexts h ++ dependencyTexts k := by
  rw [dependencyTexts, List.filterMap_append, List.filter_append]
  rfl

theorem dependencyTexts_flatMap {α : Type} (f : α → History) (l : List α) :
    dependencyTexts (l.flatMap f) = l.flatMap fun x => dependencyTexts (f x) := by
  rw [dependencyTexts, List.filterMap_flatMap, List.filter_flatMap]
  rfl

theorem locate_concat_define (file : String) (h : History) (name other : String) (span : Span) :
    locate file (h ++ [.define name span]) other =
      if name = other then ⟨file, some (span.startRow + 1), some (span.endRow + 1)⟩
      else locate file h other := by
  by_cases hn : name = other <;> simp [locate, Event.spanOf?, hn]

theorem locate_concat {e : Event} (he : e.definedName? = none) (file : String) (h : History)
    (name : String) : locate file (h ++ [e]) name = locate file h name := by
  cases e with
  | define => cases he
  | call | dependency => simp [locate, Event.spanOf?]

theorem file_locate (file : String) (h : History) (name : String) :
    (locate file h name).file = file := by
  unfold locate; split <;> rfl

theorem startLine_locate_isSome {file : String} {h : History} {name : String} :
    (locate file h name).startLine.isSome ↔ name ∈ definedNames h := by
  have hspan : h.filterMap (Event.spanOf? name) = [] ↔ name ∉ definedNames h := by
    simp only [List.filterMap_eq_nil_iff, mem_definedNames, not_exists]
    constructor
    · intro hall span hs; simpa [Event.spanOf?] using hall _ hs
    · intro hno e he
      cases e with
      | define other span =>
        have : other ≠ name := by rintro rfl; exact hno span he
        simp [Event.spanOf?, this]
      | call | dependency => rfl
  unfold locate
  split
  · next span hs =>
    have : ¬ h.filterMap (Event.spanOf? name) = [] := by rintro hnil; simp [hnil] at hs
    simpa [hspan] using this
  · next hs => simpa [hspan] using List.getLast?_eq_none_iff.1 hs

/-- A defined name has a latest definition. -/
theorem exists_latest_define {h : History} {name : String} (hdefined : name ∈ definedNames h) :
    ∃ before span after, h = before ++ .define name span :: after ∧ name ∉ definedNames after := by
  induction h using List.reverseRecOn with
  | nil => cases hdefined
  | append_singleton h e ih =>
    by_cases he : e.definedName? = some name
    · cases e with
      | define other span =>
        obtain rfl : other = name := Option.some.inj he
        exact ⟨h, span, [], rfl, List.not_mem_nil⟩
      | call | dependency => cases he
    · rw [definedNames_concat, List.mem_append] at hdefined
      obtain ⟨before, span, after, rfl, hlast⟩ := ih (hdefined.resolve_right (by simpa using he))
      refine ⟨before, span, after ++ [e], by simp, ?_⟩
      rw [definedNames_concat, List.mem_append]
      simpa [he] using hlast

theorem callsBy_append (file caller : String) (before h k : History) :
    callsBy file caller before (h ++ k) =
      callsBy file caller before h ++ callsBy file caller (before ++ h) k := by
  induction h generalizing before with
  | nil => simp [callsBy]
  | cons e h ih =>
    have ih' := ih (before ++ [e])
    rw [List.append_assoc, List.singleton_append] at ih'
    cases e with
    | call c callee =>
      simp only [List.cons_append, callsBy, ih']
      split <;> rfl
    | define | dependency => simp only [List.cons_append, callsBy, ih']

theorem mem_callsBy_singleton {file caller : String} {edge : CallEdge} {before : History}
    {e : Event} :
    edge ∈ callsBy file caller before [e] ↔
      ∃ callee, e = .call caller callee ∧ edge = ⟨callee, locate file before callee⟩ := by
  cases e with
  | call c callee => by_cases hc : c = caller <;> simp [callsBy, hc]
  | define | dependency => simp [callsBy]

theorem mem_callsBy {file caller : String} {edge : CallEdge} {before h : History} :
    edge ∈ callsBy file caller before h ↔
      ∃ pre callee post, h = pre ++ .call caller callee :: post ∧
        edge = ⟨callee, locate file (before ++ pre) callee⟩ := by
  induction h generalizing before with
  | nil => simp [callsBy]
  | cons e h ih =>
    rw [← List.singleton_append, callsBy_append, List.mem_append, mem_callsBy_singleton, ih]
    constructor
    · rintro (⟨callee, rfl, rfl⟩ | ⟨pre, callee, post, rfl, rfl⟩)
      · exact ⟨[], callee, h, rfl, by simp⟩
      · exact ⟨e :: pre, callee, post, rfl, by simp⟩
    · rintro ⟨pre, callee, post, hsplit, rfl⟩
      cases pre with
      | nil =>
        obtain ⟨rfl, rfl⟩ := List.cons.inj hsplit
        exact .inl ⟨callee, rfl, by simp⟩
      | cons _ pre =>
        obtain ⟨rfl, rfl⟩ := List.cons.inj hsplit
        exact .inr ⟨pre, callee, post, rfl, by simp⟩

/-- A call with a line was made after a definition of its callee. -/
theorem mem_definedNames_of_mem_callsBy {file caller : String} {edge : CallEdge}
    {before h : History} (hmem : edge ∈ callsBy file caller before h)
    (hline : edge.location.startLine.isSome) : edge.name ∈ definedNames (before ++ h) := by
  obtain ⟨pre, callee, post, rfl, rfl⟩ := mem_callsBy.1 hmem
  rw [startLine_locate_isSome] at hline
  rw [← List.append_assoc, definedNames_append]
  exact List.mem_append_left _ hline

theorem mem_names_callsBy {file caller callee : String} {before h : History} :
    callee ∈ (callsBy file caller before h).map (·.name) ↔ .call caller callee ∈ h := by
  rw [List.mem_map]
  constructor
  · rintro ⟨edge, hedge, rfl⟩
    obtain ⟨pre, callee, post, rfl, rfl⟩ := mem_callsBy.1 hedge
    simp
  · intro hcall
    obtain ⟨pre, post, rfl⟩ := List.append_of_mem hcall
    exact ⟨_, mem_callsBy.2 ⟨pre, callee, post, rfl, rfl⟩, rfl⟩

theorem file_of_mem_callsBy {file caller : String} {edge : CallEdge} {before h : History}
    (hmem : edge ∈ callsBy file caller before h) : edge.location.file = file := by
  obtain ⟨pre, callee, post, -, rfl⟩ := mem_callsBy.1 hmem
  exact file_locate ..

end History

/-! ### The builder after a history -/

namespace Builder

variable (file : String) (h : History)

theorem file_run : (run { file } h).file = file := by
  induction h using List.reverseRecOn with
  | nil => rfl
  | append_singleton h e ih => cases e <;> simp [run_concat, apply, ih]

theorem functions_run : (run { file } h).report.functions = definedNames h := by
  induction h using List.reverseRecOn with
  | nil => rfl
  | append_singleton h e ih =>
    rw [run_concat, definedNames_concat]
    cases e <;> simp [apply, ih, Event.definedName?]

theorem dependencies_run :
    (run { file } h).report.dependencies = (dependencyTexts h).eraseDups := by
  induction h using List.reverseRecOn with
  | nil => rfl
  | append_singleton h e ih =>
    rw [run_concat, dependencyTexts_concat]
    cases e with
    | define | call => simp [apply, ih, Event.dependencyText?]
    | dependency text =>
      by_cases ht : text = ""
      · simp [apply, dependency, ht, ih, Event.dependencyText?]
      · simp only [apply, dependency, ht, false_or, ih, List.mem_eraseDups, Event.dependencyText?,
          Option.toList_some, ne_eq, not_false_eq_true, decide_true, List.filter_cons_of_pos,
          List.filter_nil, eraseDups_concat]
        split <;> simp [ih]

theorem resolve_run (name : String) : (run { file } h).resolve name = locate file h name := by
  induction h using List.reverseRecOn with
  | nil => rfl
  | append_singleton h e ih =>
    rw [run_concat]
    cases e with
    | define other span =>
      rw [apply, resolve_define, locate_concat_define, ih, location, file_run]
    | call | dependency => simpa [apply] using ih.trans (locate_concat rfl ..).symm

theorem keys_run : (run { file } h).report.calls.map (·.1) = (definedNames h).eraseDups := by
  induction h using List.reverseRecOn with
  | nil => rfl
  | append_singleton h e ih =>
    rw [run_concat, definedNames_concat]
    cases e with
    | define name span =>
      rw [apply, keys_define, ih]
      simp only [List.mem_eraseDups, Event.definedName?, Option.toList_some, eraseDups_concat]
    | call | dependency => simp [apply, ih, Event.definedName?]

theorem callsOf?_run_eq_none_iff (caller : String) :
    (run { file } h).report.callsOf? caller = none ↔ caller ∉ definedNames h := by
  rw [FileReport.callsOf?, lookup_eq_none_iff_not_mem_keys, keys_run, List.mem_eraseDups]

end Builder

/-! ### Coverage is equality -/

namespace CallEdge

variable {new old : CallEdge}

theorem key_eq_iff (hfile : new.location.file = old.location.file) :
    new.key = old.key ↔ new.spot = old.spot := by
  simp [key, spot, hfile]

/-- A call is covered by one in the same file exactly when they have the same spot, provided that
it has a line whenever the other one names the same callee with a line. -/
theorem coveredBy_key_iff (hfile : new.location.file = old.location.file)
    (hline : new.name = old.name → old.location.startLine.isSome → new.location.startLine.isSome) :
    new.key.coveredBy old.key = true ↔ new.spot = old.spot := by
  simp only [EdgeKey.coveredBy, key, spot, hfile, Bool.and_eq_true, Bool.or_eq_true, beq_iff_eq,
    and_true, Prod.mk.injEq]
  refine and_congr_right fun hname => ⟨?_, .inr⟩
  rintro (hnone | heq)
  · have hnew : new.location.startLine = none := by simpa using hnone
    cases hold : old.location.startLine with
    | none => exact hnew
    | some line =>
      have := hline hname (by simp [hold])
      simp [hnew] at this
  · exact heq

end CallEdge

namespace Builder

/-- Edges that a history can have left in a report: they lie in the file, and what has a line is
defined. -/
def Settled (file : String) (h : History) (edges : List CallEdge) : Prop :=
  ∀ e ∈ edges, e.location.file = file ∧
    (e.location.startLine.isSome → e.name ∈ definedNames h)

theorem edgeTo_run (file : String) (h : History) (callee : String) :
    (run { file } h).edgeTo callee = ⟨callee, locate file h callee⟩ := by
  rw [edgeTo, resolve_run]

/-- **Coverage is equality** on the edges that a history has left. -/
theorem accepts_run_iff {file : String} {h : History} {caller : String} {edges : List CallEdge}
    (hedges : (run { file } h).report.callsOf? caller = some edges)
    (hsettled : Settled file h edges) (callee : String) :
    (run { file } h).accepts caller callee = true ↔
      ((run { file } h).edgeTo callee).spot ∉ edges.map CallEdge.spot := by
  have hcovered : ∀ e ∈ edges, ((run { file } h).edgeTo callee).key.coveredBy e.key = true ↔
      ((run { file } h).edgeTo callee).spot = e.spot := by
    intro e he
    obtain ⟨hfile, hline⟩ := hsettled e he
    rw [edgeTo_run]
    -- the older edge has a line, so the callee was defined then and has a line now
    refine CallEdge.coveredBy_key_iff ((file_locate ..).trans hfile.symm) fun hname hsome => ?_
    exact startLine_locate_isSome.2 ((show callee = e.name from hname) ▸ hline hsome)
  simp only [accepts, hedges, Bool.not_eq_true', List.any_eq_false, List.mem_map, not_exists,
    not_and]
  constructor
  · intro hnone e he heq; exact hnone e he ((hcovered e he).2 heq.symm)
  · intro hno e he hcov; exact hno e he ((hcovered e he).1 hcov).symm

theorem settled_callsBy (file caller : String) (before h : History) :
    Settled file (before ++ h)
      ((callsBy file caller before h).eraseDupsBy (·.spot == ·.spot)) := by
  intro e he
  have hmem := mem_of_mem_eraseDupsBy CallEdge.spot _ he
  exact ⟨file_of_mem_callsBy hmem, mem_definedNames_of_mem_callsBy hmem⟩

/-- The edges of a caller are the calls made since its latest definition, the first of each
spot. -/
theorem callsOf?_run (file : String) (before : History) (caller : String) (span : Span)
    (after : History) (hlast : caller ∉ definedNames after) :
    (run { file } (before ++ .define caller span :: after)).report.callsOf? caller =
      some ((callsBy file caller (before ++ [.define caller span]) after).eraseDupsBy
        (·.spot == ·.spot)) := by
  -- from the end: of the events since the definition only the last one is new
  induction after using List.reverseRecOn with
  | nil => rw [run_concat, apply, callsOf?_define_self]; rfl
  | append_singleton after e ih =>
    rw [definedNames_concat, List.mem_append, not_or] at hlast
    have ih := ih hlast.1
    have hsplit : before ++ .define caller span :: (after ++ [e]) =
        (before ++ .define caller span :: after) ++ [e] := by simp
    have hbefore : before ++ [.define caller span] ++ after =
        before ++ .define caller span :: after := by simp
    rw [hsplit, run_concat, callsBy_append, hbefore]
    cases e with
    | define name other =>
      have hne : caller ≠ name := by simpa [Event.definedName?] using hlast.2
      rw [apply, callsOf?_define_of_ne _ hne, ih]
      simp [callsBy]
    | dependency text =>
      rw [apply, FileReport.callsOf?, calls_dependency, ← FileReport.callsOf?, ih]
      simp [callsBy]
    | call c callee =>
      by_cases hc : c = caller
      · subst hc
        have hsettled := settled_callsBy file c (before ++ [.define c span]) after
        rw [hbefore] at hsettled
        have haccepts := accepts_run_iff ih hsettled callee
        simp only [map_eraseDupsBy, List.mem_eraseDups] at haccepts
        have hcall : callsBy file c (before ++ .define c span :: after) [.call c callee] =
            [(run { file } (before ++ .define c span :: after)).edgeTo callee] := by
          simp [callsBy, edgeTo_run]
        rw [apply, callsOf?_call_self ih, hcall, eraseDupsBy_concat]
        simp only [haccepts, ite_not]
      · rw [apply, callsOf?_call_of_ne _ (Ne.symm hc), ih]
        simp [callsBy, hc]

/-- The edges of a caller name whom it calls after its latest definition. -/
theorem exists_callsOf?_run (file : String) (before : History) (caller : String) (span : Span)
    (after : History) (hlast : caller ∉ definedNames after) :
    ∃ edges, (run { file } (before ++ .define caller span :: after)).report.callsOf? caller =
        some edges ∧
      ∀ callee, callee ∈ edges.map (·.name) ↔ .call caller callee ∈ after := by
  refine ⟨_, callsOf?_run file before caller span after hlast, fun callee => ?_⟩
  have hcalled : callee ∈ (callsBy file caller (before ++ [.define caller span]) after).map
      (·.name) ↔ .call caller callee ∈ after := mem_names_callsBy
  have hnames : ∀ l : List CallEdge, l.map (·.name) = (l.map CallEdge.spot).map (·.1) := fun l => by
    rw [List.map_map]
    rfl
  rw [← hcalled, hnames, map_eraseDupsBy, hnames]
  simp only [List.mem_map, List.mem_eraseDups]

/-- Every edge of a caller comes from a call. -/
theorem mem_of_callsOf?_run {file : String} {h : History} {caller callee : String}
    {edges : List CallEdge} (hedges : (run { file } h).report.callsOf? caller = some edges)
    (hcallee : callee ∈ edges.map (·.name)) : .call caller callee ∈ h := by
  have hdefined : caller ∈ definedNames h := by
    by_contra hc
    rw [(callsOf?_run_eq_none_iff file h caller).2 hc] at hedges
    cases hedges
  obtain ⟨before, span, after, rfl, hlast⟩ := exists_latest_define hdefined
  obtain ⟨_, hedges', hnames⟩ := exists_callsOf?_run file before caller span after hlast
  rw [hedges'] at hedges
  obtain rfl := Option.some.inj hedges
  have hafter := (hnames callee).1 hcallee
  simp [hafter]

/-- No call gets lost of callers that are known and defined only once. -/
theorem exists_callsOf?_run_of_nodup {h : History} (hknown : CallersKnown h)
    (hnodup : (definedNames h).Nodup) {caller callee : String} (hcall : .call caller callee ∈ h)
    (file : String) : ∃ edges, (run { file } h).report.callsOf? caller = some edges ∧
      callee ∈ edges.map (·.name) := by
  obtain ⟨before, after, rfl⟩ := List.append_of_mem hcall
  obtain ⟨hdefined, -⟩ := hknown before caller callee after rfl
  obtain ⟨span, hspan⟩ := mem_definedNames.1 hdefined
  obtain ⟨first, rest, rfl⟩ := List.append_of_mem hspan
  have hsplit : first ++ .define caller span :: rest ++ .call caller callee :: after =
      first ++ .define caller span :: (rest ++ .call caller callee :: after) := by simp
  rw [hsplit] at hnodup ⊢
  have hlast : caller ∉ definedNames (rest ++ .call caller callee :: after) := by
    rw [definedNames_append] at hnodup
    exact (List.nodup_cons.1 (List.nodup_append.1 hnodup).2.1).1
  obtain ⟨edges, hedges, hnames⟩ := exists_callsOf?_run file first caller span _ hlast
  exact ⟨edges, hedges, (hnames callee).2 (by simp)⟩

theorem isSome_callsOf?_run {file : String} {h : History} {caller : String}
    (hdefined : caller ∈ definedNames h) : ((run { file } h).report.callsOf? caller).isSome := by
  rw [Option.isSome_iff_ne_none, ne_eq, callsOf?_run_eq_none_iff, not_not]
  exact hdefined

theorem call_run_of_unknown {file : String} {h : History} {caller : String}
    (hunknown : caller ∉ definedNames h) (callee : String) :
    (run { file } h).call caller callee = run { file } h := by
  have hnone := (callsOf?_run_eq_none_iff file h caller).2 hunknown
  simp [call, accepts, hnone]

/-- Whatever edges a report lists for a caller, they are settled and no two have one spot. -/
theorem settled_run {file : String} {h : History} {caller : String} {edges : List CallEdge}
    (hedges : (run { file } h).report.callsOf? caller = some edges) :
    Settled file h edges ∧ (edges.map CallEdge.spot).Nodup := by
  have hdefined : caller ∈ definedNames h := by
    by_contra hc
    rw [(callsOf?_run_eq_none_iff file h caller).2 hc] at hedges
    cases hedges
  obtain ⟨before, span, after, rfl, hlast⟩ := exists_latest_define hdefined
  rw [callsOf?_run file before caller span after hlast] at hedges
  obtain rfl := Option.some.inj hedges
  refine ⟨?_, by rw [map_eraseDupsBy]; exact nodup_eraseDups _⟩
  rw [List.append_cons]
  exact settled_callsBy file caller (before ++ [.define caller span]) after

theorem spot_mem_iff_key_mem {file : String} {edges : List CallEdge} {new : CallEdge}
    (hnew : new.location.file = file) (hedges : ∀ e ∈ edges, e.location.file = file) :
    new.spot ∈ edges.map CallEdge.spot ↔ new.key ∈ edges.map CallEdge.key := by
  simp only [List.mem_map]
  refine exists_congr fun e => and_congr_right fun he => ?_
  exact (CallEdge.key_eq_iff ((hedges e he).trans hnew.symm)).symm

theorem nodup_keys_of_nodup_spots {file : String} {edges : List CallEdge}
    (hedges : ∀ e ∈ edges, e.location.file = file) (h : (edges.map CallEdge.spot).Nodup) :
    (edges.map CallEdge.key).Nodup := by
  rw [List.Nodup, List.pairwise_map] at h ⊢
  refine h.imp_of_mem fun he he' hne heq => hne ?_
  exact (CallEdge.key_eq_iff ((hedges _ he).trans (hedges _ he').symm)).1 heq

/-- What a builder of a file holds, as its history tells it. -/
structure Tells (b : Builder) (file : String) (h : History) : Prop where
  /-- The functions are the defined names in order, repeats kept. -/
  functions : b.report.functions = definedNames h
  /-- The callers are the distinct defined names in the order of their first definition. -/
  callers : b.report.calls.map (·.1) = (definedNames h).eraseDups
  /-- A call by a name that is not defined yet changes nothing. -/
  unknown : ∀ caller callee, caller ∉ definedNames h → b.call caller callee = b
  /-- The edges of a caller are the calls it made since its latest definition, each located at the
  latest definition of the callee before the call, and of each spot the first. -/
  edges : ∀ before caller span after, h = before ++ .define caller span :: after →
    caller ∉ definedNames after → b.report.callsOf? caller =
      some ((callsBy file caller (before ++ [.define caller span]) after).eraseDupsBy
        (·.spot == ·.spot))
  /-- The coverage test keeps a call exactly when equality of keys would. -/
  accepts : ∀ caller callee, b.accepts caller callee = true ↔
    ∃ edges, b.report.callsOf? caller = some edges ∧
      (b.edgeTo callee).key ∉ edges.map CallEdge.key
  /-- No caller has two edges of one key. -/
  distinct : ∀ caller edges, b.report.callsOf? caller = some edges →
    (edges.map CallEdge.key).Nodup
  /-- The dependencies are the distinct texts that are not empty, in the order of their first
  addition. -/
  dependencies : b.report.dependencies = (dependencyTexts h).eraseDups

/-- **A report says exactly what its history tells.**  Whatever events a new builder takes, in
whatever order, its report is the one read off the history. -/
theorem run_tells (file : String) (h : History) : (run { file } h).Tells file h where
  functions := functions_run file h
  callers := keys_run file h
  unknown _ callee hunknown := call_run_of_unknown hunknown callee
  edges := by
    rintro before caller span after rfl hlast
    exact callsOf?_run file before caller span after hlast
  accepts caller callee := by
    cases hedges : (run { file } h).report.callsOf? caller with
    | none => simp [accepts, hedges]
    | some edges =>
      obtain ⟨hsettled, -⟩ := settled_run hedges
      have hnew : ((run { file } h).edgeTo callee).location.file = file := by
        rw [edgeTo_run]; exact file_locate ..
      rw [accepts_run_iff hedges hsettled,
        spot_mem_iff_key_mem hnew fun e he => (hsettled e he).1]
      simp
  distinct caller edges hedges := by
    obtain ⟨hsettled, hnodup⟩ := settled_run hedges
    exact nodup_keys_of_nodup_spots (fun e he => (hsettled e he).1) hnodup
  dependencies := dependencies_run file h

-- a callee that is defined twice in the meantime is three edges, and a repeated call is none
example :
    (((run { file := "f" }
      [.define "a" ⟨0, 9⟩, .call "a" "b", .define "b" ⟨4, 5⟩, .call "a" "b", .call "a" "b",
        .define "b" ⟨7, 8⟩, .call "a" "b"]).report.callsOf? "a").map
      (·.map (·.location.startLine))) = some [none, some 5, some 8] := by decide

end Builder

end CodeSurvey
