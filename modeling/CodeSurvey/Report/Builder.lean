import CodeSurvey.Report.Basic

/-!
# Building the report of one file

An analysis of a file is a sequence of `Event`s: definitions, calls and dependencies in the
order of the source.  A `Builder` takes them one at a time.  It remembers where each name was
last defined, so a call is located at the latest definition before it.
-/

namespace CodeSurvey

/-- The rows, counted from zero, that a definition spans. -/
structure Span where
  startRow : Int
  endRow : Int
deriving DecidableEq, Repr, Inhabited

/-- What an analysis finds in a file. -/
inductive Event where
  /-- The function `name` is defined over `span`. -/
  | define (name : String) (span : Span)
  /-- `caller` calls `callee`. -/
  | call (caller callee : String)
  /-- The file depends on what `text` says. -/
  | dependency (text : String)
deriving DecidableEq, Repr, Inhabited

/-- A report in the making. -/
structure Builder where
  /-- The path of the file. -/
  file : String
  /-- The latest definition of each name. -/
  registry : List (String × Location) := []
  report : FileReport := {}
deriving DecidableEq, Repr, Inhabited

namespace Builder

/-- The location of a span in the builder's file. -/
def location (b : Builder) (span : Span) : Location where
  file := b.file
  startLine := some (span.startRow + 1)
  endLine := some (span.endRow + 1)

/-- Where a name was last defined; the file alone when it was not. -/
def resolve (b : Builder) (name : String) : Location :=
  (b.registry.lookup name).getD { file := b.file }

/-- Takes a definition.  The name starts with an empty list of calls, also when it was defined
before. -/
def define (b : Builder) (name : String) (span : Span) : Builder where
  file := b.file
  registry := (name, b.location span) :: b.registry
  report :=
    { b.report with
      functions := b.report.functions ++ [name]
      calls := assign name [] b.report.calls }

/-- The edge that a call of `callee` is at this moment. -/
def edgeTo (b : Builder) (callee : String) : CallEdge := ⟨callee, b.resolve callee⟩

/-- A call is recorded when its caller is defined and none of the caller's calls covers it. -/
def accepts (b : Builder) (caller callee : String) : Bool :=
  match b.report.callsOf? caller with
  | none => false
  | some edges => !edges.any fun e => (b.edgeTo callee).key.coveredBy e.key

/-- Takes a call. -/
def call (b : Builder) (caller callee : String) : Builder :=
  if b.accepts caller callee then
    let edges := (b.report.callsOf? caller).getD []
    { b with
      report :=
        { b.report with calls := assign caller (edges ++ [b.edgeTo callee]) b.report.calls } }
  else b

/-- Takes a dependency, unless it is empty or already there. -/
def dependency (b : Builder) (text : String) : Builder :=
  if text = "" ∨ text ∈ b.report.dependencies then b
  else { b with report := { b.report with dependencies := b.report.dependencies ++ [text] } }

/-! ### What the operations change -/

@[simp] theorem file_define (b : Builder) (name : String) (span : Span) :
    (b.define name span).file = b.file := rfl

@[simp] theorem functions_define (b : Builder) (name : String) (span : Span) :
    (b.define name span).report.functions = b.report.functions ++ [name] := rfl

@[simp] theorem dependencies_define (b : Builder) (name : String) (span : Span) :
    (b.define name span).report.dependencies = b.report.dependencies := rfl

theorem resolve_define (b : Builder) (name other : String) (span : Span) :
    (b.define name span).resolve other =
      if name = other then b.location span else b.resolve other := by
  simp only [resolve, define, List.lookup_cons]
  by_cases h : name = other
  · simp [h]
  · have h' : (other == name) = false := by simpa using fun e => h e.symm
    simp [h, h']

theorem keys_define (b : Builder) (name : String) (span : Span) :
    (b.define name span).report.calls.map (·.1) =
      if name ∈ b.report.calls.map (·.1) then b.report.calls.map (·.1)
      else b.report.calls.map (·.1) ++ [name] := keys_assign name [] b.report.calls

theorem callsOf?_define_self (b : Builder) (name : String) (span : Span) :
    (b.define name span).report.callsOf? name = some [] := lookup_assign_self name [] b.report.calls

theorem callsOf?_define_of_ne (b : Builder) {name other : String} (h : other ≠ name) (span : Span) :
    (b.define name span).report.callsOf? other = b.report.callsOf? other :=
  lookup_assign_of_ne h [] b.report.calls

@[simp] theorem file_call (b : Builder) (caller callee : String) :
    (b.call caller callee).file = b.file := by
  unfold call; split <;> rfl

@[simp] theorem functions_call (b : Builder) (caller callee : String) :
    (b.call caller callee).report.functions = b.report.functions := by
  unfold call; split <;> rfl

@[simp] theorem dependencies_call (b : Builder) (caller callee : String) :
    (b.call caller callee).report.dependencies = b.report.dependencies := by
  unfold call; split <;> rfl

@[simp] theorem resolve_call (b : Builder) (caller callee name : String) :
    (b.call caller callee).resolve name = b.resolve name := by
  unfold call; split <;> rfl

theorem mem_keys_of_accepts {b : Builder} {caller callee : String}
    (h : b.accepts caller callee = true) : caller ∈ b.report.calls.map (·.1) := by
  refine Decidable.byContradiction fun hc => ?_
  have hnone : b.report.callsOf? caller = none := (lookup_eq_none_iff_not_mem_keys _ _).2 hc
  simp [accepts, hnone] at h

@[simp] theorem keys_call (b : Builder) (caller callee : String) :
    (b.call caller callee).report.calls.map (·.1) = b.report.calls.map (·.1) := by
  unfold call
  split
  · next h => rw [keys_assign, if_pos (mem_keys_of_accepts h)]
  · rfl

theorem callsOf?_call_self {b : Builder} {caller : String} {edges : List CallEdge}
    (h : b.report.callsOf? caller = some edges) (callee : String) :
    (b.call caller callee).report.callsOf? caller =
      some (if b.accepts caller callee then edges ++ [b.edgeTo callee] else edges) := by
  unfold call
  split
  · simp only [h, Option.getD_some]
    exact lookup_assign_self caller _ b.report.calls
  · exact h

theorem callsOf?_call_of_ne (b : Builder) {caller other : String} (h : other ≠ caller)
    (callee : String) : (b.call caller callee).report.callsOf? other = b.report.callsOf? other := by
  unfold call
  split
  · exact lookup_assign_of_ne h _ b.report.calls
  · rfl

@[simp] theorem file_dependency (b : Builder) (text : String) :
    (b.dependency text).file = b.file := by
  unfold dependency; split <;> rfl

@[simp] theorem functions_dependency (b : Builder) (text : String) :
    (b.dependency text).report.functions = b.report.functions := by
  unfold dependency; split <;> rfl

@[simp] theorem calls_dependency (b : Builder) (text : String) :
    (b.dependency text).report.calls = b.report.calls := by
  unfold dependency; split <;> rfl

@[simp] theorem resolve_dependency (b : Builder) (text name : String) :
    (b.dependency text).resolve name = b.resolve name := by
  unfold dependency; split <;> rfl

/-! ### Sequences of events -/

/-- Takes one event. -/
def apply (b : Builder) : Event → Builder
  | .define name span => b.define name span
  | .call caller callee => b.call caller callee
  | .dependency text => b.dependency text

/-- Takes a sequence of events. -/
def run (b : Builder) (events : List Event) : Builder := events.foldl apply b

@[simp] theorem run_nil (b : Builder) : b.run [] = b := rfl

theorem run_concat (b : Builder) (events : List Event) (e : Event) :
    b.run (events ++ [e]) = (b.run events).apply e := by simp [run]

end Builder

/-- The report of the file at `file` in which the events occur. -/
def FileReport.ofEvents (file : String) (events : List Event) : FileReport :=
  (Builder.run { file } events).report

end CodeSurvey
