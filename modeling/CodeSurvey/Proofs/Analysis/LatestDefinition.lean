import CodeSurvey.Proofs.Analysis.Script
import CodeSurvey.Proofs.Analysis.Table

/-!
# The calls reported for a name that is defined more than once

A report keeps calls by name, and every definition of a name starts its calls anew.  So what is
reported for a name are the calls credited to the name *after* its latest definition, which need
not all be calls of that definition: when it stands inside a unit of the same name, what the outer
unit calls further on is credited to the name as well.

* `Analysis.reports_latest` : the calls reported for a name are those of its latest definition and
  the later ones of the units of that name around it, and **the former alone exactly when there
  are none of the latter**;
* `Analysis.not_always_own` : a function inside a function of its name, with a call behind it, is
  an example where the latter are there.
-/

namespace CodeSurvey

/-- The analyses in which a unit is the context of what lies inside it: those of the languages
that are read by tables, and the scoped reading of scripts with any settings. -/
inductive Analysis where
  | table (language : Language)
  | script (settings : Script)

namespace Analysis

/-- What single nodes are to an analysis. -/
def scoping : Analysis → Scoping
  | table language => language.scoping
  | script settings => settings.scoping

/-- What an analysis finds in a tree. -/
def events : Analysis → Node → List Event
  | table language, root => language.events root
  | script settings, root => { settings with reading := .scoped }.events root

theorem events_eq (α : Analysis) (root : Node) : α.events root = α.scoping.events root := by
  cases α with
  | table language => exact Language.describes_walk.events_eq () root
  | script settings =>
    have hscoped : ({ settings with reading := .scoped } : Script).reading = .scoped := rfl
    exact (Script.describes_walk hscoped).events_eq none root

end Analysis

namespace Scoping

variable (σ : Scoping) (root : Node) (name : String) (d : Address)

/-- The definition at an address is the last one of the name that is read. -/
structure IsLatest : Prop where
  read : d ∈ σ.readAddresses root
  unit : σ.unitAt? root d = some name
  last : ∀ q ∈ σ.readAddresses root, σ.unitAt? root q = some name → q ≤ d

/-- The node at `a` calls the callee inside the unit at `d`, and in no unit further in. -/
def OwnCall (a : Address) (callee : String) : Prop :=
  a ∈ σ.readAddresses root ∧ σ.owner? root a = some d ∧ σ.calleeAt? root a = some callee

/-- The node at `a` is found to call the callee as the name, after the definition at `d`. -/
def Credits (a : Address) (callee : String) : Prop :=
  a ∈ σ.readAddresses root ∧ d < a ∧ .call name callee ∈ σ.meaningAt root a

/-- The node at `a` calls the callee after the definition at `d`, in a unit of the same name around
it. -/
def LateCall (a : Address) (callee : String) : Prop :=
  a ∈ σ.readAddresses root ∧ d < a ∧ σ.calleeAt? root a = some callee ∧
    ∃ p, p <+: d ∧ p ≠ d ∧ σ.unitAt? root p = some name ∧ σ.owner? root a = some p

/-- The edges are those of the definition at `d`: each is a call of it, each of its calls has one,
and no call outside of it is credited to the name. -/
structure OwnEdges (edges : List CallEdge) : Prop where
  sound : ∀ callee ∈ edges.map (·.name), ∃ a, σ.OwnCall root d a callee
  complete : ∀ a callee, σ.OwnCall root d a callee → callee ∈ edges.map (·.name)
  inside : ∀ a callee, σ.Credits root name d a callee → d <+: a

/-- What the edges of a name are whose latest definition stands at `d`. -/
structure LatestEdges (edges : List CallEdge) : Prop where
  /-- They name whom the name is found to call after the definition. -/
  names : ∀ callee, callee ∈ edges.map (·.name) ↔ ∃ a, σ.Credits root name d a callee
  /-- These are the calls of the definition and the late calls around it. -/
  credits_iff : ∀ a callee, σ.Credits root name d a callee ↔
    σ.OwnCall root d a callee ∨ σ.LateCall root name d a callee
  /-- The former lie inside of the definition and the latter outside. -/
  inside : ∀ a callee, σ.OwnCall root d a callee → d <+: a
  outside : ∀ a callee, σ.LateCall root name d a callee → ¬ d <+: a
  /-- So the edges are those of the definition exactly when there are no late calls. -/
  own_iff : σ.OwnEdges root name d edges ↔ ∀ a callee, ¬ σ.LateCall root name d a callee

variable {σ root name d} {a p : Address} {callee : String}

/-! ### Calls inside and outside of the latest definition -/

/-- What lies inside a unit does not belong to a unit around it. -/
theorem not_isPrefix_of_owner?_eq (ho : σ.owner? root a = some p) (hu : (σ.unitAt? root d).isSome)
    (hp : p <+: d) (hne : p ≠ d) : ¬ d <+: a := by
  intro hd
  have hlen : p.length < d.length :=
    lt_of_le_of_ne hp.length_le fun heq => hne (hp.eq_of_length heq)
  have hnone := (owner?_eq_some_iff.1 ho).2.2 d hd hlen
  simp [hnone] at hu

theorem OwnCall.inside (h : σ.OwnCall root d a callee) : d <+: a := (owner?_eq_some_iff.1 h.2.1).1

theorem OwnCall.lt (h : σ.OwnCall root d a callee) : d < a := by
  have hne := owner?_ne_of_isSome_calleeAt? (by simp [h.2.2]) h.2.1
  exact Address.lt_of_isPrefix_of_ne h.inside hne

theorem LateCall.outside (h : σ.LateCall root name d a callee)
    (hu : (σ.unitAt? root d).isSome) : ¬ d <+: a := by
  obtain ⟨-, -, -, p, hp, hne, -, ho⟩ := h
  exact not_isPrefix_of_owner?_eq ho hu hp hne

/-- A call that is credited to a name after its latest definition is made in the definition, or in
a unit of the same name around it. -/
theorem IsLatest.credits_iff (hd : σ.IsLatest root name d) : σ.Credits root name d a callee ↔
    σ.OwnCall root d a callee ∨ σ.LateCall root name d a callee := by
  constructor
  · rintro ⟨ha, hlt, hcall⟩
    obtain ⟨hname, hcallee⟩ := mem_meaningAt_call.1 hcall
    obtain ⟨p, ho, hp⟩ := Option.bind_eq_some_iff.1 hname
    have hpa := (owner?_eq_some_iff.1 ho).1
    have hread := mem_readAddresses.2 (isRead_of_isPrefix hpa (mem_readAddresses.1 ha))
    -- the owner is read no later than `d`, so `d` lies between it and the call
    have hpd := hd.last p hread hp
    rcases eq_or_ne p d with rfl | hne
    · exact .inl ⟨ha, ho, hcallee⟩
    · exact .inr ⟨ha, hlt, hcallee, p, Address.isPrefix_of_le_of_le hpa hpd hlt.le, hne, hp, ho⟩
  · rintro (h | ⟨ha, hlt, hcallee, p, -, -, hp, ho⟩)
    · have hname : σ.ownerName? root a = some name := by
        rw [ownerName?, h.2.1, Option.bind_some, hd.unit]
      exact ⟨h.1, h.lt, mem_meaningAt_call.2 ⟨hname, h.2.2⟩⟩
    · have hname : σ.ownerName? root a = some name := by
        rw [ownerName?, ho, Option.bind_some, hp]
      exact ⟨ha, hlt, mem_meaningAt_call.2 ⟨hname, hcallee⟩⟩

/-! ### The edges of a name -/

/-- What is read splits at a node into what comes before and what comes after it. -/
theorem exists_readAddresses_eq (hd : d ∈ σ.readAddresses root) :
    ∃ before after, σ.readAddresses root = before ++ d :: after ∧
      ∀ a, a ∈ after ↔ a ∈ σ.readAddresses root ∧ d < a := by
  have hsorted := pairwise_lt_readAddresses (σ := σ) root
  obtain ⟨before, after, hsplit⟩ := List.append_of_mem hd
  rw [hsplit] at hsorted ⊢
  exact ⟨before, after, rfl, fun a => Address.mem_after_iff hsorted⟩

/-- A node that opens a unit means its definition and at most a dependency more. -/
theorem exists_meaningAt_eq_define_cons (hu : σ.unitAt? root d = some name) :
    ∃ span rest, σ.meaningAt root d = .define name span :: rest ∧
      name ∉ History.definedNames rest ∧ ∀ callee, .call name callee ∉ rest := by
  obtain ⟨n, hn, hopens⟩ := Option.bind_eq_some_iff.1 hu
  have hcallee : σ.callee? n = none := σ.callee?_of_opens n (by simp [hopens])
  refine ⟨⟨n.startRow, n.endRow⟩, (σ.dependency? n).toList.map .dependency, ?_, ?_, ?_⟩
  · simp [meaningAt, hn, meaning, hopens, hcallee]
  · simp [History.mem_definedNames]
  · simp

/-- A name that is defined at all has a latest definition. -/
theorem exists_isLatest (h : name ∈ History.definedNames (σ.events root)) :
    ∃ d, σ.IsLatest root name d := by
  obtain ⟨span, hspan⟩ := History.mem_definedNames.1 h
  obtain ⟨q, hq, hdefine⟩ := List.mem_flatMap.1 hspan
  have hunit := mem_definedNames_meaningAt.1 (History.mem_definedNames.2 ⟨span, hdefine⟩)
  -- what is read stands in order, so the last one with the name is the greatest
  have hmem : ∀ a, a ∈ (σ.readAddresses root).filter (σ.unitAt? root · = some name) ↔
      a ∈ σ.readAddresses root ∧ σ.unitAt? root a = some name := fun a => by simp
  have hsorted := (pairwise_lt_readAddresses (σ := σ) root).filter (σ.unitAt? root · = some name)
  rcases List.eq_nil_or_concat ((σ.readAddresses root).filter (σ.unitAt? root · = some name)) with
    hnil | ⟨earlier, d, hlast⟩
  · have hin := (hmem q).2 ⟨hq, hunit⟩
    rw [hnil] at hin
    cases hin
  · rw [hlast, List.concat_eq_append] at hmem hsorted
    obtain ⟨hread, hunit⟩ := (hmem d).1 (by simp)
    refine ⟨d, hread, hunit, fun q hq hqu => ?_⟩
    have hin := (hmem q).2 ⟨hq, hqu⟩
    rw [List.mem_append, List.mem_singleton] at hin
    rcases hin with hin | rfl
    · exact ((List.pairwise_append.1 hsorted).2.2 q hin d (by simp)).le
    · exact le_rfl

/-- The edges of a name, which name whom it is found to call after its latest definition. -/
theorem IsLatest.exists_callsOf? (hd : σ.IsLatest root name d) (file : String) :
    ∃ edges, (FileReport.ofEvents file (σ.events root)).callsOf? name = some edges ∧
      ∀ callee, callee ∈ edges.map (·.name) ↔ ∃ a, σ.Credits root name d a callee := by
  obtain ⟨before, after, hsplit, hafter⟩ := exists_readAddresses_eq hd.read
  obtain ⟨span, rest, hmeaning, hrest, hnocall⟩ := exists_meaningAt_eq_define_cons hd.unit
  have hevents : σ.events root = before.flatMap (σ.meaningAt root) ++
      .define name span :: (rest ++ after.flatMap (σ.meaningAt root)) := by
    rw [events, hsplit, List.flatMap_append, List.flatMap_cons, hmeaning, List.cons_append]
  have hlast : name ∉ History.definedNames (rest ++ after.flatMap (σ.meaningAt root)) := by
    rw [History.definedNames_append, List.mem_append]
    rintro (h | h)
    · exact hrest h
    · obtain ⟨span, hspan⟩ := History.mem_definedNames.1 h
      obtain ⟨q, hq, hdefine⟩ := List.mem_flatMap.1 hspan
      obtain ⟨hread, hlt⟩ := (hafter q).1 hq
      have hu := mem_definedNames_meaningAt.1 (History.mem_definedNames.2 ⟨span, hdefine⟩)
      exact absurd (hd.last q hread hu) (not_le.2 hlt)
  obtain ⟨edges, hedges, hnames⟩ := Builder.exists_callsOf?_run file _ name span _ hlast
  refine ⟨edges, by rw [FileReport.ofEvents, hevents, hedges], fun callee => ?_⟩
  rw [hnames, List.mem_append, List.mem_flatMap]
  constructor
  · rintro (h | ⟨a, ha, hcall⟩)
    · exact absurd h (hnocall callee)
    · exact ⟨a, ((hafter a).1 ha).1, ((hafter a).1 ha).2, hcall⟩
  · rintro ⟨a, ha, hlt, hcall⟩
    exact .inr ⟨a, (hafter a).2 ⟨ha, hlt⟩, hcall⟩

/-- The edges of a name and the calls of its latest definition. -/
theorem IsLatest.latestEdges (hd : σ.IsLatest root name d) {edges : List CallEdge}
    (hnames : ∀ callee, callee ∈ edges.map (·.name) ↔ ∃ a, σ.Credits root name d a callee) :
    σ.LatestEdges root name d edges where
  names := hnames
  credits_iff _ _ := hd.credits_iff
  inside _ _ h := h.inside
  outside _ _ h := h.outside (by simp [hd.unit])
  own_iff := by
    constructor
    · intro h a callee hlate
      have hinside := h.inside a callee (hd.credits_iff.2 (.inr hlate))
      exact hlate.outside (by simp [hd.unit]) hinside
    · intro hno
      have hown : ∀ {a callee}, σ.Credits root name d a callee → σ.OwnCall root d a callee :=
        fun h => (hd.credits_iff.1 h).resolve_right (hno _ _)
      refine ⟨fun callee hc => ?_, fun a callee h => ?_, fun a callee h => (hown h).inside⟩
      · obtain ⟨a, ha⟩ := (hnames callee).1 hc
        exact ⟨a, hown ha⟩
      · exact (hnames callee).2 ⟨a, hd.credits_iff.2 (.inl h)⟩

end Scoping

namespace Analysis

/-- **The calls reported for a name are those of its latest definition and the late calls around
it**, so the former alone exactly when there are none of the latter.  The names for which calls
are reported are those that have a latest definition. -/
theorem reports_latest (α : Analysis) (file : String) (root : Node) (name : String) :
    (((FileReport.ofEvents file (α.events root)).callsOf? name).isSome ↔
      ∃ d, α.scoping.IsLatest root name d) ∧
    ∀ d, α.scoping.IsLatest root name d →
      ∃ edges, (FileReport.ofEvents file (α.events root)).callsOf? name = some edges ∧
        α.scoping.LatestEdges root name d edges := by
  rw [events_eq]
  refine ⟨⟨fun h => ?_, fun ⟨d, hd⟩ => ?_⟩, fun d hd => ?_⟩
  · refine Scoping.exists_isLatest ?_
    by_contra hundefined
    rw [FileReport.ofEvents, (Builder.callsOf?_run_eq_none_iff ..).2 hundefined] at h
    cases h
  · obtain ⟨edges, hedges, -⟩ := hd.exists_callsOf? file
    rw [hedges]
    rfl
  · obtain ⟨edges, hedges, hnames⟩ := hd.exists_callsOf? file
    exact ⟨edges, hedges, hd.latestEdges hnames⟩

/-- A function `f` around another `f`, which calls `a`; the outer one calls `b` behind it. -/
def twins : Node :=
  let call (name : String) : Node :=
    { kind := "expression_statement"
      children := [{ kind := "call", children := [{ kind := "identifier", text := name }] }] }
  let define (startRow endRow : Nat) (body : List Node) : Node :=
    { kind := "function_definition", startRow, endRow
      children := [{ kind := "identifier", field := some "name", text := "f" },
        { kind := "block", field := some "body", children := body }] }
  { kind := "module", children := [define 0 3 [define 1 2 [call "a"], call "b"]] }

theorem isLatest_twins : (table .python).scoping.IsLatest twins "f" [0, 1, 0] := by
  constructor <;> decide

theorem reports_latest_twins : (table .python).scoping.IsLatest twins "f" [0, 1, 0] ∧
    ∃ edges, (FileReport.ofEvents "f.py" ((table .python).events twins)).callsOf? "f" = some edges ∧
      (table .python).scoping.LatestEdges twins "f" [0, 1, 0] edges :=
  ⟨isLatest_twins, (reports_latest (table .python) "f.py" twins "f").2 _ isLatest_twins⟩

/-- The edges of a name are not always those of its latest definition: `b` is credited to the inner
`f`. -/
theorem not_always_own : ¬ ∀ (α : Analysis) (file : String) (root : Node) (name : String)
    (d : Address) (edges : List CallEdge), α.scoping.IsLatest root name d →
      (FileReport.ofEvents file (α.events root)).callsOf? name = some edges →
      α.scoping.OwnEdges root name d edges := by
  intro h
  have hedges : (FileReport.ofEvents "f.py" ((table .python).events twins)).callsOf? "f" =
      some [⟨"a", { file := "f.py" }⟩, ⟨"b", { file := "f.py" }⟩] := by
    rw [events_eq]
    decide
  have hown := h (table .python) "f.py" twins "f" [0, 1, 0] _ isLatest_twins hedges
  have hcredits : (table .python).scoping.Credits twins "f" [0, 1, 0] [0, 1, 1, 0] "b" := by
    unfold Scoping.Credits
    decide
  exact absurd (hown.inside _ _ hcredits) (by decide)

end Analysis

end CodeSurvey
