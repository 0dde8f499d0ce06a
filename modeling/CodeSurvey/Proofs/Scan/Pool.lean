import CodeSurvey.Proofs.Scan.Report
import Mathlib.Algebra.GroupWithZero.Nat
import Mathlib.Algebra.Order.BigOperators.Group.List
import Mathlib.Logic.Relation
import Mathlib.Order.WellFounded

/-!
# What happens in a pool

A pool has a number of workers.  A worker that is free starts any task that is pending, and
finishes it at any time; meanwhile the caller takes the outcomes in the order in which the tasks
were submitted, and waits where the next one is not there yet.  When it comes to an error, it
cancels the tasks that are still pending and stops.  `Pool.Step` says what may happen next, so a
run of the pool is a sequence of steps, and all orders in which tasks are started and finished are
runs.

* `Pool.Invariant.outcome_eq` : when the pool is done, its caller has what it would have had from
  the tasks one after the other;
* `Pool.Invariant.ended_or_step` : the pool gets stuck nowhere before;
* `Pool.wellFounded_step` : it does not go on for ever.
-/

namespace CodeSurvey

/-! ### Results up to the first error -/

/-- The first error ends a sequence of computations. -/
theorem mapM_eq_error_iff {α β ε : Type} {f : α → Except ε β} {l : List α} {e : ε} :
    l.mapM f = .error e ↔ ∃ values : List β, values.map .ok ++ [.error e] <+: l.map f := by
  induction l with
  | nil => simp [pure, Except.pure]
  | cons a l ih =>
    rw [List.mapM_cons, List.map_cons]
    cases hf : f a with
    | error e' =>
      constructor
      · rintro ⟨⟩
        exact ⟨[], by simp⟩
      · rintro ⟨values, hvalues⟩
        cases values with
        | nil =>
          obtain ⟨⟨⟩, -⟩ := List.cons_prefix_cons.1 hvalues
          rfl
        | cons b values =>
          obtain ⟨⟨⟩, -⟩ := List.cons_prefix_cons.1 hvalues
    | ok b =>
      have hrest : (do let bs ← l.mapM f; pure (b :: bs) : Except ε (List β)) = .error e ↔
          l.mapM f = .error e := by
        cases l.mapM f <;> simp [bind, Except.bind, pure, Except.pure]
      refine hrest.trans (ih.trans ⟨?_, ?_⟩)
      · rintro ⟨values, hvalues⟩
        exact ⟨b :: values, List.cons_prefix_cons.2 ⟨rfl, hvalues⟩⟩
      · rintro ⟨values, hvalues⟩
        cases values with
        | nil =>
          obtain ⟨⟨⟩, -⟩ := List.cons_prefix_cons.1 hvalues
        | cons b' values => exact ⟨values, (List.cons_prefix_cons.1 hvalues).2⟩

/-- The error is that of the first computation that has one. -/
theorem mapM_eq_error_iff_exists {α β ε : Type} {f : α → Except ε β} {l : List α} {e : ε} :
    l.mapM f = .error e ↔ ∃ before a after, l = before ++ a :: after ∧
      (∀ b ∈ before, ∃ value, f b = .ok value) ∧ f a = .error e := by
  rw [mapM_eq_error_iff]
  constructor
  · rintro ⟨values, rest, hvalues⟩
    rw [List.append_assoc, eq_comm, List.map_eq_append_iff] at hvalues
    obtain ⟨before, tail, rfl, hbefore, htail⟩ := hvalues
    obtain ⟨a, after, rfl, ha, -⟩ := List.map_eq_cons_iff.1 htail
    refine ⟨before, a, after, rfl, fun b hb => ?_, ha⟩
    have hvalue : f b ∈ values.map .ok := hbefore ▸ List.mem_map_of_mem hb
    obtain ⟨value, -, hvalue⟩ := List.mem_map.1 hvalue
    exact ⟨value, hvalue.symm⟩
  · rintro ⟨before, a, after, rfl, hbefore, ha⟩
    obtain ⟨values, hvalues⟩ := exists_mapM_eq_ok hbefore
    refine ⟨values, after.map f, ?_⟩
    rw [List.map_append, List.map_cons, ha, mapM_eq_ok_iff.1 hvalues, List.append_assoc]
    rfl

theorem prefix_concat_of_getElem? {α : Type} {l l' : List α} {a : α} (h : l <+: l')
    (ha : l'[l.length]? = some a) : l ++ [a] <+: l' := by
  obtain ⟨rest, rfl⟩ := h
  rw [List.getElem?_append_right (le_refl _), Nat.sub_self] at ha
  cases rest with
  | nil => cases ha
  | cons b rest =>
    obtain rfl : b = a := by simpa using ha
    exact ⟨rest, by simp⟩

namespace Pool

/-- What has become of a task. -/
inductive Future (α β : Type) where
  | pending (task : α)
  | running (task : α)
  | cancelled (task : α)
  | finished (outcome : β)

namespace Future

variable {α β : Type}

def isRunning : Future α β → Bool
  | running _ => true
  | _ => false

def isCancelled : Future α β → Bool
  | cancelled _ => true
  | _ => false

/-- Nothing happens to the task any more. -/
def isSettled : Future α β → Bool
  | cancelled _ | finished _ => true
  | _ => false

/-- A task that has been started is not cancelled. -/
def cancel : Future α β → Future α β
  | pending task => cancelled task
  | future => future

/-- The outcome of the task, whether or not it is there. -/
def worth (work : α → β) : Future α β → β
  | pending task | running task | cancelled task => work task
  | finished outcome => outcome

/-- How often something may still happen to the task. -/
def stepsAhead : Future α β → Nat
  | pending _ => 2
  | running _ => 1
  | _ => 0

@[simp] theorem worth_cancel (work : α → β) (future : Future α β) :
    future.cancel.worth work = future.worth work := by
  cases future <;> rfl

@[simp] theorem isRunning_cancel (future : Future α β) :
    future.cancel.isRunning = future.isRunning := by
  cases future <;> rfl

theorem stepsAhead_cancel_le (future : Future α β) :
    future.cancel.stepsAhead ≤ future.stepsAhead := by
  cases future <;> simp [cancel, stepsAhead]

end Future

variable {α ε γ : Type} {workers : Nat} {work : α → Except ε γ} {tasks : List α}

/-- A pool, and how far its caller has come. -/
structure State (α ε γ : Type) where
  /-- The tasks in the order in which they were submitted. -/
  futures : List (Future α (Except ε γ))
  /-- The results that the caller has taken. -/
  taken : List γ := []
  /-- The error at which the caller has stopped. -/
  failure : Option ε := none

namespace State

variable {s : State α ε γ}

/-- The tasks have been submitted. -/
def submitted (tasks : List α) : State α ε γ := ⟨tasks.map .pending, [], none⟩

/-- The caller has got everything, or an error, and no task is left to work on. -/
structure Ended (s : State α ε γ) : Prop where
  settled : ∀ future ∈ s.futures, future.isSettled = true
  complete : s.failure = none → s.taken.length = s.futures.length

/-- What the caller has got. -/
def outcome (s : State α ε γ) : Except ε (List γ) :=
  match s.failure with
  | none => .ok s.taken
  | some e => .error e

/-- How often something may still happen. -/
def stepsAhead (s : State α ε γ) : Nat :=
  (s.futures.map Future.stepsAhead).sum + (s.futures.length - s.taken.length) +
    if s.failure.isNone then 1 else 0

end State

/-- What may happen next in a pool. -/
inductive Step (workers : Nat) (work : α → Except ε γ) : State α ε γ → State α ε γ → Prop
  | start {before after : List (Future α (Except ε γ))} {task : α} {taken : List γ}
      {failure : Option ε}
      (hfree : (before ++ .pending task :: after).countP Future.isRunning < workers) :
      Step workers work ⟨before ++ .pending task :: after, taken, failure⟩
        ⟨before ++ .running task :: after, taken, failure⟩
  | finish {before after : List (Future α (Except ε γ))} {task : α} {taken : List γ}
      {failure : Option ε} :
      Step workers work ⟨before ++ .running task :: after, taken, failure⟩
        ⟨before ++ .finished (work task) :: after, taken, failure⟩
  | take {futures : List (Future α (Except ε γ))} {taken : List γ} {value : γ}
      (hnext : futures[taken.length]? = some (.finished (.ok value))) :
      Step workers work ⟨futures, taken, none⟩ ⟨futures, taken ++ [value], none⟩
  | stop {futures : List (Future α (Except ε γ))} {taken : List γ} {e : ε}
      (hnext : futures[taken.length]? = some (.finished (.error e))) :
      Step workers work ⟨futures, taken, none⟩ ⟨futures.map Future.cancel, taken, some e⟩

/-- The states that a pool comes to after the tasks have been submitted. -/
def Reachable (workers : Nat) (work : α → Except ε γ) (tasks : List α) (s : State α ε γ) : Prop :=
  Relation.ReflTransGen (Step workers work) (.submitted tasks) s

/-! ### What the caller gets -/

/-- What holds of a pool at any time. -/
structure Invariant (workers : Nat) (work : α → Except ε γ) (tasks : List α) (s : State α ε γ) :
    Prop where
  /-- Every task keeps its place. -/
  worth : s.futures.map (Future.worth work) = tasks.map work
  workers : s.futures.countP Future.isRunning ≤ workers
  taken : s.taken.map .ok <+: tasks.map work
  /-- The caller has stopped at the first error. -/
  failure : ∀ e ∈ s.failure, s.taken.map .ok ++ [.error e] <+: tasks.map work
  cancelled : s.failure = none → ∀ future ∈ s.futures, future.isCancelled = false

theorem invariant_submitted : Invariant workers work tasks (.submitted tasks) where
  worth := by simp [State.submitted, Function.comp_def, Future.worth]
  workers := by
    rw [State.submitted, List.countP_map]
    simp [Function.comp_def, Future.isRunning]
  taken := List.nil_prefix
  failure _ he := by cases he
  cancelled _ future hfuture := by
    obtain ⟨task, -, rfl⟩ := List.mem_map.1 hfuture
    rfl

namespace Invariant

variable {s t : State α ε γ}

theorem next (h : Invariant workers work tasks s) {outcome : Except ε γ}
    (hnext : s.futures[s.taken.length]? = some (.finished outcome)) :
    s.taken.map .ok ++ [outcome] <+: tasks.map work := by
  refine prefix_concat_of_getElem? h.taken ?_
  rw [← h.worth, List.length_map, List.getElem?_map, hnext]
  rfl

/-- Something happens to one task. -/
theorem replace {before after : List (Future α (Except ε γ))} {old new : Future α (Except ε γ)}
    {taken : List γ} {failure : Option ε}
    (h : Invariant workers work tasks ⟨before ++ old :: after, taken, failure⟩)
    (hworth : new.worth work = old.worth work) (hcancelled : new.isCancelled = false)
    (hworkers : (before ++ new :: after).countP Future.isRunning ≤ workers) :
    Invariant workers work tasks ⟨before ++ new :: after, taken, failure⟩ where
  worth := by
    rw [← h.worth]
    simp [hworth]
  workers := hworkers
  taken := h.taken
  failure := h.failure
  cancelled hnone := by
    have hall := h.cancelled hnone
    simp only [List.forall_mem_append, List.forall_mem_cons] at hall ⊢
    exact ⟨hall.1, hcancelled, hall.2.2⟩

theorem step (h : Invariant workers work tasks s) (hstep : Step workers work s t) :
    Invariant workers work tasks t := by
  cases hstep with
  | start hfree =>
    refine h.replace rfl rfl ?_
    simp only [List.countP_append, List.countP_cons, Future.isRunning, Bool.false_eq_true, if_false,
      if_true] at hfree ⊢
    omega
  | finish =>
    have hworkers := h.workers
    refine h.replace rfl rfl ?_
    simp only [List.countP_append, List.countP_cons, Future.isRunning, Bool.false_eq_true, if_false,
      if_true] at hworkers ⊢
    omega
  | take hnext =>
    have htaken := h.next hnext
    refine ⟨h.worth, h.workers, by simpa using htaken, ?_, h.cancelled⟩
    rintro _ ⟨⟩
  | stop hnext =>
    have hfailure := h.next hnext
    refine ⟨?_, ?_, h.taken, ?_, fun hnone => by cases hnone⟩
    · simpa [Function.comp_def] using h.worth
    · rw [List.countP_map]
      simpa [Function.comp_def] using h.workers
    · rintro _ ⟨⟩
      exact hfailure

/-- When the pool is done, its caller has what the tasks give one after the other. -/
theorem outcome_eq (h : Invariant workers work tasks s) (hended : s.Ended) :
    s.outcome = tasks.mapM work := by
  obtain ⟨futures, taken, failure⟩ := s
  cases failure with
  | some e => exact (mapM_eq_error_iff.2 ⟨taken, h.failure e rfl⟩).symm
  | none =>
    have hlength : (taken.map Except.ok : List (Except ε γ)).length = (tasks.map work).length := by
      rw [← h.worth, List.length_map, List.length_map]
      exact hended.complete rfl
    exact (mapM_eq_ok_iff.2 (h.taken.eq_of_length hlength).symm).symm

/-- A pool that is not done can go on. -/
theorem ended_or_step (h : Invariant workers work tasks s) (hworkers : 0 < workers) :
    s.Ended ∨ ∃ t, Step workers work s t := by
  obtain ⟨futures, taken, failure⟩ := s
  by_cases hrunning : ∃ task, Future.running task ∈ futures
  · obtain ⟨task, htask⟩ := hrunning
    obtain ⟨before, after, rfl⟩ := List.append_of_mem htask
    exact .inr ⟨_, .finish⟩
  by_cases hpending : ∃ task, Future.pending task ∈ futures
  · obtain ⟨task, htask⟩ := hpending
    have hfree : futures.countP Future.isRunning = 0 := by
      rw [List.countP_eq_zero]
      intro future hfuture
      cases future with
      | running task => exact absurd ⟨task, hfuture⟩ hrunning
      | _ => simp [Future.isRunning]
    obtain ⟨before, after, rfl⟩ := List.append_of_mem htask
    exact .inr ⟨_, .start (hfree ▸ hworkers)⟩
  have hsettled : ∀ future ∈ futures, future.isSettled = true := by
    intro future hfuture
    cases future with
    | running task => exact absurd ⟨task, hfuture⟩ hrunning
    | pending task => exact absurd ⟨task, hfuture⟩ hpending
    | _ => rfl
  cases failure with
  | some e => exact .inl ⟨hsettled, fun hnone => by cases hnone⟩
  | none =>
    rcases lt_or_ge taken.length futures.length with hlt | hge
    · -- the next task has been worked on, since nothing has been cancelled
      have hnext := List.getElem?_eq_getElem hlt
      have hmem := List.getElem_mem hlt
      generalize futures[taken.length] = future at hnext hmem
      cases future with
      | running task => exact absurd ⟨task, hmem⟩ hrunning
      | pending task => exact absurd ⟨task, hmem⟩ hpending
      | cancelled task => exact absurd (h.cancelled rfl _ hmem) (by simp [Future.isCancelled])
      | finished outcome =>
        cases outcome with
        | ok value => exact .inr ⟨_, .take hnext⟩
        | error e => exact .inr ⟨_, .stop hnext⟩
    · refine .inl ⟨hsettled, fun _ => le_antisymm ?_ hge⟩
      have hle := h.taken.length_le
      rwa [← h.worth, List.length_map, List.length_map] at hle

end Invariant

theorem Reachable.invariant {s : State α ε γ} (h : Reachable workers work tasks s) :
    Invariant workers work tasks s := by
  induction h with
  | refl => exact invariant_submitted
  | tail _ hstep ih => exact ih.step hstep

/-! ### The end of a run -/

theorem stepsAhead_lt_of_step {s t : State α ε γ} (h : Step workers work s t) :
    t.stepsAhead < s.stepsAhead := by
  cases h with
  | start => simp [State.stepsAhead, Future.stepsAhead]
  | finish => simp [State.stepsAhead, Future.stepsAhead]
  | @take futures taken value hnext =>
    have hlt := (List.getElem?_eq_some_iff.1 hnext).1
    simp only [State.stepsAhead, List.length_append, List.length_singleton]
    omega
  | @stop futures taken e hnext =>
    have hle : ((futures.map Future.cancel).map Future.stepsAhead).sum ≤
        (futures.map Future.stepsAhead).sum := by
      rw [List.map_map]
      exact List.sum_le_sum fun future _ => future.stepsAhead_cancel_le
    simp only [State.stepsAhead, List.length_map, Option.isNone_none, Option.isNone_some,
      Bool.false_eq_true, if_true, if_false]
    omega

/-- No pool goes on for ever. -/
theorem wellFounded_step : WellFounded fun t s : State α ε γ => Step workers work s t :=
  Subrelation.wf stepsAhead_lt_of_step (measure State.stepsAhead).wf

end Pool

end CodeSurvey
