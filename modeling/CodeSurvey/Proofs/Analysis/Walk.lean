import CodeSurvey.Analysis.Walk
import CodeSurvey.Proofs.Analysis.Scoping

/-!
# Walks that read by a scoping

The loop of a walk holds the events found so far, a memory and the nodes still to be visited.
When a scoping *describes* the visits, whatever the walk remembers, the loop keeps to the reading:
what is found, followed by what the pending trees mean, is what the whole tree means.

* `Scoping.Describes.events_eq` : the walk finds exactly the events of the reading;
* `Scoping.Guides.follows` : in every round its loop takes the next node that is read, and it ends
  after as many rounds as there are such nodes; for this the scoping need only tell where the walk
  goes;
* `Walk.eventsFrom_cons` : what a walk finds in pending trees, from visit to visit.
-/

namespace CodeSurvey

/-! ### The rounds of a walk -/

namespace Walk

variable {Memory : Type} (w : Walk Memory)

/-- What the loop of a walk holds between two rounds. -/
structure Stage (Memory : Type) where
  /-- The events so far, latest first. -/
  found : List Event
  memory : Memory
  /-- The nodes still to be visited. -/
  pending : List (Node × Option String)

/-- One round of the loop: the first pending node is visited. -/
def round : Stage Memory → Stage Memory
  | ⟨found, memory, []⟩ => ⟨found, memory, []⟩
  | ⟨found, memory, (n, unit) :: rest⟩ =>
    let v := w.visit memory n unit
    ⟨v.1.events.reverse ++ found, v.2, v.1.pending ++ rest⟩

/-- The loop over a tree after some rounds. -/
def stage (memory : Memory) (root : Node) : Nat → Stage Memory
  | 0 => ⟨[], memory, [(root, none)]⟩
  | k + 1 => w.round (stage memory root k)

theorem loop_round (s : Stage Memory) :
    w.loop (w.round s).found (w.round s).memory (w.round s).pending =
      w.loop s.found s.memory s.pending := by
  obtain ⟨found, memory, _ | ⟨⟨n, unit⟩, rest⟩⟩ := s
  · rfl
  · rw [round, loop]

theorem loop_stage (memory : Memory) (root : Node) (k : Nat) :
    w.loop (w.stage memory root k).found (w.stage memory root k).memory
      (w.stage memory root k).pending = w.events memory root := by
  induction k with
  | zero => rfl
  | succ k ih => rw [stage, loop_round, ih]

/-- The loop over a tree takes the nodes at these addresses, one in each round, and then ends with
what it has found. -/
structure Follows (memory : Memory) (root : Node) (order : List Address) : Prop where
  next : ∀ k, (w.stage memory root k).pending.head?.map (·.1) = order[k]?.bind root.descendant?
  ends : ∀ k, (w.stage memory root k).pending = [] ↔ order.length ≤ k
  result : ∀ k, order.length ≤ k → w.events memory root = (w.stage memory root k).found.reverse

/-- When nothing is pending, the loop has found the events. -/
theorem events_eq_found {memory : Memory} {root : Node} {k : Nat}
    (h : (w.stage memory root k).pending = []) :
    w.events memory root = (w.stage memory root k).found.reverse := by
  rw [← loop_stage w memory root k, h, loop]

/-! ### Pending trees -/

/-- What was found earlier stands in front of what the loop finds. -/
theorem loop_append (found earlier : List Event) (memory : Memory)
    (pending : List (Node × Option String)) :
    w.loop (found ++ earlier) memory pending = earlier.reverse ++ w.loop found memory pending := by
  fun_induction w.loop found memory pending with
  | case1 => simp [loop]
  | case2 found memory n unit rest v ih =>
    simp only [List.unattach_reverse, List.unattach_attach] at ih
    rw [loop, ← List.append_assoc]
    exact ih

/-- The events of pending trees. -/
def eventsFrom (memory : Memory) (pending : List (Node × Option String)) : List Event :=
  w.loop [] memory pending

@[simp] theorem eventsFrom_nil (memory : Memory) : w.eventsFrom memory [] = [] := by
  rw [eventsFrom, loop, List.reverse_nil]

/-- The first pending tree is visited, and then what the visit puts in its place. -/
theorem eventsFrom_cons (memory : Memory) (n : Node) (unit : Option String)
    (rest : List (Node × Option String)) :
    w.eventsFrom memory ((n, unit) :: rest) =
      (w.visit memory n unit).1.events ++
        w.eventsFrom (w.visit memory n unit).2 ((w.visit memory n unit).1.pending ++ rest) := by
  have hloop := w.loop_append [] (w.visit memory n unit).1.events.reverse
    (w.visit memory n unit).2 ((w.visit memory n unit).1.pending ++ rest)
  rw [List.nil_append, List.reverse_reverse] at hloop
  rw [eventsFrom, loop, List.append_nil]
  exact hloop

end Walk

namespace Scoping

variable {σ : Scoping} {Memory : Type} {w : Walk Memory}

variable (σ) in
/-- The scoping tells what each visit of the walk yields, whatever the walk remembers. -/
def Describes (w : Walk Memory) : Prop := ∀ memory n around,
  (w.visit memory n around).1 =
    ⟨σ.meaning n ((σ.opens? n).or around), σ.below n, (σ.opens? n).or around⟩

/-- The invariant of the loop: what is found, then what the pending trees mean. -/
theorem Describes.loop_eq (hw : σ.Describes w) (found : List Event) (memory : Memory)
    (pending : List (Node × Option String)) :
    w.loop found memory pending =
      found.reverse ++ pending.flatMap fun p => σ.eventsIn p.1 p.2 := by
  fun_induction w.loop found memory pending with
  | case1 => simp
  | case2 found memory n around rest v ih =>
    have hv : v.1 = _ := hw memory n around
    -- the loop ends because of a bound on the pending trees, which has left its marks on `ih`
    simp only [List.unattach_reverse, List.unattach_attach] at ih
    rw [ih, hv, Visit.pending, List.flatMap_append, List.flatMap_map, List.reverse_append,
      List.reverse_reverse, List.flatMap_cons, eventsIn_eq]
    simp only [List.append_assoc]

/-- **A walk that a scoping describes finds what the scoping reads.** -/
theorem Describes.events_eq (hw : σ.Describes w) (memory : Memory) (root : Node) :
    w.events memory root = σ.events root := by
  rw [Walk.events, hw.loop_eq, List.reverse_nil, List.nil_append, List.flatMap_singleton,
    eventsIn_none]

variable (σ) in
/-- The nodes that pending trees still bring up. -/
def toRead (pending : List (Node × Option String)) : List (Option Node) :=
  pending.flatMap fun p => (σ.readAddresses p.1).map p.1.descendant?

variable (σ) in
/-- The scoping tells where the walk goes from each node, whatever the walk remembers. -/
def Guides (w : Walk Memory) : Prop :=
  ∀ memory n around, (w.visit memory n around).1.below = σ.below n

theorem Describes.guides (hw : σ.Describes w) : σ.Guides w := fun memory n around => by rw [hw]

/-- A round brings up one node. -/
theorem Guides.toRead_round (hw : σ.Guides w) (s : Walk.Stage Memory) :
    σ.toRead (w.round s).pending = (σ.toRead s.pending).tail := by
  obtain ⟨found, memory, _ | ⟨⟨n, around⟩, rest⟩⟩ := s
  · rfl
  · rw [Walk.round, toRead, toRead, Visit.pending, List.flatMap_append, List.flatMap_map, hw,
      List.flatMap_cons, map_descendant?_readAddresses]
    rfl

theorem Guides.toRead_stage (hw : σ.Guides w) (memory : Memory) (root : Node) (k : Nat) :
    σ.toRead (w.stage memory root k).pending =
      ((σ.readAddresses root).map root.descendant?).drop k := by
  induction k with
  | zero => simp [Walk.stage, toRead]
  | succ k ih => rw [Walk.stage, hw.toRead_round, ih, List.tail_drop]

theorem head?_toRead (pending : List (Node × Option String)) :
    (σ.toRead pending).head? = pending.head?.map fun p => some p.1 := by
  cases pending with
  | nil => rfl
  | cons p rest =>
    rw [toRead, List.flatMap_cons, map_descendant?_readAddresses]
    rfl

/-- **The loop takes the nodes that are read in pre-order**, one in each round. -/
theorem Guides.follows (hw : σ.Guides w) (memory : Memory) (root : Node) :
    w.Follows memory root (σ.readAddresses root) := by
  have hhead : ∀ k, (w.stage memory root k).pending.head?.map (fun p => some p.1) =
      (σ.readAddresses root)[k]?.map root.descendant? := fun k => by
    rw [← head?_toRead, hw.toRead_stage, List.head?_drop, List.getElem?_map]
  have hends : ∀ k, (w.stage memory root k).pending = [] ↔ (σ.readAddresses root).length ≤ k := by
    intro k
    rw [← List.head?_eq_none_iff, ← List.getElem?_eq_none_iff, ← Option.map_eq_none_iff, hhead k,
      Option.map_eq_none_iff]
  refine ⟨fun k => ?_, hends, fun k hk => w.events_eq_found ((hends k).2 hk)⟩
  have h := hhead k
  cases ha : (σ.readAddresses root)[k]? with
  | none => simpa [ha] using h
  | some a =>
    rw [ha] at h
    cases hp : (w.stage memory root k).pending.head? with
    | none => simp [hp] at h
    | some p => simpa [hp] using h

theorem Describes.follows (hw : σ.Describes w) (memory : Memory) (root : Node) :
    w.Follows memory root (σ.readAddresses root) := hw.guides.follows memory root

end Scoping

end CodeSurvey
