/-!
# Pools

A pool works on several tasks at a time and finishes them in an order of its own.  `Pool.gather`
hands the outcomes over in the order in which the tasks were submitted.
-/

namespace CodeSurvey

namespace Pool

/-- The outcomes in the order in which the tasks are finished, each with the number of its
task. -/
def finish {α β : Type} (work : α → β) (tasks : List α) (order : List Nat) : List (Nat × β) :=
  order.filterMap fun i => tasks[i]?.map fun task => (i, work task)

/-- The outcomes of the tasks in the order of their numbers. -/
def gather {β : Type} (count : Nat) (finished : List (Nat × β)) : List β :=
  (List.range count).filterMap fun i => List.lookup i finished

end Pool

end CodeSurvey
