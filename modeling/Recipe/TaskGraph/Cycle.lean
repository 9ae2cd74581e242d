import Recipe.TaskGraph.Basic
import Recipe.Unseen

/-!
# Cycles

Whether the needs of a task graph have a cycle, and which cycle is reported when there are
several. Tasks that can reach each other form a component. The components with a cycle are taken
in the order in which a depth-first walk over the whole graph leaves them, and the cycle reported
is in the first of them: it starts at the component's earliest task.
-/

set_option autoImplicit false

namespace Recipe.TaskGraph

/-! ## Depth-first walks -/

/-- A step that a walk has still to take. -/
inductive Visit
  | enter (index : Nat)
  | leave (index : Nat)

/-- The positions in the order in which a depth-first walk leaves them, after those in `left`, last
first. Of the tasks that need a task, the one whose edge came last is entered first. -/
def walk (graph : TaskGraph) (visits : List Visit) (seen left : List Nat) : List Nat :=
  match visits with
  | [] => left.reverse
  | .leave index :: rest => graph.walk rest seen (index :: left)
  | .enter index :: rest =>
      if h : index ∈ seen ∨ graph.size ≤ index then graph.walk rest seen left
      else
        have : unseen graph.indices (index :: seen) < unseen graph.indices seen := by
          rw [not_or, Nat.not_le] at h
          exact unseen_cons_lt (List.mem_range.mpr h.2) h.1
        graph.walk ((graph.successors index).reverse.map .enter ++ .leave index :: rest)
          (index :: seen) left
termination_by (unseen graph.indices seen, visits.length)
decreasing_by
  · exact Prod.Lex.right _ (by simp)
  · exact Prod.Lex.right _ (by simp)
  · exact Prod.Lex.left _ _ this

/-- All positions in the order in which a depth-first walk leaves them, where the walk starts anew
from the earliest task it has not seen. -/
def finishOrder (graph : TaskGraph) : List Nat := graph.walk (graph.indices.map .enter) [] []

/-- The positions that can be reached from some others, those included. -/
def reachable (graph : TaskGraph) (starts : List Nat) : List Nat :=
  graph.walk (starts.map .enter) [] []

/-! ## Components -/

/-- The graph with every edge turned round. -/
def reversed (graph : TaskGraph) : TaskGraph :=
  { graph with edges := graph.edges.map Prod.swap }

/-- The tasks that can reach a task and be reached from it, in the order of their positions. -/
def component (graph : TaskGraph) (index : Nat) : List Nat :=
  let after := graph.reachable [index]
  let before := graph.reversed.reachable [index]
  graph.indices.filter fun other => after.contains other && before.contains other

/-- The tasks with an edge from a task that the walk leaves no later, in the order in which the
walk leaves them. The places in that order cannot go down all along a cycle, so that each cycle
has such a task. -/
def suspects (graph : TaskGraph) : List Nat :=
  let order := graph.finishOrder
  let targets := graph.edges.filterMap fun (start, stop) =>
    if order.idxOf start ≤ order.idxOf stop then some stop else none
  order.filter targets.contains

/-- The components with a suspect, each once, in the order in which their last suspects are left. -/
def components (graph : TaskGraph) : List (List Nat) :=
  graph.suspects.foldr (fun index found =>
    if found.any (·.contains index) then found else graph.component index :: found) []

/-! ## The cycle of a component -/

/-- The members of a component that need the task at a position, earliest first. -/
def successorsIn (graph : TaskGraph) (members : List Nat) (index : Nat) : List Nat :=
  let successors := graph.successors index
  members.filter successors.contains

/-- The tasks on the path of a search with the tasks that each has still to try. -/
abbrev Trail := List (Nat × List Nat)

/-- The tasks that are still to be tried, and the length of the path. -/
def load : Trail → Nat
  | [] => 0
  | (_, others) :: rest => others.length + 1 + load rest

/-- The path of a search that came back to `start`: each task on the path tries the tasks that need
it in turn, and no task is tried twice. -/
def pathBack? (graph : TaskGraph) (members : List Nat) (start : Nat) (trail : Trail)
    (visited : List Nat) : Option (List Nat) :=
  match trail with
  | [] => none
  | (_, []) :: rest => graph.pathBack? members start rest visited
  | (index, next :: others) :: rest =>
      if next = start then some (((index :: rest.map Prod.fst).reverse) ++ [start])
      else if h : next ∈ visited ∨ next ∉ members then
        graph.pathBack? members start ((index, others) :: rest) visited
      else
        have : unseen members (next :: visited) < unseen members visited := by
          rw [not_or, Decidable.not_not] at h
          exact unseen_cons_lt h.2 h.1
        graph.pathBack? members start
          ((next, graph.successorsIn members next) :: (index, others) :: rest) (next :: visited)
termination_by (unseen members visited, load trail)
decreasing_by
  · exact Prod.Lex.right _ (by simp [load])
  · exact Prod.Lex.right _ (by simp [load])
  · exact Prod.Lex.left _ _ this

/-- The cycle of a component through its earliest task. -/
def cycleIn? (graph : TaskGraph) (members : List Nat) : Option (List Nat) :=
  match members with
  | [] => none
  | start :: _ =>
      graph.pathBack? members start [(start, graph.successorsIn members start)] [start]

/-- The positions of the cycle that is reported, if the graph has any. -/
def cycle? (graph : TaskGraph) : Option (List Nat) := graph.components.findSome? graph.cycleIn?

/-- The tasks of the cycle that is reported, if the graph has any. -/
def findCycle? (graph : TaskGraph) : Option (List String) :=
  graph.cycle?.map (·.map graph.nameAt)

end Recipe.TaskGraph
