import Recipe.TaskGraph.Cycle

/-!
# Execution order and levels

The order in which the tasks of a graph are run: of the tasks whose needs have all been run, the
earliest comes next. Tasks on one level do not need each other and may run at the same time.
-/

set_option autoImplicit false

namespace Recipe.TaskGraph

/-! ## Releasing tasks -/

/-- The state of an ordering: for each task the number of needs that have not been run, the tasks
that have none left, earliest first, and the tasks that have been run, last first. -/
structure Schedule where
  degrees : List Nat
  ready : List Nat
  done : List Nat
deriving DecidableEq

namespace Schedule

def insertAscending (index : Nat) : List Nat → List Nat
  | [] => [index]
  | other :: rest =>
      if index < other then index :: other :: rest
      else if index = other then other :: rest
      else other :: insertAscending index rest

/-- The state before any task has been run. -/
def start (graph : TaskGraph) : Schedule :=
  { degrees := graph.indices.map graph.degree
    ready := graph.indices.filter fun index => graph.degree index == 0
    done := [] }

/-- The state after one need of a task has been run. -/
def release (schedule : Schedule) (index : Nat) : Schedule :=
  match schedule.degrees[index]? with
  | none => schedule
  | some degree =>
      { schedule with
        degrees := schedule.degrees.set index (degree - 1)
        ready :=
          if degree - 1 = 0 then insertAscending index schedule.ready else schedule.ready }

/-- The state after the earliest ready task has been run, or nothing if no task is ready. -/
def step? (graph : TaskGraph) (schedule : Schedule) : Option Schedule :=
  match schedule.ready with
  | [] => none
  | index :: rest =>
      some ((graph.successors index).foldl release
        { schedule with ready := rest, done := index :: schedule.done })

/-- The state after a number of steps, or after as many as there are tasks for. -/
def run (graph : TaskGraph) : Nat → Schedule → Schedule
  | 0, schedule => schedule
  | steps + 1, schedule =>
      match schedule.step? graph with
      | none => schedule
      | some next => run graph steps next

end Schedule

/-! ## Order -/

/-- The positions of the tasks in the order in which they are released. Each step runs one task, so
that as many steps as tasks are enough. -/
def releaseOrder (graph : TaskGraph) : List Nat :=
  (Schedule.run graph graph.size (Schedule.start graph)).done.reverse

/-- The tasks in the order in which they are run. -/
def order (graph : TaskGraph) : Except TaskGraphError (List Node) :=
  match graph.findCycle? with
  | some path => throw (.cycleDetected path)
  | none => pure (graph.releaseOrder.filterMap (graph.nodes[·]?))

/-! ## Levels -/

/-- The levels with a task on one of them; levels that are missing in between are empty. -/
def placeAt (node : Node) : Nat → List (List Node) → List (List Node)
  | 0, [] => [[node]]
  | 0, level :: rest => (level ++ [node]) :: rest
  | index + 1, [] => [] :: placeAt node index []
  | index + 1, level :: rest => level :: placeAt node index rest

/-- The level of a task: above all those of its needs that are known. -/
def levelOf (known : List (String × Nat)) (node : Node) : Nat :=
  ((node.needs.filterMap (List.lookup · known)).map (· + 1)).foldl max 0

/-- The levels of tasks that are given in an order in which they can be run, after tasks whose
levels are `known`. -/
def levelsFrom (known : List (String × Nat)) (levels : List (List Node)) :
    List Node → List (List Node)
  | [] => levels
  | node :: rest =>
      let level := levelOf known node
      levelsFrom ((node.name, level) :: known) (placeAt node level levels) rest

/-- The tasks by level: a task that needs none is on the first, and any other on the level after the
last of those it needs. -/
def levels (graph : TaskGraph) : Except TaskGraphError (List (List Node)) :=
  levelsFrom [] [] <$> graph.order

end Recipe.TaskGraph
