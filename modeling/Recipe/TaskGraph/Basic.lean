import Recipe.Distinct

/-!
# Task graphs

The tasks of a graph with the names of the tasks they need, and the edges from needed tasks to the
tasks that need them. Tasks are known by their position, the order in which they were added; edges
are kept in the order in which they were added, each of them once.
-/

set_option autoImplicit false

namespace Recipe

/-- What is wrong with a task graph. -/
inductive TaskGraphError
  | cycleDetected (path : List String)
  | duplicateTask (name : String)
  | missingDependencies (missing : List (String × String))
deriving DecidableEq

/-- A task with the names of the tasks that it needs. -/
structure TaskGraph.Node where
  name : String
  needs : List String
deriving DecidableEq

/-- Tasks in the order in which they were added, and edges from needed tasks to those that need
them. -/
structure TaskGraph where
  nodes : List TaskGraph.Node := []
  edges : List (Nat × Nat) := []
deriving DecidableEq

namespace TaskGraph

/-! ## Adding tasks and edges -/

def size (graph : TaskGraph) : Nat := graph.nodes.length

def indices (graph : TaskGraph) : List Nat := List.range graph.size

def index? (graph : TaskGraph) (name : String) : Option Nat :=
  graph.nodes.findIdx? (·.name == name)

def nameAt (graph : TaskGraph) (index : Nat) : String :=
  (graph.nodes[index]?.map Node.name).getD ""

/-- The graph with one more task, which has no edges yet. -/
def addTask (graph : TaskGraph) (node : Node) : Except TaskGraphError TaskGraph :=
  if (graph.index? node.name).isSome then throw (.duplicateTask node.name)
  else pure { graph with nodes := graph.nodes ++ [node] }

/-- The needs that name no task, each with the task that has it. -/
def missing (graph : TaskGraph) : List (String × String) :=
  graph.nodes.flatMap fun node =>
    (node.needs.filter fun need => (graph.index? need).isNone).map (node.name, ·)

/-- The edges that the needs of the tasks ask for. -/
def wantedEdges (graph : TaskGraph) : List (Nat × Nat) :=
  graph.nodes.zipIdx.flatMap fun (node, index) =>
    (node.needs.filterMap graph.index?).map (·, index)

/-- The graph with an edge for each need. No edge is added when a need names no task. -/
def addDependencyEdges (graph : TaskGraph) : Except TaskGraphError TaskGraph :=
  if graph.missing.isEmpty then
    pure { graph with edges := graph.wantedEdges.foldl addNew graph.edges }
  else throw (.missingDependencies graph.missing)

/-- The graph of a list of tasks, with all edges. -/
def ofTasks (nodes : List Node) : Except TaskGraphError TaskGraph := do
  let graph ← nodes.foldlM addTask {}
  graph.addDependencyEdges

/-! ## Neighbours -/

/-- The tasks that need the task at a position, by the order of the edges. -/
def successors (graph : TaskGraph) (index : Nat) : List Nat :=
  graph.edges.filterMap fun edge => if edge.1 = index then some edge.2 else none

/-- The number of edges to the task at a position. -/
def degree (graph : TaskGraph) (index : Nat) : Nat :=
  graph.edges.countP (·.2 == index)

end TaskGraph

end Recipe
