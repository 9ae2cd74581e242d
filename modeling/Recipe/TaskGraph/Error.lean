import Recipe.TaskGraph.Basic

/-!
# Errors of task graphs

The wording, the code and the advice of what can be wrong with a task graph.
-/

set_option autoImplicit false

namespace Recipe.TaskGraphError

def message : TaskGraphError → String
  | cycleDetected path => "Cycle detected in task graph: " ++ " -> ".intercalate path
  | duplicateTask name => s!"Task '{name}' was added to the graph more than once"
  | missingDependencies missing =>
      let entries := missing.map fun (task, need) => s!"task '{task}' needs missing task '{need}'"
      "Missing dependencies: " ++ ", ".intercalate entries

/-- The name of an error's cause. -/
def kind : TaskGraphError → String
  | cycleDetected _ => "CycleDetected"
  | duplicateTask _ => "DuplicateTask"
  | missingDependencies _ => "MissingDependencies"

/-- The code under which an error is documented. -/
def code : TaskGraphError → String
  | cycleDetected _ => "honeycomb_task_graph::cycle"
  | duplicateTask _ => "honeycomb_task_graph::duplicate"
  | missingDependencies _ => "honeycomb_task_graph::missing"

/-- Advice on how to mend an error, where there is some. -/
def help? : TaskGraphError → Option String
  | cycleDetected _ =>
      some "Remove one of the `needs` entries (or task references) along the cycle"
  | _ => none

end Recipe.TaskGraphError
