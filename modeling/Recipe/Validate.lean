import Recipe.Graph

/-!
# Validation

The checks on a resolved graph. All faults are reported, in a fixed order, so that a dry run can
show them at once.
-/

set_option autoImplicit false

namespace Recipe

namespace GraphTask

/-- The required inputs of the target that are not bound. -/
def unbound (task : GraphTask) : List String :=
  (task.target.inputs.filter fun input => input.required && (task.argument? input.name).isNone).map
    (·.name)

def argumentFaults (task : GraphTask) : List Error :=
  if task.unbound.isEmpty then [] else [.missingArgument task.name task.target.name task.unbound]

/-- The faults of artifacts that are handed back nowhere. -/
def returnFaults (task : GraphTask) : List Error :=
  (task.returns.filter fun ret => ret.artifact && ret.path.all Text.isBlankText).map
    fun ret => .missingReturnPath task.name ret.name

/-- The faults of references to tasks and needs of tasks that are not declared. -/
def referenceFaults (task : GraphTask) (declared : List String) : List Error :=
  (task.producers.filter (!declared.contains ·)).map
      (fun producer => .malformedReference (.task task.name) (.undeclared producer)) ++
    (task.needs.filter (!declared.contains ·)).map
      (fun need => .malformedReference (.needs task.name) (.undeclared need))

def groupFaults (task : GraphTask) (graph : String) : List Error :=
  (if task.loop.isSome then [.groupedGraphViolation graph (.loops task.name)] else []) ++
    (task.returns.filter (!·.artifact)).map
      (fun ret => .groupedGraphViolation graph (.returnsParameter task.name ret.name))

end GraphTask

/-- The names that repeat an earlier one, each once, where `before` are the names in front. -/
def repeatedAfter (before : List String) : List String → List String
  | [] => []
  | name :: rest =>
      if before.count name = 1 then name :: repeatedAfter (name :: before) rest
      else repeatedAfter (name :: before) rest

namespace Graph

def taskNames (graph : Graph) : List String := graph.tasks.map (·.name)

def nameFaults (graph : Graph) : List Error :=
  (repeatedAfter [] graph.taskNames).map fun name => .duplicateTaskName graph.name name

/-- The fault of an output whose task is not declared. -/
def outputFaults (graph : Graph) (output : GraphOutput) : List Error :=
  (output.source.producer?.toList.filter (!graph.taskNames.contains ·)).map fun producer =>
    .malformedReference (.output output.spec.name graph.name) (.undeclared producer)

def groupFaults (graph : Graph) : List Error :=
  let mains := (graph.tasks.filter GraphTask.isMain).map (·.name)
  graph.tasks.flatMap (·.groupFaults graph.name) ++
    (if 1 < mains.length then [.groupedGraphViolation graph.name (.severalMainTasks mains)] else [])

/-- All faults of a graph, with those of grouped graphs if it is to be one. -/
def faults (graph : Graph) (grouped : Bool) : List Error :=
  graph.nameFaults ++
    graph.tasks.flatMap (fun task =>
      task.argumentFaults ++ task.returnFaults ++ task.referenceFaults graph.taskNames) ++
    graph.outputs.flatMap graph.outputFaults ++
    (if grouped then graph.groupFaults else [])

end Graph

end Recipe
