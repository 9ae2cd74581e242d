import Recipe.Dag
import Recipe.TaskGraph.Order

/-!
# Graphs

A graph is the resolved form of a DAG: each argument has a reference, each task knows which tasks it
needs, and each task has the definition of the template that it runs.
-/

set_option autoImplicit false

namespace Recipe

/-! ## Tasks -/

structure BoundArgument where
  name : String
  source : Reference
  subPath : Option String := none

def BoundArgument.toJson (argument : BoundArgument) : Json :=
  .object <|
    [("name", .string argument.name), ("from", argument.source.toJson)] ++
      Json.optional "sub_path" (argument.subPath.map .string)

/-- An output that a task hands back to its graph. -/
structure TaskReturn where
  name : String
  description : Option String := none
  path : Option String := none
  artifact : Bool
deriving DecidableEq

def TaskReturn.toJson (ret : TaskReturn) : Json :=
  .object <|
    [("name", .string ret.name)] ++
      Json.optional "description" (ret.description.map .string) ++
      Json.optional "path" (ret.path.map .string) ++
      [("artifact", .bool ret.artifact)]

/-- A resolved task. The definition of its target is not written out, only the label of it. -/
structure GraphTask where
  name : String
  template : String
  target : Definition
  arguments : List BoundArgument := []
  returns : List TaskReturn := []
  needs : List String := []
  loop : Option Reference := none
  subFolder : Option String := none
  annotations : Table Json := []

/-- Whether the value of an annotation is true. -/
def isMarked (annotations : Table Json) (name : String) : Bool :=
  ((annotations.lookup name).bind Json.asBool?).getD false

namespace GraphTask

def argument? (task : GraphTask) (name : String) : Option BoundArgument :=
  task.arguments.find? (·.name == name)

/-- Whether the task is marked as the main one of its group. -/
def isMain (task : GraphTask) : Bool := isMarked task.annotations mainTaskMark

/-- All references that the task reads, those of its arguments before that of its loop. -/
def references (task : GraphTask) : List Reference :=
  task.arguments.map (·.source) ++ task.loop.toList

/-- The tasks whose outputs the task reads, in the order of its references. -/
def producers (task : GraphTask) : List String := task.references.filterMap Reference.producer?

def toJson (task : GraphTask) : Json :=
  .object <|
    [("name", .string task.name), ("template", .string task.template),
      ("arguments", .list (task.arguments.map BoundArgument.toJson))] ++
      Json.nonempty "returns" (task.returns.map TaskReturn.toJson) ++
      Json.nonempty "needs" (task.needs.map .string) ++
      Json.optional "loop" (task.loop.map Reference.toJson) ++
      Json.optional "sub_folder" (task.subFolder.map .string) ++
      Json.nonemptyObject "annotations" task.annotations

end GraphTask

/-! ## Graphs -/

structure GraphOutput where
  spec : Output
  source : Reference

/-- The JSON form of an output, the fields of its declaration followed by its source. -/
def GraphOutput.toJson (output : GraphOutput) : Json :=
  .object (output.spec.jsonFields ++ [("from", output.source.toJson)])

/-- A resolved DAG. -/
structure Graph where
  name : String
  package : PackageId
  inputs : List Input := []
  tasks : List GraphTask := []
  outputs : List GraphOutput := []
  annotations : Table Json := []

def groupedMark : String := "__is_grouped__"

def groupMainTaskMark : String := "__main_task__"

namespace Graph

def key (graph : Graph) : TemplateKey := ⟨graph.package.name, graph.name⟩

def task? (graph : Graph) (name : String) : Option GraphTask :=
  graph.tasks.find? (·.name == name)

def isGrouped (graph : Graph) : Bool := isMarked graph.annotations groupedMark

def mainTask? (graph : Graph) : Option String :=
  (graph.annotations.lookup groupMainTaskMark).bind Json.asString?

def renamed (graph : Graph) (name : String) : Graph := { graph with name }

def toJson (graph : Graph) : Json :=
  .object <|
    [("name", .string graph.name)] ++
      Json.nonempty "inputs" (graph.inputs.map Input.toJson) ++
      [("tasks", .list (graph.tasks.map GraphTask.toJson))] ++
      Json.nonempty "outputs" (graph.outputs.map GraphOutput.toJson) ++
      Json.nonemptyObject "annotations" graph.annotations

end Graph

/-! ## Order -/

/-- The fault of a recipe behind a fault of its task graph. Of several missing needs the first is
reported. -/
def Error.ofTaskGraph : TaskGraphError → Error
  | .cycleDetected path => .cyclicDependency path
  | .duplicateTask name => .duplicateTaskName "" name
  | .missingDependencies missing =>
      let (task, need) := missing.headD ("", "")
      .malformedReference (.needs task) (.undeclaredInGraph need)

namespace Graph

def nodes (graph : Graph) : List TaskGraph.Node :=
  graph.tasks.map fun task => ⟨task.name, task.needs⟩

def onTaskGraph {α : Type} (graph : Graph) (compute : TaskGraph → Except TaskGraphError α) :
    Except Error α :=
  (TaskGraph.ofTasks graph.nodes >>= compute).mapError Error.ofTaskGraph

/-- The names of the tasks in the order in which they are run. -/
def executionOrder (graph : Graph) : Except Error (List String) :=
  (List.map TaskGraph.Node.name) <$> graph.onTaskGraph TaskGraph.order

/-- The names of the tasks by level. -/
def parallelLevels (graph : Graph) : Except Error (List (List String)) :=
  (List.map (List.map TaskGraph.Node.name)) <$> graph.onTaskGraph TaskGraph.levels

end Graph

end Recipe
