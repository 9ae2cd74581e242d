import Recipe.Distinct
import Recipe.Options
import Recipe.Registry
import Recipe.Resolve
import Recipe.Validate

/-!
# Building graphs

The graph of a DAG. All tasks and the templates they run are looked up first, so that tasks may
refer to later ones; then each task is resolved, its arguments before its loop, returns and needs;
in the end the finished graph is checked for cycles and for structural faults.
-/

set_option autoImplicit false

namespace Recipe

/-- A declared task with the definition of the template that it runs. -/
structure TargetedTask where
  task : TaskDeclaration
  target : Definition

/-! ## Lookup -/

/-- The tasks with their targets. Each template is registered, and no two tasks have one name;
`seen` are the names of the tasks in front. -/
def targetedTasks (registry : Registry) (graph : String) (seen : List String) :
    List TaskDeclaration → Except Error (List TargetedTask)
  | [] => pure []
  | task :: rest => do
      let target ← registry.definition task.template
      if task.name ∈ seen then throw (.duplicateTaskName graph task.name)
      return ⟨task, target⟩ :: (← targetedTasks registry graph (task.name :: seen) rest)

/-- What the arguments of a DAG may refer to. -/
def Dag.scope (dag : Dag) (tasks : List TargetedTask) : Scope :=
  { graph := dag.definition.name
    inputs := dag.handles
    tasks := tasks.map fun entry => (entry.task.name, entry.target) }

namespace TargetedTask

/-! ## Arguments -/

/-- One argument, bound to the input of its name. -/
def boundArgument (entry : TargetedTask) (scope : Scope) (bound : List String) (name : String)
    (argument : Argument) : Except Error BoundArgument := do
  let site : Site := ⟨entry.task.name, name⟩
  match entry.target.input? name with
  | none =>
      throw (.unknownArgument entry.task.name entry.target.name name entry.target.inputNames)
  | some parameter =>
      if name ∈ bound then throw (.malformedReference site.place .boundTwice)
      let reference ← scope.resolve argument site
      let source ← reference.bindTo parameter site
      return { name, source, subPath := (entry.task.subPaths.lookup name).map renamePlaceholders }

/-- The arguments, bound in turn; `bound` are the names of those in front. -/
def boundArguments (entry : TargetedTask) (scope : Scope) (bound : List String) :
    List (String × Argument) → Except Error (List BoundArgument)
  | [] => pure []
  | (name, argument) :: rest => do
      let first ← entry.boundArgument scope bound name argument
      return first :: (← entry.boundArguments scope (name :: bound) rest)

/-! ## Loops -/

/-- The reference that a loop runs over: a list, or a file that is read as one. -/
def loopSource (entry : TargetedTask) (scope : Scope) (argument : Argument) :
    Except Error Reference := do
  let reference := (← scope.resolve argument ⟨entry.task.name, "loop"⟩).fileAsParameter
  let place := Place.loop entry.task.name
  match reference with
  | .value value =>
      if value.isList then return reference
      else throw (.malformedReference place (.loopOverValue value))
  | .item _ => throw (.malformedReference place .loopOverItem)
  | _ =>
      if reference.isArtifact then
        throw (.artifactMismatch entry.task.name "loop" "a list parameter" reference.describe)
      else return reference

/-- Checks that only tasks with a loop read the item of the loop. -/
def checkItems (entry : TargetedTask) (arguments : List BoundArgument) (loop : Option Reference) :
    Except Error Unit :=
  match loop, arguments.find? (·.source.isItem) with
  | none, some argument =>
      throw (.malformedReference (.argument entry.task.name argument.name) .itemOutsideLoop)
  | _, _ => pure ()

/-! ## Returns -/

/-- The path of a return without white space at its ends, if anything is left of it. -/
def returnPath? (declaration : ReturnDeclaration) : Option String :=
  (declaration.path.map Text.trim).filter (!·.isEmpty)

/-- One return: an output of the target, with a path exactly if it is an artifact. -/
def taskReturn (entry : TargetedTask) (declaration : ReturnDeclaration) :
    Except Error TaskReturn :=
  match entry.target.output? declaration.output with
  | none =>
      throw (.malformedReference (.returns entry.task.name)
        (.unknownOutput declaration.output entry.target.name))
  | some spec =>
      let path := returnPath? declaration
      if spec.isArtifact && path.isNone then
        throw (.missingReturnPath entry.task.name declaration.output)
      else pure {
        name := spec.name
        description := declaration.description
        path := if spec.isArtifact then path.map renamePlaceholders else none
        artifact := spec.isArtifact }

/-! ## Needs -/

/-- The declared needs, each once and all of them declared tasks. -/
def declaredNeeds (entry : TargetedTask) (scope : Scope) : Except Error (List String) :=
  match entry.task.needs.find? (!scope.tasks.has ·) with
  | some need =>
      throw (.malformedReference (.needs entry.task.name) (.undeclaredIn need scope.graph))
  | none => pure (distinct entry.task.needs)

/-- The needs with those tasks whose outputs are read: they are added, or must be there already. -/
def withProducers (entry : TargetedTask) (policy : NeedsPolicy) (needs : List String) :
    List String → Except Error (List String)
  | [] => pure needs
  | producer :: rest =>
      if producer ∈ needs then entry.withProducers policy needs rest
      else match policy with
        | .infer => entry.withProducers policy (needs ++ [producer]) rest
        | .strict => throw (.undeclaredNeed entry.task.name producer)

/-! ## Tasks -/

/-- The label of a task's target: the package and the name of a function, the name of a DAG of the
same package, or the package of any other DAG. -/
def label (target : Definition) (package : PackageId) : String :=
  match target.kind with
  | .function => s!"{target.package.name}/{target.name}"
  | .dag => if target.package = package then target.name else target.package.name

def resolve (entry : TargetedTask) (scope : Scope) (policy : NeedsPolicy) (package : PackageId) :
    Except Error GraphTask := do
  let arguments ← entry.boundArguments scope [] entry.task.arguments
  let loop ← entry.task.loop.mapM (entry.loopSource scope)
  entry.checkItems arguments loop
  let returns ← entry.task.returns.mapM entry.taskReturn
  let declared ← entry.declaredNeeds scope
  let references := arguments.map (·.source) ++ loop.toList
  let needs ← entry.withProducers policy declared (references.filterMap Reference.producer?)
  return {
    name := entry.task.name
    template := label entry.target package
    target := entry.target
    arguments
    returns
    needs
    loop
    subFolder := entry.task.subFolder.map renamePlaceholders
    annotations := entry.task.annotations }

end TargetedTask

/-! ## Outputs -/

/-- The resolved output of a DAG: the output of a task, or an artifact at a path. -/
def DagOutput.resolve (output : DagOutput) (scope : Scope) : Except Error GraphOutput := do
  let spec := output.spec
  match output.source with
  | .path path =>
      let kind := spec.kind.artifact?.getD .file
      return { spec, source := .artifact kind (renamePlaceholders path) }
  | .output task name =>
      let reference ← scope.output task name ⟨task, spec.name⟩
      let source := if spec.isArtifact then reference else reference.fileAsParameter
      if source.isArtifact = spec.isArtifact then return { spec, source }
      else
        throw (.artifactMismatch scope.graph spec.name s!"a {spec.kind.name} output"
          source.describe)

/-! ## Graphs -/

/-- The annotations of a grouped graph: that it is one, and its main task if it has one. -/
def groupAnnotations (tasks : List GraphTask) : Table Json :=
  (groupedMark, .bool true) ::
    ((tasks.find? GraphTask.isMain).map fun task =>
      (groupMainTaskMark, Json.string task.name)).toList

namespace Dag

/-- The graph of a DAG before its structure is validated. -/
def resolve (dag : Dag) (registry : Registry) (policy : NeedsPolicy) : Except Error Graph := do
  let definition := dag.definition
  let targeted ← targetedTasks registry definition.name [] dag.tasks
  let scope := dag.scope targeted
  let tasks ← targeted.mapM fun entry => entry.resolve scope policy definition.package
  let outputs ← dag.outputs.mapM fun output => output.resolve scope
  let graph : Graph :=
    { name := definition.name
      package := definition.package
      inputs := definition.inputs
      tasks
      outputs }
  discard graph.executionOrder
  return { graph with annotations := if dag.grouped then groupAnnotations tasks else [] }

/-- The graph of a DAG, or the first thing wrong with it. -/
def build (dag : Dag) (registry : Registry) (policy : NeedsPolicy) : Except Error Graph := do
  let graph ← dag.resolve registry policy
  match graph.faults dag.grouped with
  | [] => return graph
  | fault :: _ => throw fault

end Dag

end Recipe
