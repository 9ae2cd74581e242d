import Recipe.Dag
import Recipe.Options
import Recipe.Registry
import Mathlib.Logic.Relation

/-!
# Well-formed DAGs

What a DAG must be like to have a graph, said of its declarations alone: which values its tasks may
bind, loop over, return and need, and that no task comes before itself.
-/

set_option autoImplicit false

namespace Recipe

open Relation

/-! ## Values of tasks -/

/-- The task whose output an argument reads, by its canonical name. -/
def Argument.producer? : Argument → Option String
  | .output task _ => some (paramName task)
  | _ => none

namespace TaskDeclaration

/-- All values that a task reads, those of its arguments before that of its loop. -/
def values (task : TaskDeclaration) : List Argument :=
  task.arguments.map Prod.snd ++ task.loop.toList

/-- The tasks whose outputs a task reads, in the order of its values. -/
def producers (task : TaskDeclaration) : List String := task.values.filterMap Argument.producer?

/-- A task needs those that it lists and those whose outputs it reads. -/
def Needs (task : TaskDeclaration) (need : String) : Prop :=
  need ∈ task.needs ∨ need ∈ task.producers

end TaskDeclaration

/-- A return has a path that is not blank. -/
def ReturnDeclaration.HasPath (declaration : ReturnDeclaration) : Prop :=
  ∃ path, declaration.path = some path ∧ Text.isBlankText path = false

namespace Dag

/-! ## What the values refer to -/

def taskNames (dag : Dag) : List String := dag.tasks.map (·.name)

/-- The input that a handle stands for, if it was given out for this DAG. -/
def inputOf? (dag : Dag) (handle : InputHandle) : Option Input :=
  if handle.owner = dag.id then dag.definition.inputs[handle.index]? else none

/-- The task of a name runs a template with some definition. -/
def Runs (dag : Dag) (registry : Registry) (name : String) (target : Definition) : Prop :=
  ∃ task ∈ dag.tasks, task.name = name ∧ registry.definition task.template = .ok target

/-- The task of a name has an output, both names in any spelling. -/
def HasOutput (dag : Dag) (registry : Registry) (task name : String) (spec : Output) : Prop :=
  ∃ target, dag.Runs registry (paramName task) target ∧
    target.output? (paramName name) = some spec

/-- A handle is one of this DAG, and the output of a task is one of a task that is declared. -/
def Knows (dag : Dag) (registry : Registry) : Argument → Prop
  | .literal _ => True
  | .input handle => ∃ input, dag.inputOf? handle = some input
  | .output task name => ∃ spec, dag.HasOutput registry task name spec
  | .item _ => True

/-- Artifacts go to artifacts and all else to parameters, but a text may be the path of an
artifact. -/
def Fits (dag : Dag) (registry : Registry) (parameter : Input) : Argument → Prop
  | .literal value => parameter.isArtifact = true → value.isString = true
  | .input handle => ∀ input, dag.inputOf? handle = some input →
      input.isArtifact = parameter.isArtifact
  | .output task name => ∀ spec, dag.HasOutput registry task name spec →
      spec.isArtifact = parameter.isArtifact
  | .item _ => parameter.isArtifact = false

/-- A loop runs over a literal list, a parameter, or a task's file. -/
def CanLoopOver (dag : Dag) (registry : Registry) : Argument → Prop
  | .literal value => value.isList = true
  | .input handle => ∀ input, dag.inputOf? handle = some input → input.isArtifact = false
  | .output task name => ∀ spec, dag.HasOutput registry task name spec →
      spec.isArtifact = false ∨ spec.kind = .file
  | .item _ => False

/-- The source of an output is of the same sort, or a file that is read as a parameter. -/
def Supplies (dag : Dag) (registry : Registry) (output : DagOutput) : Prop :=
  ∀ task name, output.source = .output task name → ∃ spec, dag.HasOutput registry task name spec ∧
    (spec.isArtifact = output.spec.isArtifact ∨
      spec.kind = .file ∧ output.spec.isArtifact = false)

/-- A task needs another, both by name. -/
def Precedes (dag : Dag) (need name : String) : Prop :=
  ∃ task ∈ dag.tasks, task.name = name ∧ task.Needs need

/-! ## Well-formedness -/

/-- What a task must be like that runs a template with some definition: its arguments and its loop
read what there is and what fits, only a task with a loop reads the item of it, artifacts are handed
back to some path, and all needs are declared tasks. Under the strict policy the tasks whose outputs
it reads are listed among its needs. -/
structure Admits (dag : Dag) (registry : Registry) (policy : NeedsPolicy) (task : TaskDeclaration)
    (target : Definition) : Prop where
  bound_once : (task.arguments.map Prod.fst).Nodup
  arguments : ∀ name value, (name, value) ∈ task.arguments → ∃ parameter,
    target.input? name = some parameter ∧ dag.Knows registry value ∧
      dag.Fits registry parameter value
  loop : ∀ source, task.loop = some source →
    dag.Knows registry source ∧ dag.CanLoopOver registry source
  items : ∀ name field, (name, .item field) ∈ task.arguments → task.loop ≠ none
  returns : ∀ ret ∈ task.returns, ∃ spec, target.output? ret.output = some spec ∧
    (spec.isArtifact = true → ret.HasPath)
  needs : ∀ need ∈ task.needs, need ∈ dag.taskNames
  reads : policy = .strict → ∀ producer ∈ task.producers, producer ∈ task.needs

/-- **What the declarations of a DAG must be like** for it to have a graph. -/
structure WellFormed (dag : Dag) (registry : Registry) (policy : NeedsPolicy) : Prop where
  tasks : ∀ task ∈ dag.tasks, ∃ target, registry.definition task.template = .ok target ∧
    dag.Admits registry policy task target
  names_distinct : dag.taskNames.Nodup
  outputs : ∀ output ∈ dag.outputs, dag.Supplies registry output
  acyclic : ∀ name, ¬ TransGen dag.Precedes name name

end Dag

end Recipe
