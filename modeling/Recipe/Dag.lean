import Recipe.Reference
import Recipe.Template

/-!
# DAGs

A DAG declares inputs, tasks and outputs. Declaring an input gives a handle to it, and the arguments
of tasks are handles, literals, outputs of other tasks or the item of a loop. Nothing is resolved
before the graph is built, so that tasks may run templates which are registered later.
-/

set_option autoImplicit false

namespace Recipe

/-! ## Tasks -/

/-- A handle to an input: the draft that declared it, and its position there. -/
structure InputHandle where
  owner : Nat
  index : Nat
deriving DecidableEq

/-- The value of an argument as it is declared. -/
inductive Argument
  | literal (value : Json)
  | input (handle : InputHandle)
  | output (task name : String)
  | item (field : Option String)

/-- An output that a task hands back, and where to. -/
structure ReturnDeclaration where
  output : String
  path : Option String := none
  description : Option String := none
deriving DecidableEq

/-- A task as it is declared. -/
structure TaskDeclaration where
  name : String
  template : TemplateKey
  arguments : List (String × Argument) := []
  returns : List ReturnDeclaration := []
  needs : List String := []
  loop : Option Argument := none
  subFolder : Option String := none
  subPaths : Table String := []
  annotations : Table Json := []

def mainTaskMark : String := "main_task"

namespace TaskDeclaration

/-- A task that runs a template, under its canonical name. -/
def make (name : String) (template : TemplateKey) : TaskDeclaration :=
  { name := paramName name, template }

def bind (task : TaskDeclaration) (name : String) (value : Argument) : TaskDeclaration :=
  { task with arguments := task.arguments ++ [(paramName name, value)] }

def handBack (task : TaskDeclaration) (declaration : ReturnDeclaration) : TaskDeclaration :=
  { task with
    returns := task.returns ++ [{ declaration with output := paramName declaration.output }] }

def need (task : TaskDeclaration) (name : String) : TaskDeclaration :=
  { task with needs := task.needs ++ [paramName name] }

/-- The task run once for each item of a list. -/
def loopOver (task : TaskDeclaration) (source : Argument) : TaskDeclaration :=
  { task with loop := some source }

/-- The task run in a folder of its own. -/
def inFolder (task : TaskDeclaration) (folder : String) : TaskDeclaration :=
  { task with subFolder := some folder }

/-- The task with a path inside the artifact of an argument. -/
def atPath (task : TaskDeclaration) (argument path : String) : TaskDeclaration :=
  { task with subPaths := Table.insert (paramName argument) path task.subPaths }

def withAnnotation (task : TaskDeclaration) (name : String) (value : Json) : TaskDeclaration :=
  { task with annotations := Table.insert name value task.annotations }

def asMain (task : TaskDeclaration) : TaskDeclaration :=
  task.withAnnotation mainTaskMark (.bool true)

end TaskDeclaration

/-! ## Outputs -/

/-- Where the value of a DAG's output comes from. -/
inductive OutputSource
  | output (task name : String)
  | path (path : String)
deriving DecidableEq

/-- The output of a task as a source, under canonical names. -/
def OutputSource.ofTask (task name : String) : OutputSource :=
  .output (paramName task) (paramName name)

structure DagOutput where
  spec : Output
  source : OutputSource

/-! ## Templates -/

/-- A DAG as it is declared. The identity tells its handles from those of other drafts. -/
structure DagDraft where
  id : Nat
  name : String
  package : PackageId
  description : Option String := none
  inputs : List Input := []
  tasks : List TaskDeclaration := []
  outputs : List DagOutput := []
  grouped : Bool := false

/-- A checked DAG, with the identity of the draft it was built from. -/
structure Dag where
  id : Nat
  definition : Definition
  tasks : List TaskDeclaration
  outputs : List DagOutput
  grouped : Bool

namespace DagDraft

def make (id : Nat) (name : String) (package : PackageId) : DagDraft :=
  { id, name := templateName name, package }

/-- Declares an input: the handle to it, and the draft with it. -/
def declare (draft : DagDraft) (input : Input) : InputHandle × DagDraft :=
  (⟨draft.id, draft.inputs.length⟩, { draft with inputs := draft.inputs ++ [input] })

def definition (draft : DagDraft) : Definition :=
  { name := draft.name
    kind := .dag
    package := draft.package
    description := draft.description
    inputs := draft.inputs
    outputs := draft.outputs.map DagOutput.spec }

/-- The DAG of a draft, or the first thing wrong with its inputs and outputs. -/
def build (draft : DagDraft) : Except Error Dag := do
  draft.definition.validate
  return {
    id := draft.id
    definition := draft.definition
    tasks := draft.tasks
    outputs := draft.outputs
    grouped := draft.grouped }

end DagDraft

namespace Dag

def key (dag : Dag) : TemplateKey := dag.definition.key

/-- The inputs of a DAG with the handles that its draft gave out for them. -/
def handles (dag : Dag) : List (InputHandle × Input) :=
  dag.definition.inputs.zipIdx.map fun (input, index) => (⟨dag.id, index⟩, input)

end Dag

end Recipe
