import Recipe.Dag

/-!
# Resolving arguments

An argument is resolved in the scope of its graph, where handles name inputs and tasks have a
definition each, and is then bound to a parameter of the template that its task runs.
-/

set_option autoImplicit false

namespace Recipe

/-! ## Scopes -/

/-- What the arguments of a graph may refer to. Of two entries for one handle or one task the later
counts. -/
structure Scope where
  graph : String
  inputs : List (InputHandle × Input)
  tasks : Table Definition

/-- The argument of a task, where errors are reported. -/
structure Site where
  task : String
  argument : String

def Site.place (site : Site) : Place := .argument site.task site.argument

namespace Scope

def input? (scope : Scope) (handle : InputHandle) : Option Input :=
  scope.inputs.reverse.lookup handle

/-- The definition of the template that a task runs. -/
def task? (scope : Scope) (name : String) : Option Definition := scope.tasks.reverse.lookup name

/-- A reference to the output of a task, under any spelling of the two names. -/
def output (scope : Scope) (task name : String) (site : Site) : Except Error Reference := do
  let task := paramName task
  let name := paramName name
  match scope.task? task with
  | none => throw (.malformedReference site.place (.undeclaredIn task scope.graph))
  | some target =>
      match target.output? name with
      | none => throw (.malformedReference site.place (.unknownOutputOf name target.name task))
      | some spec => return .output task name spec.kind.artifact?

/-- The reference that an argument stands for. Placeholders in literals are renamed. -/
def resolve (scope : Scope) (argument : Argument) (site : Site) : Except Error Reference :=
  match argument with
  | .literal value => pure (.value value.renameTexts)
  | .input handle =>
      match scope.input? handle with
      | none => throw (.unresolvedInput scope.graph site.task site.argument)
      | some input => pure (.input input.name input.kind.artifact?)
  | .output task name => scope.output task name site
  | .item field => pure (.item field)

end Scope

/-! ## Binding -/

/-- The words for what a parameter expects. -/
def Kind.expectation (kind : Kind) : String :=
  match kind.artifact? with
  | some artifact => s!"a {artifact.name}"
  | none => s!"a {kind.name} parameter"

namespace Reference

/-- The reference bound to a parameter: artifacts go to artifacts and all else to parameters. A
literal text bound to an artifact is the path of a folder, or else of a file. -/
def bindTo (reference : Reference) (parameter : Input) (site : Site) : Except Error Reference :=
  match parameter.kind.artifact?, reference with
  | some .folder, .value (.string path) => pure (.artifact .folder path)
  | some _, .value (.string path) => pure (.artifact .file path)
  | expected, reference =>
      if expected.isSome = reference.isArtifact then pure reference
      else throw (.artifactMismatch site.task site.argument parameter.kind.expectation
        reference.describe)

end Reference

end Recipe
