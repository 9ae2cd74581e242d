import Recipe.Template

/-!
# Functions

A function runs one command or one script. It must hand back at least one output, and everything it
exchanges with its folder needs a path there.
-/

set_option autoImplicit false

namespace Recipe

/-! ## Drafts -/

/-- A function as it is declared, unchecked but for its canonical name. -/
structure FunctionDraft where
  name : String
  package : PackageId
  description : Option String := none
  inputs : List Input := []
  outputs : List Output := []
  command : Option String := none
  script : Option String := none

def FunctionDraft.make (name : String) (package : PackageId) : FunctionDraft :=
  { name := templateName name, package }

/-! ## Templates -/

/-- What a function runs. -/
inductive FunctionBody
  | command (text : String)
  | script (text : String)
deriving DecidableEq

def FunctionBody.toJson : FunctionBody → Json
  | command text => .object [("command", .string text)]
  | script text => .object [("script", .string text)]

/-- A checked function. -/
structure Function where
  definition : Definition
  body : FunctionBody

namespace FunctionDraft

/-- The body of the function: the command, trimmed, or the script, but not both. -/
def body (draft : FunctionDraft) : Except Error FunctionBody :=
  match draft.command, draft.script with
  | some command, none => pure (.command (renamePlaceholders (Text.trim command)))
  | none, some script => pure (.script (renamePlaceholders script))
  | some _, some _ => throw (.invalidTemplate draft.name .commandAndScript)
  | none, none => throw (.invalidTemplate draft.name .neitherCommandNorScript)

def definition (draft : FunctionDraft) : Definition :=
  { name := draft.name
    kind := .function
    package := draft.package
    description := draft.description
    inputs := draft.inputs
    outputs := draft.outputs }

/-- Checks that there are outputs and that all outputs and all artifact inputs have a path. -/
def checkPaths (draft : FunctionDraft) : Except Error Unit := do
  if draft.outputs.isEmpty then throw (.invalidTemplate draft.name .noOutputs)
  if let some input := draft.inputs.find? fun input => input.isArtifact && input.path.isNone then
    throw (.invalidTemplate draft.name (.inputWithoutPath input.kind input.name))
  if let some output := draft.outputs.find? (·.path.isNone) then
    throw (.invalidTemplate draft.name (.outputWithoutPath output.name))

/-- The function of a draft, or the first thing wrong with it. -/
def build (draft : FunctionDraft) : Except Error Function := do
  let body ← draft.body
  draft.checkPaths
  draft.definition.validate
  return { definition := draft.definition, body }

end FunctionDraft

def Function.key (function : Function) : TemplateKey := function.definition.key

end Recipe
