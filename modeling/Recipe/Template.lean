import Recipe.Declaration
import Recipe.Name
import Recipe.Package

/-!
# Templates

What a function and a DAG have in common: a canonical name, a package, and typed inputs and outputs.
A template is known by its key, the name of its package and its own name.
-/

set_option autoImplicit false

namespace Recipe

/-! ## Kinds -/

/-- A template is a function, one command run in one container, or a DAG, a set of tasks. -/
inductive TemplateKind
  | function
  | dag
deriving DecidableEq

namespace TemplateKind

def all : List TemplateKind := [function, dag]

def name : TemplateKind → String
  | function => "function"
  | dag => "dag"

def toJson (kind : TemplateKind) : Json := .string kind.name

def ofJson? (value : Json) : Option TemplateKind := value.choice? all name

end TemplateKind

/-! ## Keys -/

/-- The key of a template: the name of its package, without the tag, and its own name. -/
structure TemplateKey where
  package : String
  name : String
deriving DecidableEq

namespace TemplateKey

/-- The key of the template with any spelling of its name. -/
def make (package name : String) : TemplateKey := { package, name := templateName name }

def text (key : TemplateKey) : String := s!"{key.package}/{key.name}"

def toJson (key : TemplateKey) : Json :=
  .object [("package", .string key.package), ("name", .string key.name)]

/-- The key that a JSON value describes, its name as it is written there. -/
def ofJson? (value : Json) : Option TemplateKey := do
  let record ← value.record? 2
  let package ← record.required 0 "package" Json.asString?
  let name ← record.required 1 "name" Json.asString?
  return { package, name }

end TemplateKey

/-! ## Definitions -/

/-- The definition of a template, all that a task which runs it has to know. -/
structure Definition where
  name : String
  kind : TemplateKind
  package : PackageId
  description : Option String := none
  inputs : List Input := []
  outputs : List Output := []

namespace Definition

def key (definition : Definition) : TemplateKey := ⟨definition.package.name, definition.name⟩

def input? (definition : Definition) (name : String) : Option Input :=
  definition.inputs.find? (·.name == name)

def output? (definition : Definition) (name : String) : Option Output :=
  definition.outputs.find? (·.name == name)

def inputNames (definition : Definition) : List String := definition.inputs.map (·.name)

def toJson (definition : Definition) : Json :=
  .object <|
    [("name", .string definition.name), ("kind", definition.kind.toJson),
      ("package", definition.package.toJson)] ++
      Json.optional "description" (definition.description.map .string) ++
      [("inputs", .list (definition.inputs.map Input.toJson)),
        ("outputs", .list (definition.outputs.map Output.toJson))]

/-- Checks declarations one after the other: the name is not among `seen`, the names of those in
front, and the declaration itself is valid. -/
def checkEach {α : Type} (template : String) (nameOf : α → String) (check : α → Except Error Unit)
    (seen : List String) : List α → Except Error Unit
  | [] => pure ()
  | declaration :: rest => do
      if nameOf declaration ∈ seen then
        throw (.duplicateInputName template (nameOf declaration))
      check declaration
      checkEach template nameOf check (nameOf declaration :: seen) rest

/-- Checks the inputs and then the outputs: no two of either have one name, and all are valid. -/
def validate (definition : Definition) : Except Error Unit := do
  checkEach definition.name Input.name Input.validate [] definition.inputs
  checkEach definition.name Output.name Output.validate [] definition.outputs

end Definition

end Recipe
