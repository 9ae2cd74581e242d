import Recipe.Dag
import Recipe.Function

/-!
# Registries

A registry holds functions and DAGs under their keys, in the order of registration. No key is taken
twice, and nothing is ever replaced or removed.
-/

set_option autoImplicit false

namespace Recipe

/-! ## Templates -/

/-- A registered template. -/
inductive Template
  | function (run : Function)
  | dag (tasks : Dag)

namespace Template

def definition : Template → Definition
  | function run => run.definition
  | dag tasks => tasks.definition

def key (template : Template) : TemplateKey := template.definition.key

end Template

/-! ## Registries -/

/-- Templates under distinct keys. The identity tells a registry from its clones. -/
structure Registry where
  id : Nat
  templates : List Template := []

namespace Registry

def keys (registry : Registry) : List TemplateKey := registry.templates.map Template.key

def find? (registry : Registry) (key : TemplateKey) : Option Template :=
  registry.templates.find? (·.key = key)

def get (registry : Registry) (key : TemplateKey) : Except Error Template :=
  match registry.find? key with
  | some template => pure template
  | none => throw (.invalidTemplate key.text .notRegistered)

def definition (registry : Registry) (key : TemplateKey) : Except Error Definition :=
  Template.definition <$> registry.get key

def dag (registry : Registry) (key : TemplateKey) : Except Error Dag := do
  match ← registry.get key with
  | .dag dag => pure dag
  | .function _ => throw (.invalidTemplate key.text .notDag)

/-- The registry with one more template, unless its key is taken. -/
def register (registry : Registry) (template : Template) : Except Error Registry :=
  if template.key ∈ registry.keys then
    throw (.invalidTemplate template.key.text .alreadyRegistered)
  else pure { registry with templates := registry.templates ++ [template] }

/-- The registry with the same templates and another identity. -/
def clone (registry : Registry) (id : Nat) : Registry := { registry with id }

end Registry

end Recipe
