import Recipe.GraphCache

/-!
# Workspaces

Registries under names, with the cache that they share. Identities of drafts and registries are
given out in turn, so that no two are equal.
-/

set_option autoImplicit false

namespace Recipe

/-- Registries under names, the cache of their graphs, and the next identity to give out. -/
structure Workspace where
  nextId : Nat := 1
  registries : Table Registry := []
  cache : GraphCache := {}

namespace Workspace

/-- A new identity. There is always one more: identities are numbers without a bound, where a counter
of 64 bits starts again once all of them have been given out. -/
def freshId (workspace : Workspace) : Nat × Workspace :=
  (workspace.nextId, { workspace with nextId := workspace.nextId + 1 })

/-- The registry of a name, created if there is none. -/
def registry (workspace : Workspace) (name : String) : Registry × Workspace :=
  match workspace.registries.lookup name with
  | some registry => (registry, workspace)
  | none =>
      let (id, workspace) := workspace.freshId
      let registry : Registry := { id }
      (registry, { workspace with registries := workspace.registries.insert name registry })

/-- The workspace with a template registered under the name of a registry. -/
def register (workspace : Workspace) (name : String) (template : Template) :
    Except Error TemplateKey × Workspace :=
  let (registry, workspace) := workspace.registry name
  match registry.register template with
  | .error fault => (.error fault, workspace)
  | .ok registry =>
      (.ok template.key, { workspace with registries := workspace.registries.insert name registry })

/-- The workspace with a clone of a registry under another name. -/
def clone (workspace : Workspace) (name other : String) : Workspace :=
  let (registry, workspace) := workspace.registry name
  let (id, workspace) := workspace.freshId
  { workspace with registries := workspace.registries.insert other (registry.clone id) }

/-- The outcome of a computation in a registry that fetches graphs. -/
def run {α : Type} (workspace : Workspace) (name : String) (compute : Registry → Cached α) :
    Except Error α × Workspace :=
  let (registry, workspace) := workspace.registry name
  let (outcome, cache) := (compute registry).run workspace.cache
  (outcome, { workspace with cache })

end Workspace

namespace Pipeline

/-- The pipeline without the dependencies and graphs of some names. -/
def without (pipeline : Pipeline) (dependencies graphs : List String) : Pipeline :=
  { pipeline with
    dependencies := pipeline.dependencies.filter (!dependencies.contains ·.name)
    flow := pipeline.flow.filter (!graphs.contains ·.name) }

end Pipeline

end Recipe
