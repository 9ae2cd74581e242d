import Recipe.Build
import Recipe.Unseen

/-!
# Manifests

What a graph depends on. Functions are always external, and their packages are plugins. DAGs of
other packages are recipes. DAGs of the graph's own package become part of the same pipeline, so
that they are built and searched in turn. How a DAG is built is left open: `collect` asks for the
graph of each nested DAG once, in any monad that can fail.
-/

set_option autoImplicit false

namespace Recipe

/-- What a graph depends on: plugins, recipes, and the graphs of nested DAGs under their names, each
in the order in which they were first met. -/
structure Manifest where
  plugins : List PackageId := []
  recipes : List PackageId := []
  dags : Table Graph := []

namespace Manifest

def isEmpty (manifest : Manifest) : Bool :=
  manifest.plugins.isEmpty && manifest.recipes.isEmpty && manifest.dags.isEmpty

def withPlugin (manifest : Manifest) (package : PackageId) : Manifest :=
  { manifest with plugins := addNew manifest.plugins package }

def withRecipe (manifest : Manifest) (package : PackageId) : Manifest :=
  { manifest with recipes := addNew manifest.recipes package }

def withDag (manifest : Manifest) (name : String) (graph : Graph) : Manifest :=
  { manifest with dags := manifest.dags.insert name graph }

end Manifest

/-! ## Routes -/

/-- How a graph comes to the target of one of its tasks. -/
inductive Route
  | plugin
  | recipe
  | nested
deriving DecidableEq

/-- The route from a graph of a package to a target. -/
def Definition.route (target : Definition) (package : PackageId) : Route :=
  match target.kind with
  | .function => .plugin
  | .dag => if target.package = package then .nested else .recipe

/-! ## Collecting -/

theorem Registry.mem_keys_of_dag {registry : Registry} {key : TemplateKey} {dag : Dag}
    (h : registry.dag key = .ok dag) : key ∈ registry.keys := by
  unfold Registry.dag Registry.get at h
  cases hfind : registry.find? key with
  | none => rw [hfind] at h; cases h
  | some template =>
      have hkey := List.find?_some hfind
      have hmem := List.mem_of_find?_eq_some hfind
      simp only [decide_eq_true_eq] at hkey
      exact List.mem_map.mpr ⟨template, hmem, hkey⟩

/-- The cycle that a key closes on the stack of the DAGs being searched. -/
def cycleOn (stack : List TemplateKey) (key : TemplateKey) : List String :=
  (stack.dropWhile (· ≠ key)).map (·.name) ++ [key.name]

section Collect

variable {m : Type → Type} [Monad m] [MonadExcept Error m]

/-- The manifest with what the tasks of a graph depend on. The stack holds the keys of the DAGs
being searched, outermost first, and `graphOf` gives the graph of a nested DAG. A DAG that is in
the manifest already is not searched again. -/
def collectTasks (registry : Registry) (graphOf : Dag → m Graph) (stack : List TemplateKey)
    (package : PackageId) (tasks : List GraphTask) (manifest : Manifest) : m Manifest :=
  match tasks with
  | [] => pure manifest
  | task :: rest =>
      match task.target.route package with
      | .plugin =>
          collectTasks registry graphOf stack package rest
            (manifest.withPlugin task.target.package)
      | .recipe =>
          collectTasks registry graphOf stack package rest
            (manifest.withRecipe task.target.package)
      | .nested =>
          let key := task.target.key
          if hstack : key ∈ stack then throw (Error.cyclicDependency (cycleOn stack key))
          else if manifest.dags.has key.name then
            collectTasks registry graphOf stack package rest manifest
          else
            match hdag : registry.dag key with
            | .error fault => throw fault
            | .ok dag => do
                have : unseen registry.keys (stack ++ [key]) < unseen registry.keys stack :=
                  unseen_append_lt (Registry.mem_keys_of_dag hdag) hstack
                let nested ← graphOf dag
                let manifest ← collectTasks registry graphOf (stack ++ [key]) nested.package
                  nested.tasks (manifest.withDag key.name nested)
                collectTasks registry graphOf stack package rest manifest
termination_by (unseen registry.keys stack, tasks.length)
decreasing_by
  · exact Prod.Lex.right _ (by simp)
  · exact Prod.Lex.right _ (by simp)
  · exact Prod.Lex.right _ (by simp)
  · exact Prod.Lex.left _ _ this
  · exact Prod.Lex.right _ (by simp)

/-- What a graph depends on. -/
def collect (registry : Registry) (graphOf : Dag → m Graph) (graph : Graph) : m Manifest :=
  collectTasks registry graphOf [graph.key] graph.package graph.tasks {}

end Collect

end Recipe
