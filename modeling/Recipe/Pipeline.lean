import Recipe.Manifest
import Recipe.Yaml.Printer

/-!
# Pipelines

A pipeline is what a recipe is compiled to: the metadata of its package, the packages it depends on,
and its graphs, the entry first. It is closed when everything that its tasks run is in it or in one
of its dependencies.
-/

set_option autoImplicit false

namespace Recipe

/-! ## Dependencies -/

/-- A dependency provides functions, as a plugin, or DAGs, as a recipe. -/
inductive DependencyKind
  | plugin
  | recipe
deriving DecidableEq

namespace DependencyKind

def all : List DependencyKind := [plugin, recipe]

def name : DependencyKind → String
  | plugin => "plugin"
  | recipe => "recipe"

def toJson (kind : DependencyKind) : Json := .string kind.name

def ofJson? (value : Json) : Option DependencyKind := value.choice? all name

end DependencyKind

/-- A package that a pipeline depends on. -/
structure Dependency where
  kind : DependencyKind
  name : String
  tag : String
  source : Option String := none
deriving DecidableEq

namespace Dependency

def toJson (dependency : Dependency) : Json :=
  .object <|
    [("kind", dependency.kind.toJson), ("name", .string dependency.name),
      ("tag", .string dependency.tag)] ++
      Json.optional "source" (dependency.source.map .string)

def ofJson? (value : Json) : Option Dependency := do
  let record ← value.record? 4
  let kind ← record.required 0 "kind" DependencyKind.ofJson?
  let name ← record.required 1 "name" Json.asString?
  let tag ← record.required 2 "tag" Json.asString?
  let source ← record.withDefault 3 "source" Json.optionalString? none
  return { kind, name, tag, source }

end Dependency

/-! ## Pipelines -/

/-- A compiled recipe. -/
structure Pipeline where
  metadata : PackageMetadata
  dependencies : List Dependency := []
  flow : List Graph := []

namespace Pipeline

/-- The graph that a run starts with. -/
def entry? (pipeline : Pipeline) : Option Graph := pipeline.flow.head?

def graph? (pipeline : Pipeline) (name : String) : Option Graph :=
  pipeline.flow.find? (·.name == name)

def dependency? (pipeline : Pipeline) (name : String) : Option Dependency :=
  pipeline.dependencies.find? (·.name == name)

def toJson (pipeline : Pipeline) : Json :=
  .object
    [("metadata", pipeline.metadata.toJson),
      ("dependencies", .list (pipeline.dependencies.map Dependency.toJson)),
      ("flow", .list (pipeline.flow.map Graph.toJson))]

def jsonText (pipeline : Pipeline) : String := pipeline.toJson.indented

def yamlText (pipeline : Pipeline) : String := Yaml.document pipeline.toJson

/-! ## Closedness -/

def depends (pipeline : Pipeline) (kind : DependencyKind) (name : String) : Bool :=
  pipeline.dependencies.any fun dependency => dependency.kind = kind && dependency.name == name

/-- Whether the pipeline or one of its dependencies has the target of a task in a graph of a
package. -/
def provides (pipeline : Pipeline) (package : PackageId) (target : Definition) : Bool :=
  match target.route package with
  | .plugin => pipeline.depends .plugin target.package.name
  | .recipe => pipeline.depends .recipe target.package.name
  | .nested => pipeline.flow.any (·.name == target.name)

/-- Checks that each task of each graph runs something that the pipeline provides. -/
def ensureClosed (pipeline : Pipeline) : Except Error Unit :=
  pipeline.flow.forM fun graph =>
    graph.tasks.forM fun task =>
      if pipeline.provides graph.package task.target then pure ()
      else throw (.invalidTemplate task.template (.missingFromPipeline task.name graph.name))

/-! ## Assembly -/

/-- The dependency on a package, with the tag that the provider knows or else the declared one. -/
def dependencyOn (options : Options) (provider : MetadataProvider) (kind : DependencyKind)
    (package : PackageId) : Except Error Dependency := do
  let metadata ← provider package
  return {
    kind
    name := package.name
    tag := (metadata.map (·.tag)).getD package.tag
    source := options.dependencySource }

/-- The pipeline of an entry graph and its manifest. The entry graph takes the name of the entry
point, which no nested DAG may have. -/
def assemble (options : Options) (provider : MetadataProvider) (entry : Graph)
    (manifest : Manifest) (metadata : PackageMetadata) : Except Error Pipeline := do
  if manifest.dags.has options.entryPoint then
    throw (.invalidTemplate options.entryPoint (.sharesEntryPoint options.entryPoint))
  let plugins ← manifest.plugins.mapM (dependencyOn options provider .plugin)
  let recipes ← manifest.recipes.mapM (dependencyOn options provider .recipe)
  return {
    metadata
    dependencies := plugins ++ recipes
    flow := entry.renamed options.entryPoint :: manifest.dags.map Prod.snd }

end Pipeline

end Recipe
