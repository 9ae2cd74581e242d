import Recipe.Pipeline

/-!
# Compilation

The entry DAG is built, what it depends on is collected, and both are assembled into a closed
pipeline. As in collecting, how a DAG is built is left open: `compileWith` runs in any monad that
can fail, and `compile` builds every graph anew.
-/

set_option autoImplicit false

namespace Recipe

section Compile

variable {m : Type → Type} [Monad m] [MonadExcept Error m]

/-- The metadata of a pipeline: what is given, or what the provider knows about the package of its
entry, or nothing but the package itself. -/
def pipelineMetadata (provider : MetadataProvider) (package : PackageId) :
    Option PackageMetadata → Except Error PackageMetadata
  | some metadata => pure metadata
  | none => return (← provider package).getD (.ofPackage package)

/-- The pipeline of a collected entry graph, checked to be closed. -/
def closedPipeline (options : Options) (provider : MetadataProvider) (package : PackageId)
    (metadata : Option PackageMetadata) (graph : Graph) (manifest : Manifest) :
    Except Error Pipeline := do
  let metadata ← pipelineMetadata provider package metadata
  let pipeline ← Pipeline.assemble options provider graph manifest metadata
  pipeline.ensureClosed
  return pipeline

/-- The pipeline of an entry DAG, where `graphOf` gives the graphs of DAGs. -/
def compileWith (graphOf : Dag → m Graph) (registry : Registry) (options : Options)
    (provider : MetadataProvider) (entry : TemplateKey) (metadata : Option PackageMetadata) :
    m Pipeline := do
  MonadExcept.ofExcept options.validate
  let dag ← MonadExcept.ofExcept (registry.dag entry)
  let graph ← graphOf dag
  let manifest ← collect registry graphOf graph
  MonadExcept.ofExcept
    (closedPipeline options provider dag.definition.package metadata graph manifest)

end Compile

/-- The pipeline of an entry DAG, with every graph built anew. -/
def compile (registry : Registry) (options : Options) (provider : MetadataProvider)
    (entry : TemplateKey) (metadata : Option PackageMetadata) : Except Error Pipeline :=
  compileWith (·.build registry options.needsPolicy) registry options provider entry metadata

/-- All structural faults of an entry DAG, or what keeps it from being resolved. -/
def dryValidate (registry : Registry) (options : Options) (entry : TemplateKey) :
    Except Error (List Error) := do
  let dag ← registry.dag entry
  let graph ← dag.resolve registry options.needsPolicy
  return graph.faults dag.grouped

end Recipe
