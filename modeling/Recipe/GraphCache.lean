import Recipe.Compile

/-!
# Cached graphs

A DAG is built once for each needs policy, and its graph belongs to the registry it was built in: a
clone of the registry, which shares its DAGs, may hold other templates by then and has them built
anew. Failures are not kept. Each build has a stamp of its own, by which a graph that is handed out
twice can be told from one that is equal.
-/

set_option autoImplicit false

namespace Recipe

/-- A graph with the stamp of its build. -/
structure BuiltGraph where
  stamp : Nat
  graph : Graph

/-- A place for the graph of a DAG under a needs policy. -/
structure CacheKey where
  dag : Nat
  policy : NeedsPolicy
deriving DecidableEq

/-- A cached graph with the identity of the registry it was built in. -/
structure CacheSlot where
  owner : Nat
  built : BuiltGraph

/-- The graphs built so far that are kept, and the number of all builds. -/
structure GraphCache where
  slots : List (CacheKey × CacheSlot) := []
  builds : Nat := 0

namespace GraphCache

/-- The graph of a DAG in a registry: the one in its place, if it was built in this registry, and
a new one otherwise, which is kept if its place is free. -/
def fetch (cache : GraphCache) (registry : Registry) (policy : NeedsPolicy) (dag : Dag) :
    Except Error BuiltGraph × GraphCache :=
  let key : CacheKey := ⟨dag.id, policy⟩
  let build : Except Error BuiltGraph := (⟨cache.builds, ·⟩) <$> dag.build registry policy
  match cache.slots.lookup key with
  | some slot =>
      if slot.owner = registry.id then (.ok slot.built, cache)
      else (build, { cache with builds := cache.builds + 1 })
  | none =>
      match build with
      | .error fault => (.error fault, cache)
      | .ok built =>
          (.ok built,
            { slots := (key, ⟨registry.id, built⟩) :: cache.slots, builds := cache.builds + 1 })

end GraphCache

/-! ## Computing with a cache -/

/-- A computation that fetches graphs. What is in the cache when it fails stays there. -/
abbrev Cached := ExceptT Error (StateM GraphCache)

namespace Cached

def built (registry : Registry) (policy : NeedsPolicy) (dag : Dag) : Cached BuiltGraph :=
  ExceptT.mk fun cache => cache.fetch registry policy dag

def graph (registry : Registry) (policy : NeedsPolicy) (dag : Dag) : Cached Graph :=
  BuiltGraph.graph <$> built registry policy dag

def collect (registry : Registry) (policy : NeedsPolicy) (dag : Dag) : Cached Manifest := do
  Recipe.collect registry (graph registry policy) (← graph registry policy dag)

def compile (registry : Registry) (options : Options) (provider : MetadataProvider)
    (entry : TemplateKey) (metadata : Option PackageMetadata) : Cached Pipeline :=
  compileWith (graph registry options.needsPolicy) registry options provider entry metadata

def publish (registry : Registry) (options : Options) (provider : MetadataProvider)
    (publisher : Pipeline → String → Except Error Unit) (entry : TemplateKey)
    (description : String) : Cached Pipeline := do
  let pipeline ← compile registry options provider entry none
  MonadExcept.ofExcept (publisher pipeline description)
  return pipeline

end Cached

end Recipe
