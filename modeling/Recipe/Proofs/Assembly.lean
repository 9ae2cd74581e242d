import Recipe.Pipeline
import Recipe.Proofs.Outcome
import Recipe.Proofs.Table

/-!
# What a pipeline is assembled from

Assembling fails if a nested DAG has the name of the entry point or the provider fails on a package
of the manifest. Otherwise the pipeline has the graphs of the manifest behind the entry, and one
record of each of its packages (`assemble_eq_ok`).
-/

set_option autoImplicit false

namespace Recipe

/-! ## Records -/

/-- The tag of a package: the one that the provider knows, or else the declared one. -/
def MetadataProvider.tag (provider : MetadataProvider) (package : PackageId) : String :=
  match provider package with
  | .ok (some metadata) => metadata.tag
  | _ => package.tag

/-- The record of a package on which there is a dependency of some kind. -/
def dependencyRecord (options : Options) (provider : MetadataProvider)
    (needed : DependencyKind × PackageId) : Dependency :=
  { kind := needed.1
    name := needed.2.name
    tag := provider.tag needed.2
    source := options.dependencySource }

/-! ## Packages of a manifest -/

namespace Manifest

/-- The packages in a manifest with the kinds of dependencies on them, plugins first. -/
def packages (manifest : Manifest) : List (DependencyKind × PackageId) :=
  manifest.plugins.map (Prod.mk .plugin) ++ manifest.recipes.map (Prod.mk .recipe)

variable {manifest : Manifest} {kind : DependencyKind} {package : PackageId}

theorem mem_packages : (kind, package) ∈ manifest.packages ↔
    kind = .plugin ∧ package ∈ manifest.plugins ∨ kind = .recipe ∧ package ∈ manifest.recipes := by
  rw [packages, List.mem_append, List.mem_map, List.mem_map]
  constructor
  · rintro (⟨found, hfound, heq⟩ | ⟨found, hfound, heq⟩)
    · obtain ⟨rfl, rfl⟩ := Prod.mk.inj heq
      exact Or.inl ⟨rfl, hfound⟩
    · obtain ⟨rfl, rfl⟩ := Prod.mk.inj heq
      exact Or.inr ⟨rfl, hfound⟩
  · rintro (⟨rfl, hpackage⟩ | ⟨rfl, hpackage⟩)
    · exact Or.inl ⟨package, hpackage, rfl⟩
    · exact Or.inr ⟨package, hpackage, rfl⟩

end Manifest

/-! ## Assembly -/

namespace Pipeline

variable {options : Options} {provider : MetadataProvider}

/-- A dependency is on its package exactly if the provider does not fail on it. -/
theorem dependencyOn_eq_ok {kind : DependencyKind} {package : PackageId}
    {dependency : Dependency} :
    dependencyOn options provider kind package = .ok dependency ↔
      (∃ found, provider package = .ok found) ∧
        dependency = dependencyRecord options provider (kind, package) := by
  rw [dependencyOn, bind_eq_ok]
  constructor
  · rintro ⟨found, hfound, hdependency⟩
    rw [pure_eq_ok] at hdependency
    refine ⟨⟨found, hfound⟩, ?_⟩
    rw [← hdependency, dependencyRecord, MetadataProvider.tag, hfound]
    cases found <;> rfl
  · rintro ⟨⟨found, hfound⟩, rfl⟩
    refine ⟨found, hfound, ?_⟩
    rw [pure_eq_ok, dependencyRecord, MetadataProvider.tag, hfound]
    cases found <;> rfl

theorem mapM_dependencyOn_eq_ok {kind : DependencyKind} {packages : List PackageId}
    {dependencies : List Dependency} :
    packages.mapM (dependencyOn options provider kind) = .ok dependencies ↔
      (∀ package ∈ packages, ∃ found, provider package = .ok found) ∧
        dependencies = (packages.map (Prod.mk kind)).map (dependencyRecord options provider) := by
  induction packages generalizing dependencies with
  | nil =>
      rw [List.mapM_nil, pure_eq_ok]
      simp [eq_comm]
  | cons package rest ih =>
      simp only [List.mapM_cons, bind_eq_ok, pure_eq_ok, dependencyOn_eq_ok, ih,
        List.forall_mem_cons, List.map_cons]
      constructor
      · rintro ⟨_, ⟨hfound, rfl⟩, _, ⟨hrest, rfl⟩, rfl⟩
        exact ⟨⟨hfound, hrest⟩, rfl⟩
      · rintro ⟨⟨hfound, hrest⟩, rfl⟩
        exact ⟨_, ⟨hfound, rfl⟩, _, ⟨hrest, rfl⟩, rfl⟩

/-- **A pipeline can be assembled exactly if no name clashes and the provider knows of no fault, and
then it is this one.** -/
theorem assemble_eq_ok {graph : Graph} {manifest : Manifest} {metadata : PackageMetadata}
    {pipeline : Pipeline} :
    assemble options provider graph manifest metadata = .ok pipeline ↔
      options.entryPoint ∉ manifest.dags.names ∧
      (∀ needed ∈ manifest.packages, ∃ found, provider needed.2 = .ok found) ∧
      pipeline =
        { metadata
          dependencies := manifest.packages.map (dependencyRecord options provider)
          flow := graph.renamed options.entryPoint :: manifest.dags.map Prod.snd } := by
  simp only [assemble, check_eq_ok, bind_eq_ok, pure_eq_ok, mapM_dependencyOn_eq_ok,
    Table.has_eq_true, Manifest.packages, List.map_append, List.forall_mem_append,
    List.forall_mem_map]
  constructor
  · rintro ⟨hclash, _, ⟨hplugins, rfl⟩, _, ⟨hrecipes, rfl⟩, rfl⟩
    exact ⟨hclash, ⟨hplugins, hrecipes⟩, rfl⟩
  · rintro ⟨hclash, ⟨hplugins, hrecipes⟩, rfl⟩
    exact ⟨hclash, _, ⟨hplugins, rfl⟩, _, ⟨hrecipes, rfl⟩, rfl⟩

end Pipeline

end Recipe
