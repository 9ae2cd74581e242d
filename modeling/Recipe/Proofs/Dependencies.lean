import Recipe.Proofs.Compilable
import Mathlib.Data.List.Nodup
import Mathlib.Data.Prod.Basic

/-!
# Dependencies

What is recorded of the packages that a pipeline depends on. Each of them has one record, with the
name of the package and with the tag that the provider knows, so that the tag by which two packages
of one name were told apart may be gone from their records. No record is repeated exactly if the
provider has different tags for different packages (`dependencies_nodup_iff`).
-/

set_option autoImplicit false

namespace Recipe

/-! ## Packages -/

/-- Some task of the flow runs a function of a package, which is then a plugin, or runs a DAG of it
from another package, and then it is a recipe. -/
def Pipeline.Uses (pipeline : Pipeline) (kind : DependencyKind) (package : PackageId) : Prop :=
  ∃ graph ∈ pipeline.flow, ∃ target, graph.RunsTarget target ∧ target.package = package ∧
    (kind = .plugin ∧ target.kind = .function ∨
      kind = .recipe ∧ target.kind = .dag ∧ target.package ≠ graph.package)

theorem Manifest.nodup_packages {manifest : Manifest} (h : manifest.Distinct) :
    manifest.packages.Nodup := by
  rw [packages, List.nodup_append]
  refine ⟨h.1.map (Prod.mk_right_injective _), h.2.map (Prod.mk_right_injective _), ?_⟩
  intro plugin hplugin recipe hrecipe heq
  obtain ⟨_, -, rfl⟩ := List.mem_map.mp hplugin
  obtain ⟨_, -, rfl⟩ := List.mem_map.mp hrecipe
  cases heq

/-! ## What a pipeline is made of -/

/-- **What a pipeline shows of a graph and its manifest**: the graphs under the name of the entry
point, and a record of each package that is used. -/
structure Pipeline.MadeFrom (pipeline : Pipeline) (graph : Graph) (manifest : Manifest)
    (options : Options) (provider : MetadataProvider) : Prop where
  /-- The flow is the graph, under the name of the entry point, and the nested ones. -/
  flow : pipeline.flow = graph.renamed options.entryPoint :: manifest.dags.map Prod.snd
  /-- The dependencies are records of the packages in the manifest. -/
  dependencies : pipeline.dependencies = manifest.packages.map (dependencyRecord options provider)
  /-- These are the packages of what the tasks of the flow run. -/
  uses : ∀ kind package, (kind, package) ∈ manifest.packages ↔ pipeline.Uses kind package
  /-- The provider did not fail on them. -/
  answered : ∀ needed ∈ manifest.packages, ∃ found, provider needed.2 = .ok found

namespace Pipeline

variable {registry : Registry} {options : Options} {provider : MetadataProvider} {graph : Graph}
  {manifest : Manifest} {pipeline : Pipeline}

theorem Assembles.mem_packages_iff (h : pipeline.Assembles registry options graph manifest)
    {kind : DependencyKind} {package : PackageId} :
    (kind, package) ∈ manifest.packages ↔ pipeline.Uses kind package := by
  rw [Manifest.mem_packages]
  constructor
  · rintro (⟨rfl, hmet⟩ | ⟨rfl, hmet⟩)
    · obtain ⟨found, hfound, target, htarget, hneed⟩ := h.exists_target (.plugin package) hmet
      obtain ⟨hkind, hpackage⟩ := Definition.of_requirement_plugin hneed
      exact ⟨found, hfound, target, htarget, hpackage, Or.inl ⟨rfl, hkind⟩⟩
    · obtain ⟨found, hfound, target, htarget, hneed⟩ := h.exists_target (.recipe package) hmet
      obtain ⟨hkind, hother, hpackage⟩ := Definition.of_requirement_recipe hneed
      exact ⟨found, hfound, target, htarget, hpackage, Or.inr ⟨rfl, hkind, hother⟩⟩
  · rintro ⟨found, hfound, target, htarget, rfl, ⟨rfl, hkind⟩ | ⟨rfl, hkind, hother⟩⟩
    · have hmet := h.meets hfound htarget
      rw [Definition.requirement_function hkind] at hmet
      exact Or.inl ⟨rfl, hmet⟩
    · have hmet := h.meets hfound htarget
      rw [Definition.requirement_recipe hkind hother] at hmet
      exact Or.inr ⟨rfl, hmet⟩

/-- An assembled pipeline has the graphs and the packages of its manifest. -/
theorem madeFrom_of_assemble {entry : TemplateKey} {metadata : PackageMetadata}
    (hbuild : registry.Builds options.needsPolicy entry graph)
    (hcollect : collect registry (fun dag => dag.build registry options.needsPolicy) graph =
      .ok manifest)
    (h : assemble options provider graph manifest metadata = .ok pipeline) :
    pipeline.MadeFrom graph manifest options provider := by
  have hassembles := assembles_of_collect hbuild hcollect h
  obtain ⟨-, hanswered, hpipeline⟩ := assemble_eq_ok.mp h
  exact
    { flow := hassembles.flow
      dependencies := congrArg Pipeline.dependencies hpipeline
      uses := fun _ _ => hassembles.mem_packages_iff
      answered := hanswered }

end Pipeline

/-- **A compiled pipeline is made from the graph of its entry and what that depends on**, whatever
the options and the provider add. -/
theorem madeFrom_of_compile {registry : Registry} {options : Options} {provider : MetadataProvider}
    {entry : TemplateKey} {metadata : Option PackageMetadata} {pipeline : Pipeline}
    (h : compile registry options provider entry metadata = .ok pipeline) :
    ∃ graph manifest, registry.Builds options.needsPolicy entry graph ∧
      collect registry (fun dag => dag.build registry options.needsPolicy) graph = .ok manifest ∧
      pipeline.MadeFrom graph manifest options provider := by
  simp only [compile, compileWith, closedPipeline, ofExcept_eq, bind_eq_ok, pure_eq_ok] at h
  obtain ⟨-, -, dag, hdag, graph, hbuild, manifest, hcollect, _, -, _, hassemble, -, -, rfl⟩ := h
  exact ⟨graph, manifest, ⟨dag, hdag, hbuild⟩, hcollect,
    Pipeline.madeFrom_of_assemble ⟨dag, hdag, hbuild⟩ hcollect hassemble⟩

/-- Records of distinct packages are distinct exactly if no two packages of one kind and one name
have the same tag. -/
theorem nodup_records_iff {options : Options} {provider : MetadataProvider}
    {packages : List (DependencyKind × PackageId)} (h : packages.Nodup) :
    (packages.map (dependencyRecord options provider)).Nodup ↔
      ∀ kind package other, (kind, package) ∈ packages → (kind, other) ∈ packages →
        package.name = other.name → provider.tag package = provider.tag other →
        package = other := by
  rw [List.nodup_map_iff_inj_on h]
  constructor
  · intro hinjective kind package other hpackage hother hname htag
    have hrecords : dependencyRecord options provider (kind, package) =
        dependencyRecord options provider (kind, other) := by
      simp only [dependencyRecord, hname, htag]
    exact (Prod.mk.inj (hinjective _ hpackage _ hother hrecords)).2
  · rintro happart ⟨kind, package⟩ hpackage ⟨other, found⟩ hfound hrecords
    simp only [dependencyRecord, Dependency.mk.injEq, and_true] at hrecords
    obtain ⟨rfl, hname, htag⟩ := hrecords
    rw [happart kind package found hpackage hfound hname htag]

/-! ## After every history -/

namespace History

/-- **No record of a dependency is repeated exactly if the provider tells apart, by their tags, any
two packages of one name that are used alike.** What is used is collected without repetitions, but
by the declared tags. -/
theorem dependencies_nodup_iff (history : List Operation) (name : String) {options : Options}
    {provider : MetadataProvider} {entry : TemplateKey} {metadata : Option PackageMetadata}
    {pipeline : Pipeline}
    (h : (after history).compiled name options provider entry metadata = .ok pipeline) :
    pipeline.dependencies.Nodup ↔
      ∀ kind package other, pipeline.Uses kind package → pipeline.Uses kind other →
        package.name = other.name → provider.tag package = provider.tag other →
        package = other := by
  rw [(sound_after history).compiled_eq] at h
  obtain ⟨graph, manifest, hbuild, hcollect, hmade⟩ := madeFrom_of_compile h
  have hdistinct := (exact_of_collect hbuild hcollect).packages
  rw [hmade.dependencies, nodup_records_iff (Manifest.nodup_packages hdistinct)]
  simp only [hmade.uses]

/-- A function of a later version of the package that has `setSail`. -/
def dropAnchor : Function where
  definition :=
    { name := "drop-anchor"
      kind := .function
      package := ⟨"boats", "2.0.0"⟩
      outputs := [{ name := "depth", kind := .number, path := some "depth.txt" }] }
  body := .command "drop"

/-- A history with a DAG that runs functions of two versions of one package. -/
def fleetHistory : List Operation :=
  [.registerFunction "main" setSail, .registerFunction "main" dropAnchor,
   .declare (leg ⟨"journeys", "leave"⟩ [setSail.key, dropAnchor.key]),
   .registerDag "main" 0]

/-- A provider to which all versions of the package are one. -/
def latestBoats : MetadataProvider := MetadataProvider.ofList [{ name := "boats", tag := "3.0.0" }]

theorem fleetHistory_dependencies_nodup :
    ∃ pipeline,
      (after fleetHistory).compiled "main" {} (MetadataProvider.ofList []) ⟨"journeys", "leave"⟩
        none = .ok pipeline ∧
      pipeline.dependencies.map (·.tag) = ["1.0.0", "2.0.0"] ∧
      ∀ kind package other, pipeline.Uses kind package → pipeline.Uses kind other →
        package.name = other.name →
        (MetadataProvider.ofList []).tag package = (MetadataProvider.ofList []).tag other →
        package = other := by
  have hrun : (fun pipeline : Pipeline => pipeline.dependencies) <$>
      (after fleetHistory).compiled "main" {} (MetadataProvider.ofList [])
        ⟨"journeys", "leave"⟩ none =
      .ok [⟨.plugin, "boats", "1.0.0", none⟩, ⟨.plugin, "boats", "2.0.0", none⟩] := by cbv
  obtain ⟨pipeline, hpipeline, hdependencies⟩ := map_eq_ok.mp hrun
  refine ⟨pipeline, hpipeline, by rw [hdependencies]; rfl, ?_⟩
  refine (dependencies_nodup_iff fleetHistory "main" hpipeline).mp ?_
  rw [hdependencies]
  decide

/-- **A provider that fails on no package may make two records of one.** -/
theorem fleetHistory_repeats_dependency :
    (∀ package, ∃ found, latestBoats package = .ok found) ∧
    ∃ pipeline,
      (after fleetHistory).compiled "main" {} latestBoats ⟨"journeys", "leave"⟩ none =
        .ok pipeline ∧
      pipeline.dependencies =
        [⟨.plugin, "boats", "3.0.0", none⟩, ⟨.plugin, "boats", "3.0.0", none⟩] ∧
      ¬ pipeline.dependencies.Nodup := by
  have hrun : (fun pipeline : Pipeline => pipeline.dependencies) <$>
      (after fleetHistory).compiled "main" {} latestBoats ⟨"journeys", "leave"⟩ none =
      .ok [⟨.plugin, "boats", "3.0.0", none⟩, ⟨.plugin, "boats", "3.0.0", none⟩] := by cbv
  obtain ⟨pipeline, hpipeline, hdependencies⟩ := map_eq_ok.mp hrun
  refine ⟨fun package => ⟨_, rfl⟩, pipeline, hpipeline, hdependencies, ?_⟩
  rw [hdependencies]
  decide

end History

end Recipe
