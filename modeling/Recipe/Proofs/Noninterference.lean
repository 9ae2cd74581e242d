import Recipe.Proofs.Dependencies
import Recipe.Proofs.Registration

/-!
# Options and providers

A pipeline is made from a graph and its manifest, which depend on the registry, the entry and the
needs policy alone. All else that a compilation is given, be it an option, the provider or the
metadata, adds the name of the first graph and the tags and sources of the dependencies, and may
refuse the pipeline, but changes nothing in it.
-/

set_option autoImplicit false

namespace Recipe

open Relation

variable {registry : Registry} {options others : Options} {provider supplier : MetadataProvider}
  {entry : TemplateKey} {metadata given : Option PackageMetadata} {pipeline second : Pipeline}

/-- **Two pipelines of one entry are made from the same graph and the same manifest.** -/
theorem exists_madeFrom_both (hpolicy : others.needsPolicy = options.needsPolicy)
    (h : compile registry options provider entry metadata = .ok pipeline)
    (hsecond : compile registry others supplier entry given = .ok second) :
    ∃ graph manifest, pipeline.MadeFrom graph manifest options provider ∧
      second.MadeFrom graph manifest others supplier := by
  obtain ⟨graph, manifest, hbuild, hcollect, hmade⟩ := madeFrom_of_compile h
  obtain ⟨graph', manifest', hbuild', hcollect', hmade'⟩ := madeFrom_of_compile hsecond
  -- what is built and collected depends on the policy and on no other option
  rw [hpolicy] at hbuild' hcollect'
  obtain rfl := hbuild.unique hbuild'
  obtain rfl := Except.ok.inj (hcollect.symm.trans hcollect')
  exact ⟨graph', manifest, hmade, hmade'⟩

/-- The dependencies have the kinds and the names of the packages, whatever is recorded besides. -/
theorem Pipeline.MadeFrom.names {graph : Graph} {manifest : Manifest}
    (h : pipeline.MadeFrom graph manifest options provider) :
    pipeline.dependencies.map (fun dependency => (dependency.kind, dependency.name)) =
      manifest.packages.map fun needed => (needed.1, needed.2.name) := by
  rw [h.dependencies, List.map_map]
  rfl

/-- A DAG that is reached from the entry has its graph behind the first one. -/
theorem exists_nested_of_reaches {graph : Graph} {manifest : Manifest}
    (hbuild : registry.Builds options.needsPolicy entry graph)
    (hcollect : collect registry (fun dag => dag.build registry options.needsPolicy) graph =
      .ok manifest)
    (hmade : pipeline.MadeFrom graph manifest options provider) {key : TemplateKey}
    (hreaches : TransGen (registry.Nests options.needsPolicy) entry key) :
    ∃ nested ∈ pipeline.flow.tail, nested.name = key.name := by
  obtain ⟨nested, hentry, hnested⟩ := exists_mem_of_reaches hbuild hcollect hreaches
  refine ⟨nested, ?_, congrArg TemplateKey.name hnested.key_eq⟩
  rw [hmade.flow, List.tail_cons]
  exact List.mem_map.mpr ⟨_, hentry, rfl⟩

/-- **A recipe that compiles once compiles with every name for its entry point that is free and with
every provider that does not fail.** -/
theorem exists_compile_of_compile (hpolicy : others.needsPolicy = options.needsPolicy)
    (h : compile registry options provider entry metadata = .ok pipeline)
    (hnamed : Text.isBlankText others.entryPoint = false)
    (hfree : ∀ nested ∈ pipeline.flow.tail, nested.name ≠ others.entryPoint)
    (hknown : ∀ package, ∃ found, supplier package = .ok found) :
    ∃ second, compile registry others supplier entry given = .ok second := by
  obtain ⟨graph, manifest, hbuild, hcollect, hmade⟩ := madeFrom_of_compile h
  have hcompilable := exists_compile_iff.mp ⟨pipeline, h⟩
  refine exists_compile_iff.mpr
    { named := hnamed
      registered := hcompilable.registered
      builds := ?_
      acyclic := ?_
      entry_point := ?_
      metadata_known := fun _ dag _ => hknown dag.definition.package
      packages_known := fun _ _ _ _ target _ _ => hknown target.package }
  · rw [hpolicy]
    exact hcompilable.builds
  · rw [hpolicy]
    exact hcompilable.acyclic
  · rw [hpolicy]
    intro key hreaches hname
    obtain ⟨nested, hnested, hsame⟩ := exists_nested_of_reaches hbuild hcollect hmade hreaches
    exact hfree nested hnested (hsame.trans hname)

/-! ## After every history -/

namespace History

/-- **Options and providers touch nothing but what they should.** Two compilations of one entry in
registries with the same templates and under one needs policy, whatever was done before each of
them, give pipelines that are made from the same graphs and the same packages. The second succeeds
if the first did, its entry point has a name that no nested graph has, and its provider does not
fail. -/
theorem surroundings_noninterfering (past present : List Operation) {name other : String}
    (htemplates : ((after present).registry other).templates =
      ((after past).registry name).templates)
    {options others : Options} (hpolicy : others.needsPolicy = options.needsPolicy)
    {provider : MetadataProvider} (supplier : MetadataProvider) {entry : TemplateKey}
    {metadata : Option PackageMetadata} (given : Option PackageMetadata) {pipeline : Pipeline}
    (h : (after past).compiled name options provider entry metadata = .ok pipeline) :
    (∀ second, (after present).compiled other others supplier entry given = .ok second →
      second.dependencies.map (fun dependency => (dependency.kind, dependency.name)) =
          pipeline.dependencies.map (fun dependency => (dependency.kind, dependency.name)) ∧
        ∃ graph manifest, pipeline.MadeFrom graph manifest options provider ∧
          second.MadeFrom graph manifest others supplier) ∧
    (Text.isBlankText others.entryPoint = false →
      (∀ nested ∈ pipeline.flow.tail, nested.name ≠ others.entryPoint) →
      (∀ package, ∃ found, supplier package = .ok found) →
      ∃ second, (after present).compiled other others supplier entry given = .ok second) := by
  simp only [(sound_after present).compiled_eq]
  rw [(sound_after past).compiled_eq] at h
  -- the first pipeline is compiled in the registry of the second just as well
  have hextends : ((after present).registry other).Extends ((after past).registry name) :=
    Registry.extends_of_prefix (by rw [htemplates])
  have hfirst := compile_of_extends hextends h
  refine ⟨?_, exists_compile_of_compile hpolicy hfirst⟩
  intro second hsecond
  obtain ⟨graph, manifest, hmade, hmade'⟩ := exists_madeFrom_both hpolicy hfirst hsecond
  exact ⟨hmade'.names.trans hmade.names.symm, graph, manifest, hmade, hmade'⟩

/-- Options that have nothing but the needs policy in common with the default ones. -/
def voyageOptions : Options where
  entryPoint := "voyage"
  dependencySource := some "https://registry.example.com/packages"
  warnSingleTaskGroup := false

/-- The history after a compilation with the default options. -/
def ferryAgain : List Operation :=
  ferryHistory ++
    [.compile "main" {} (MetadataProvider.ofList []) ⟨"journeys", "leave"⟩ none]

theorem ferryHistory_surroundings :
    ((after ferryAgain).registry "main").templates =
      ((after ferryHistory).registry "main").templates ∧
    ∃ pipeline second,
      (after ferryHistory).compiled "main" {} (MetadataProvider.ofList []) ⟨"journeys", "leave"⟩
        none = .ok pipeline ∧
      (after ferryAgain).compiled "main" voyageOptions latestBoats ⟨"journeys", "leave"⟩
        (some { name := "voyages", tag := "7" }) = .ok second ∧
      second.dependencies.map (fun dependency => (dependency.kind, dependency.name)) =
        [(.plugin, "boats"), (.recipe, "islands")] ∧
      ∃ graph manifest, pipeline.MadeFrom graph manifest {} (MetadataProvider.ofList []) ∧
        second.MadeFrom graph manifest voyageOptions latestBoats := by
  have htemplates : ((after ferryAgain).registry "main").templates =
      ((after ferryHistory).registry "main").templates := by
    rw [State.registry, State.registry, Workspace.templates_registry,
      Workspace.templates_registry]
    exact (after ferryHistory).workspace.templatesUnder_registry "main" "main"
  have hrun : (fun pipeline : Pipeline =>
      (pipeline.flow.tail.map (·.name),
        pipeline.dependencies.map fun dependency => (dependency.kind, dependency.name))) <$>
      (after ferryHistory).compiled "main" {} (MetadataProvider.ofList [])
        ⟨"journeys", "leave"⟩ none =
      .ok (["there"], [(.plugin, "boats"), (.recipe, "islands")]) := by cbv
  obtain ⟨pipeline, hpipeline, hparts⟩ := map_eq_ok.mp hrun
  obtain ⟨hnested, hdependencies⟩ := Prod.mk.inj hparts
  have hpolicy : voyageOptions.needsPolicy = Options.needsPolicy {} := rfl
  obtain ⟨hboth, hsucceeds⟩ := surroundings_noninterfering ferryHistory ferryAgain htemplates
    hpolicy latestBoats (some { name := "voyages", tag := "7" }) hpipeline
  have hfree : ∀ nested ∈ pipeline.flow.tail, nested.name ≠ voyageOptions.entryPoint := by
    intro nested hmem
    have hname := List.mem_map_of_mem (f := Graph.name) hmem
    rw [hnested, List.mem_singleton] at hname
    rw [hname]
    decide
  obtain ⟨second, hsecond⟩ := hsucceeds (by decide) hfree fun package => ⟨_, rfl⟩
  obtain ⟨hnames, hmade⟩ := hboth second hsecond
  exact ⟨htemplates, pipeline, second, hpipeline, hsecond, hnames.trans hdependencies, hmade⟩

end History

end Recipe
