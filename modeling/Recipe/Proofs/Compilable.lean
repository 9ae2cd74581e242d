import Recipe.Proofs.Reachability

/-!
# When a recipe compiles

A recipe compiles exactly if nothing is wrong with it: its entry point has a name of its own, all
DAGs that the entry reaches can be built and do not run each other in a cycle, and the provider does
not fail on a package that it is asked about. That the pipeline is closed is checked in the end, but
never fails.
-/

set_option autoImplicit false

namespace Recipe

open Relation

/-! ## The last check -/

namespace Pipeline

variable {registry : Registry} {options : Options} {provider : MetadataProvider}
  {graph found : Graph} {manifest : Manifest} {pipeline : Pipeline}

theorem Assembles.provides (h : pipeline.Assembles registry options graph manifest)
    (hfound : found ∈ pipeline.flow) {task : GraphTask} (htask : task ∈ found.tasks) :
    pipeline.provides found.package task.target = true := by
  have hmet := h.meets hfound ⟨task, htask, rfl⟩
  unfold Pipeline.provides
  unfold Definition.requirement at hmet
  cases hroute : task.target.route found.package with
  | plugin =>
      rw [hroute] at hmet
      obtain ⟨dependency, hmem, hkind, hname⟩ := h.plugins _ hmet
      exact List.any_eq_true.mpr ⟨dependency, hmem, by simp [hkind, hname]⟩
  | recipe =>
      rw [hroute] at hmet
      obtain ⟨dependency, hmem, hkind, hname⟩ := h.recipes _ hmet
      exact List.any_eq_true.mpr ⟨dependency, hmem, by simp [hkind, hname]⟩
  | nested =>
      rw [hroute] at hmet
      obtain ⟨entry, hentry, hname⟩ := List.mem_map.mp hmet
      have hflow : entry.2 ∈ pipeline.flow := by
        rw [h.flow]
        exact List.mem_cons_of_mem _ (List.mem_map_of_mem hentry)
      refine List.any_eq_true.mpr ⟨entry.2, hflow, ?_⟩
      rw [beq_iff_eq, (h.nested hentry).1.name, hname]

/-- **The last check never rejects an assembled pipeline.** -/
theorem Assembles.ensureClosed (h : pipeline.Assembles registry options graph manifest) :
    pipeline.ensureClosed = .ok () := by
  unfold Pipeline.ensureClosed
  rw [forM_eq_ok]
  intro found hfound
  rw [forM_eq_ok]
  intro task htask
  rw [if_pos (h.provides hfound htask)]
  rfl

theorem assembles_of_collect {entry : TemplateKey} {metadata : PackageMetadata}
    (hbuild : registry.Builds options.needsPolicy entry graph)
    (hcollect : collect registry (fun dag => dag.build registry options.needsPolicy) graph =
      .ok manifest)
    (hassemble : assemble options provider graph manifest metadata = .ok pipeline) :
    pipeline.Assembles registry options graph manifest :=
  { toHolds := holds_of_assemble hassemble
    collects := collects_of_collect hbuild hcollect }

/-! ## Assembly -/

/-- A pipeline can be assembled exactly if no name clashes and the provider fails on no package. -/
theorem exists_assemble_iff (graph : Graph) (metadata : PackageMetadata) :
    (∃ pipeline, assemble options provider graph manifest metadata = .ok pipeline) ↔
      options.entryPoint ∉ manifest.dags.names ∧
      (∀ package ∈ manifest.plugins, ∃ found, provider package = .ok found) ∧
      ∀ package ∈ manifest.recipes, ∃ found, provider package = .ok found := by
  simp only [assemble_eq_ok, exists_and_left, exists_eq, and_true, Manifest.packages,
    List.forall_mem_append, List.forall_mem_map]

end Pipeline

variable {registry : Registry} {options : Options} {provider : MetadataProvider}
  {entry : TemplateKey} {metadata : Option PackageMetadata}

theorem exists_pipelineMetadata_iff {package : PackageId} :
    (∃ found, pipelineMetadata provider package metadata = .ok found) ↔
      (metadata = none → ∃ found, provider package = .ok found) := by
  cases metadata with
  | none =>
      simp only [pipelineMetadata, bind_eq_ok, pure_eq_ok, forall_const]
      constructor
      · rintro ⟨_, found, hfound, -⟩
        exact ⟨found, hfound⟩
      · rintro ⟨found, hfound⟩
        exact ⟨_, found, hfound, rfl⟩
  | some given => simp [pipelineMetadata, pure_eq_ok]

theorem Options.validate_eq_ok {u : Unit} :
    options.validate = .ok u ↔ Text.isBlankText options.entryPoint = false := by
  rw [validate, guard_eq_ok, pure_eq_ok]
  simp

/-! ## Compilation -/

/-- **What it takes to compile a recipe.** -/
structure Compilable (registry : Registry) (options : Options) (provider : MetadataProvider)
    (entry : TemplateKey) (metadata : Option PackageMetadata) : Prop where
  /-- The entry point has a name. -/
  named : Text.isBlankText options.entryPoint = false
  /-- The entry is a DAG. -/
  registered : ∃ dag, registry.dag entry = .ok dag
  /-- It can be built, and so can all DAGs that it reaches within its package. -/
  builds : ∀ other, ReflTransGen (registry.Nests options.needsPolicy) entry other →
    ∃ graph, registry.Builds options.needsPolicy other graph
  /-- None of them is reached from itself. -/
  acyclic : ∀ other, ReflTransGen (registry.Nests options.needsPolicy) entry other →
    ¬ TransGen (registry.Nests options.needsPolicy) other other
  /-- No DAG that is reached has the name of the entry point. -/
  entry_point : ∀ other, TransGen (registry.Nests options.needsPolicy) entry other →
    other.name ≠ options.entryPoint
  /-- If no metadata is given, the provider does not fail on the package of the entry. -/
  metadata_known : metadata = none → ∀ dag, registry.dag entry = .ok dag →
    ∃ found, provider dag.definition.package = .ok found
  /-- Nor does it on the package of a function, or of a DAG of another package, that some graph
  runs. -/
  packages_known : ∀ other graph,
    ReflTransGen (registry.Nests options.needsPolicy) entry other →
    registry.Builds options.needsPolicy other graph → ∀ target, graph.RunsTarget target →
    (target.kind = .function ∨ target.kind = .dag ∧ target.package ≠ graph.package) →
    ∃ found, provider target.package = .ok found

variable {graph : Graph} {manifest : Manifest}

/-- The provider is asked about the packages of what the searched graphs run. -/
theorem forall_packages_iff (hbuild : registry.Builds options.needsPolicy entry graph)
    (hcollect : collect registry (fun dag => dag.build registry options.needsPolicy) graph =
      .ok manifest) :
    ((∀ package ∈ manifest.plugins, ∃ found, provider package = .ok found) ∧
      ∀ package ∈ manifest.recipes, ∃ found, provider package = .ok found) ↔
    ∀ other graph, ReflTransGen (registry.Nests options.needsPolicy) entry other →
      registry.Builds options.needsPolicy other graph → ∀ target, graph.RunsTarget target →
      (target.kind = .function ∨ target.kind = .dag ∧ target.package ≠ graph.package) →
      ∃ found, provider target.package = .ok found := by
  have hexact := exact_of_collect hbuild hcollect
  constructor
  · rintro ⟨hplugins, hrecipes⟩ other found hreaches hfound target htarget hexternal
    have hsearched := (mem_searched_iff hbuild hcollect).mpr ⟨other, hreaches, hfound⟩
    rcases hexternal with hkind | ⟨hkind, hpackage⟩
    · exact hplugins _ ((hexact.plugins _).mpr ⟨found, hsearched, target, htarget, hkind, rfl⟩)
    · exact hrecipes _
        ((hexact.recipes _).mpr ⟨found, hsearched, target, htarget, hkind, hpackage, rfl⟩)
  · intro hknown
    constructor
    · intro package hpackage
      obtain ⟨found, hsearched, target, htarget, hkind, rfl⟩ := (hexact.plugins _).mp hpackage
      obtain ⟨other, hreaches, hfound⟩ := (mem_searched_iff hbuild hcollect).mp hsearched
      exact hknown other found hreaches hfound target htarget (Or.inl hkind)
    · intro package hpackage
      obtain ⟨found, hsearched, target, htarget, hkind, hother, rfl⟩ :=
        (hexact.recipes _).mp hpackage
      obtain ⟨other, hreaches, hfound⟩ := (mem_searched_iff hbuild hcollect).mp hsearched
      exact hknown other found hreaches hfound target htarget (Or.inr ⟨hkind, hother⟩)

/-- A collected graph makes a closed pipeline exactly if no name clashes and no package is unknown
to the provider. -/
theorem exists_closedPipeline_iff {package : PackageId}
    (hbuild : registry.Builds options.needsPolicy entry graph)
    (hcollect : collect registry (fun dag => dag.build registry options.needsPolicy) graph =
      .ok manifest) :
    (∃ pipeline, closedPipeline options provider package metadata graph manifest = .ok pipeline) ↔
      (metadata = none → ∃ found, provider package = .ok found) ∧
      options.entryPoint ∉ manifest.dags.names ∧
      (∀ package ∈ manifest.plugins, ∃ found, provider package = .ok found) ∧
      ∀ package ∈ manifest.recipes, ∃ found, provider package = .ok found := by
  rw [← exists_pipelineMetadata_iff]
  simp only [closedPipeline, bind_eq_ok, pure_eq_ok]
  constructor
  · rintro ⟨_, found, hfound, pipeline, hassemble, -, -, -⟩
    exact ⟨⟨found, hfound⟩, (Pipeline.exists_assemble_iff graph found).mp ⟨pipeline, hassemble⟩⟩
  · rintro ⟨⟨found, hfound⟩, hparts⟩
    obtain ⟨pipeline, hassemble⟩ := (Pipeline.exists_assemble_iff graph found).mpr hparts
    have hassembles := Pipeline.assembles_of_collect hbuild hcollect hassemble
    exact ⟨pipeline, found, hfound, pipeline, hassemble, (), hassembles.ensureClosed, rfl⟩

/-- **A recipe compiles exactly if nothing is wrong with it.** -/
theorem exists_compile_iff :
    (∃ pipeline, compile registry options provider entry metadata = .ok pipeline) ↔
      Compilable registry options provider entry metadata := by
  simp only [compile, compileWith, ofExcept_eq, bind_eq_ok, Options.validate_eq_ok]
  constructor
  · rintro ⟨pipeline, -, hnamed, dag, hdag, graph, hbuild, manifest, hcollect, hclosed⟩
    have hbuilds : registry.Builds options.needsPolicy entry graph := ⟨dag, hdag, hbuild⟩
    obtain ⟨hnested, hacyclic⟩ := (exists_collect_iff hbuilds).mp ⟨manifest, hcollect⟩
    obtain ⟨hmetadata, hclash, hknown⟩ :=
      (exists_closedPipeline_iff hbuilds hcollect).mp ⟨pipeline, hclosed⟩
    refine
      { named := hnamed
        registered := ⟨dag, hdag⟩
        builds := ?_
        acyclic := hacyclic
        entry_point := ?_
        metadata_known := ?_
        packages_known := (forall_packages_iff hbuilds hcollect).mp hknown }
    · intro other hreaches
      rcases reflTransGen_iff_eq_or_transGen.mp hreaches with rfl | hreaches
      · exact ⟨graph, hbuilds⟩
      · exact hnested other hreaches
    · intro other hreaches hname
      exact hclash ((mem_names_iff_of_collect hbuilds hcollect).mpr ⟨other, hreaches, hname⟩)
    · intro hnone found hfound
      obtain rfl := Except.ok.inj (hdag.symm.trans hfound)
      exact hmetadata hnone
  · intro h
    obtain ⟨graph, dag, hdag, hbuild⟩ := h.builds entry ReflTransGen.refl
    have hbuilds : registry.Builds options.needsPolicy entry graph := ⟨dag, hdag, hbuild⟩
    obtain ⟨manifest, hcollect⟩ := (exists_collect_iff hbuilds).mpr
      ⟨fun other hreaches => h.builds other hreaches.to_reflTransGen, h.acyclic⟩
    have hclash : options.entryPoint ∉ manifest.dags.names := by
      intro hmem
      obtain ⟨other, hreaches, hname⟩ := (mem_names_iff_of_collect hbuilds hcollect).mp hmem
      exact h.entry_point other hreaches hname
    obtain ⟨pipeline, hclosed⟩ := (exists_closedPipeline_iff hbuilds hcollect).mpr
      ⟨fun hnone => h.metadata_known hnone dag hdag, hclash,
        (forall_packages_iff hbuilds hcollect).mpr h.packages_known⟩
    exact ⟨pipeline, (), h.named, dag, hdag, graph, hbuild, manifest, hcollect, hclosed⟩

/-! ## After every history -/

namespace History

/-- **A recipe compiles exactly if nothing is wrong with it**, after any history. The check that
comes last is passed by every pipeline that is assembled from a manifest. -/
theorem compile_succeeds_iff (history : List Operation) (name : String) (options : Options)
    (provider : MetadataProvider) (entry : TemplateKey) (metadata : Option PackageMetadata) :
    ((∃ pipeline, ((after history).run name fun registry =>
        Cached.compile registry options provider entry metadata).1 = .ok pipeline) ↔
      Compilable ((after history).registry name) options provider entry metadata) ∧
    ∀ dag graph manifest found pipeline,
      ((after history).registry name).dag entry = .ok dag →
      dag.build ((after history).registry name) options.needsPolicy = .ok graph →
      ((after history).run name fun registry =>
        Cached.collect registry options.needsPolicy dag).1 = .ok manifest →
      Pipeline.assemble options provider graph manifest found = .ok pipeline →
      pipeline.ensureClosed = .ok () := by
  rw [((sound_after history).run_compile name options provider entry metadata).1]
  refine ⟨exists_compile_iff, ?_⟩
  intro dag graph manifest found pipeline hdag hbuild hcollect hassemble
  rw [run_collect_eq history name hdag hbuild] at hcollect
  exact (Pipeline.assembles_of_collect ⟨dag, hdag, hbuild⟩ hcollect hassemble).ensureClosed

theorem ferryHistory_compile_succeeds :
    Compilable ((after ferryHistory).registry "main") {} (MetadataProvider.ofList [])
      ⟨"journeys", "leave"⟩ none ∧
    ¬ Compilable ((after ferryHistory).registry "main") { entryPoint := "there" }
      (MetadataProvider.ofList []) ⟨"journeys", "leave"⟩ none ∧
    ∃ dag graph manifest pipeline,
      ((after ferryHistory).registry "main").dag ⟨"journeys", "leave"⟩ = .ok dag ∧
      dag.build ((after ferryHistory).registry "main") .infer = .ok graph ∧
      ((after ferryHistory).run "main" fun registry => Cached.collect registry .infer dag).1 =
        .ok manifest ∧
      Pipeline.assemble {} (MetadataProvider.ofList []) graph manifest
        (.ofPackage ⟨"journeys", "1.0.0"⟩) = .ok pipeline ∧
      pipeline.ensureClosed = .ok () := by
  have hsucceeds : ((after ferryHistory).run "main" fun registry =>
      Cached.compile registry {} (MetadataProvider.ofList []) ⟨"journeys", "leave"⟩
        none).1.isOk = true := by cbv
  have hfails : ((after ferryHistory).run "main" fun registry =>
      Cached.compile registry { entryPoint := "there" } (MetadataProvider.ofList [])
        ⟨"journeys", "leave"⟩ none).1.isOk = false := by cbv
  have hassembled : (do
      let dag ← ((after ferryHistory).registry "main").dag ⟨"journeys", "leave"⟩
      let graph ← dag.build ((after ferryHistory).registry "main") .infer
      let manifest ←
        ((after ferryHistory).run "main" fun registry => Cached.collect registry .infer dag).1
      Pipeline.assemble {} (MetadataProvider.ofList []) graph manifest
        (.ofPackage ⟨"journeys", "1.0.0"⟩)).isOk = true := by cbv
  obtain ⟨hiff, hclosed⟩ := compile_succeeds_iff ferryHistory "main" {}
    (MetadataProvider.ofList []) ⟨"journeys", "leave"⟩ none
  refine ⟨hiff.mp (exists_of_isOk hsucceeds), ?_, ?_⟩
  · intro h
    obtain ⟨pipeline, hpipeline⟩ := (compile_succeeds_iff ferryHistory "main"
      { entryPoint := "there" } (MetadataProvider.ofList []) ⟨"journeys", "leave"⟩ none).1.mpr h
    rw [hpipeline] at hfails
    cases hfails
  · obtain ⟨pipeline, h⟩ := exists_of_isOk hassembled
    simp only [bind_eq_ok] at h
    obtain ⟨dag, hdag, graph, hbuild, manifest, hcollect, hassemble⟩ := h
    exact ⟨dag, graph, manifest, pipeline, hdag, hbuild, hcollect, hassemble,
      hclosed dag graph manifest _ pipeline hdag hbuild hcollect hassemble⟩

end History

end Recipe
