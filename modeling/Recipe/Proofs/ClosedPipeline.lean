import Recipe.Proofs.Assembly
import Recipe.Proofs.Cache.History

/-!
# Closed pipelines

A pipeline has all that its graphs run and nothing else. Each DAG of the package that some task runs
has its graph in the flow, once and behind the entry, each function and each DAG of another package
has its package among the dependencies; and each graph behind the entry and each dependency is there
because of some task.
-/

set_option autoImplicit false

namespace Recipe

/-! ## Targets -/

def Graph.RunsTarget (graph : Graph) (target : Definition) : Prop :=
  ∃ task ∈ graph.tasks, task.target = target

namespace Definition

variable {target : Definition} {package : PackageId}

theorem requirement_function (h : target.kind = .function) :
    target.requirement package = .plugin target.package := by
  rw [requirement, route, h]

theorem requirement_recipe (h : target.kind = .dag) (hpackage : target.package ≠ package) :
    target.requirement package = .recipe target.package := by
  simp only [requirement, route, h, if_neg hpackage]

theorem requirement_nested (h : target.kind = .dag) (hpackage : target.package = package) :
    target.requirement package = .dag target.name := by
  simp only [requirement, route, h, if_pos hpackage]

/-- Only a function is needed as a plugin. -/
theorem of_requirement_plugin {found : PackageId} (h : target.requirement package = .plugin found) :
    target.kind = .function ∧ target.package = found := by
  cases hkind : target.kind with
  | function =>
      rw [requirement_function hkind, Requirement.plugin.injEq] at h
      exact ⟨rfl, h⟩
  | dag =>
      by_cases hpackage : target.package = package
      · rw [requirement_nested hkind hpackage] at h
        cases h
      · rw [requirement_recipe hkind hpackage] at h
        cases h

/-- Only a DAG of another package is needed as a recipe. -/
theorem of_requirement_recipe {found : PackageId} (h : target.requirement package = .recipe found) :
    target.kind = .dag ∧ target.package ≠ package ∧ target.package = found := by
  cases hkind : target.kind with
  | function =>
      rw [requirement_function hkind] at h
      cases h
  | dag =>
      by_cases hpackage : target.package = package
      · rw [requirement_nested hkind hpackage] at h
        cases h
      · rw [requirement_recipe hkind hpackage, Requirement.recipe.injEq] at h
        exact ⟨rfl, hpackage, h⟩

/-- Only a DAG of the same package is needed in the flow. -/
theorem of_requirement_dag {name : String} (h : target.requirement package = .dag name) :
    target.kind = .dag ∧ target.package = package ∧ target.name = name := by
  cases hkind : target.kind with
  | function =>
      rw [requirement_function hkind] at h
      cases h
  | dag =>
      by_cases hpackage : target.package = package
      · rw [requirement_nested hkind hpackage, Requirement.dag.injEq] at h
        exact ⟨rfl, hpackage, h⟩
      · rw [requirement_recipe hkind hpackage] at h
        cases h

end Definition

/-! ## Closed pipelines -/

namespace Pipeline

/-- The graph at a place of the flow is the one that is built for the DAG of a key. -/
def BuiltAt (pipeline : Pipeline) (registry : Registry) (policy : NeedsPolicy) (key : TemplateKey)
    (i : Nat) : Prop :=
  ∃ dag graph, registry.dag key = .ok dag ∧ dag.build registry policy = .ok graph ∧
    pipeline.flow[i]? = some graph

/-- **What the pipeline of an entry must be like.** -/
structure Closed (pipeline : Pipeline) (registry : Registry) (options : Options)
    (entry : TemplateKey) : Prop where
  /-- No two graphs have one name. -/
  distinct : (pipeline.flow.map (·.name)).Nodup
  /-- The first graph is that of the entry, under the name of the entry point. -/
  first : ∃ dag graph, registry.dag entry = .ok dag ∧
    dag.build registry options.needsPolicy = .ok graph ∧
    pipeline.flow.head? = some (graph.renamed options.entryPoint)
  /-- So its name is that of the entry point. -/
  entry_point : pipeline.flow.head?.map Graph.name = some options.entryPoint
  /-- Each DAG of the package that a task runs has one graph, behind the first. -/
  nested : ∀ graph ∈ pipeline.flow, ∀ target, graph.RunsTarget target → target.kind = .dag →
    target.package = graph.package → ∃ i, 0 < i ∧
      pipeline.BuiltAt registry options.needsPolicy target.key i ∧
      ∀ j other, pipeline.flow[j]? = some other → (other.name = target.name ↔ j = i)
  /-- Each function that a task runs is in a plugin. -/
  plugins : ∀ graph ∈ pipeline.flow, ∀ target, graph.RunsTarget target → target.kind = .function →
    ∃ dependency ∈ pipeline.dependencies, dependency.kind = .plugin ∧
      dependency.name = target.package.name
  /-- Each DAG of another package that a task runs is in a recipe. -/
  recipes : ∀ graph ∈ pipeline.flow, ∀ target, graph.RunsTarget target → target.kind = .dag →
    target.package ≠ graph.package → ∃ dependency ∈ pipeline.dependencies,
      dependency.kind = .recipe ∧ dependency.name = target.package.name
  /-- Each graph behind the first is that of a DAG of the package that some task runs. -/
  flow_needed : ∀ i found, 0 < i → pipeline.flow[i]? = some found →
    ∃ graph ∈ pipeline.flow, ∃ target, graph.RunsTarget target ∧ target.kind = .dag ∧
      target.package = graph.package ∧ target.name = found.name ∧
      pipeline.BuiltAt registry options.needsPolicy target.key i
  /-- Each dependency is the package of a function or of another package's DAG that some task
  runs. -/
  dependencies_needed : ∀ dependency ∈ pipeline.dependencies,
    ∃ graph ∈ pipeline.flow, ∃ target, graph.RunsTarget target ∧
      target.package.name = dependency.name ∧
      (dependency.kind = .plugin ∧ target.kind = .function ∨
        dependency.kind = .recipe ∧ target.kind = .dag ∧ target.package ≠ graph.package)

end Pipeline

/-- Graphs with distinct names are told apart by them. -/
theorem Pipeline.name_eq_iff {pipeline : Pipeline} (h : (pipeline.flow.map (·.name)).Nodup)
    {i j : Nat} {graph other : Graph} (hi : pipeline.flow[i]? = some graph)
    (hj : pipeline.flow[j]? = some other) : other.name = graph.name ↔ j = i := by
  constructor
  · intro heq
    have hlt : j < (pipeline.flow.map (·.name)).length := by
      rw [List.length_map]
      exact (List.getElem?_eq_some_iff.mp hj).1
    refine (List.getElem?_inj hlt h).mp ?_
    rw [List.getElem?_map, List.getElem?_map, hj, hi, Option.map_some, Option.map_some, heq]
  · rintro rfl
    rw [Option.some.inj (hj.symm.trans hi)]

/-! ## Compilation -/

/-- The parts that a compiled pipeline is assembled from. -/
theorem exists_assembled_of_compile {registry : Registry} {options : Options}
    {provider : MetadataProvider} {entry : TemplateKey} {metadata : Option PackageMetadata}
    {pipeline : Pipeline} (h : compile registry options provider entry metadata = .ok pipeline) :
    ∃ dag graph manifest found, registry.dag entry = .ok dag ∧
      dag.build registry options.needsPolicy = .ok graph ∧
      Collects registry options.needsPolicy graph.package graph.tasks {} manifest ∧
      Pipeline.assemble options provider graph manifest found = .ok pipeline := by
  simp only [compile, compileWith, ofExcept_eq, bind_eq_ok] at h
  obtain ⟨-, -, dag, hdag, graph, hbuild, manifest, hcollect, h⟩ := h
  simp only [closedPipeline, bind_eq_ok, pure_eq_ok] at h
  obtain ⟨found, -, _, hassemble, -, -, rfl⟩ := h
  exact ⟨dag, graph, manifest, found, hdag, hbuild,
    collects_of_collectTasks (Dag.registered_of_build hbuild) hcollect, hassemble⟩

namespace Pipeline

variable {options : Options} {provider : MetadataProvider}

/-- A pipeline whose dependencies and graphs are those of a manifest. -/
structure Holds (pipeline : Pipeline) (manifest : Manifest) (first : Graph) : Prop where
  flow : pipeline.flow = first :: manifest.dags.map Prod.snd
  no_clash : first.name ∉ manifest.dags.names
  plugins : ∀ package ∈ manifest.plugins, ∃ dependency ∈ pipeline.dependencies,
    dependency.kind = .plugin ∧ dependency.name = package.name
  recipes : ∀ package ∈ manifest.recipes, ∃ dependency ∈ pipeline.dependencies,
    dependency.kind = .recipe ∧ dependency.name = package.name
  dependencies : ∀ dependency ∈ pipeline.dependencies,
    (dependency.kind = .plugin ∧ ∃ package ∈ manifest.plugins, dependency.name = package.name) ∨
      dependency.kind = .recipe ∧ ∃ package ∈ manifest.recipes, dependency.name = package.name

theorem holds_of_assemble {graph : Graph} {manifest : Manifest} {metadata : PackageMetadata}
    {pipeline : Pipeline} (h : assemble options provider graph manifest metadata = .ok pipeline) :
    pipeline.Holds manifest (graph.renamed options.entryPoint) := by
  obtain ⟨hclash, -, rfl⟩ := assemble_eq_ok.mp h
  refine
    { flow := rfl
      no_clash := hclash
      plugins := ?_
      recipes := ?_
      dependencies := ?_ }
  · intro package hpackage
    have hmem := Manifest.mem_packages.mpr (Or.inl ⟨rfl, hpackage⟩)
    exact ⟨_, List.mem_map_of_mem hmem, rfl, rfl⟩
  · intro package hpackage
    have hmem := Manifest.mem_packages.mpr (Or.inr ⟨rfl, hpackage⟩)
    exact ⟨_, List.mem_map_of_mem hmem, rfl, rfl⟩
  · intro dependency hmem
    obtain ⟨⟨kind, package⟩, hpackage, rfl⟩ := List.mem_map.mp hmem
    rcases Manifest.mem_packages.mp hpackage with ⟨rfl, hplugin⟩ | ⟨rfl, hrecipe⟩
    · exact Or.inl ⟨rfl, package, hplugin, rfl⟩
    · exact Or.inr ⟨rfl, package, hrecipe, rfl⟩

end Pipeline

/-! ## The flow -/

/-- A collected graph, its manifest, and a pipeline that holds both. -/
structure Pipeline.Assembles (pipeline : Pipeline) (registry : Registry) (options : Options)
    (graph : Graph) (manifest : Manifest) : Prop
    extends pipeline.Holds manifest (graph.renamed options.entryPoint) where
  collects : Collects registry options.needsPolicy graph.package graph.tasks {} manifest

namespace Pipeline.Assembles

variable {registry : Registry} {options : Options} {graph found : Graph} {manifest : Manifest}
  {pipeline : Pipeline} {target : Definition}

theorem nested (h : pipeline.Assembles registry options graph manifest) {entry : String × Graph}
    (hentry : entry ∈ manifest.dags) :
    Nested registry options.needsPolicy graph.package entry ∧
      manifest.Covers entry.2.package entry.2.tasks := by
  rcases h.collects.nested entry hentry with hnone | hnested
  · cases hnone
  · exact hnested

theorem distinct (h : pipeline.Assembles registry options graph manifest) :
    (pipeline.flow.map (·.name)).Nodup := by
  -- each nested graph has the name that it is filed under, and these are distinct
  have hnames : (manifest.dags.map Prod.snd).map (·.name) = manifest.dags.names := by
    rw [List.map_map, Table.names]
    exact List.map_congr_left fun entry hentry => (h.nested hentry).1.name
  rw [h.flow, List.map_cons, hnames, List.nodup_cons]
  exact ⟨h.no_clash, h.collects.distinct List.nodup_nil⟩

/-- Each graph of the flow is of the package, and what its tasks need is in the manifest. -/
theorem covers (h : pipeline.Assembles registry options graph manifest)
    (hfound : found ∈ pipeline.flow) :
    found.package = graph.package ∧ manifest.Covers found.package found.tasks := by
  rw [h.flow] at hfound
  rcases List.mem_cons.mp hfound with rfl | hfound
  · exact ⟨rfl, h.collects.covers⟩
  · obtain ⟨entry, hentry, rfl⟩ := List.mem_map.mp hfound
    obtain ⟨hnested, hcovers⟩ := h.nested hentry
    exact ⟨hnested.package, hcovers⟩

theorem meets (h : pipeline.Assembles registry options graph manifest)
    (hfound : found ∈ pipeline.flow) (htarget : found.RunsTarget target) :
    manifest.Meets (target.requirement found.package) := by
  obtain ⟨task, htask, rfl⟩ := htarget
  exact (h.covers hfound).2 task htask

/-- What is in the manifest is needed by some graph of the flow. -/
theorem exists_target (h : pipeline.Assembles registry options graph manifest)
    (requirement : Requirement) (hmet : manifest.Meets requirement) :
    ∃ found ∈ pipeline.flow, ∃ target, found.RunsTarget target ∧
      target.requirement found.package = requirement := by
  rcases h.collects.asked requirement hmet with hnone | hasks
  · cases requirement <;> cases hnone
  · rw [h.flow]
    rcases hasks with ⟨task, htask, hasks⟩ | ⟨entry, hentry, task, htask, hasks⟩
    · exact ⟨_, List.mem_cons_self, task.target, ⟨task, htask, rfl⟩, hasks⟩
    · exact ⟨entry.2, List.mem_cons_of_mem _ (List.mem_map_of_mem hentry), task.target,
        ⟨task, htask, rfl⟩, hasks⟩

theorem builtAt (h : pipeline.Assembles registry options graph manifest) {k : Nat}
    {entry : String × Graph} (hk : manifest.dags[k]? = some entry) :
    pipeline.BuiltAt registry options.needsPolicy ⟨graph.package.name, entry.1⟩ (k + 1) := by
  obtain ⟨⟨dag, hdag, hbuild⟩, -, -⟩ := (h.nested (List.mem_of_getElem? hk)).1
  refine ⟨dag, entry.2, hdag, hbuild, ?_⟩
  rw [h.flow, List.getElem?_cons_succ, List.getElem?_map, hk]
  rfl

/-- **A pipeline that is assembled from what its entry graph needs is closed.** -/
theorem closed (h : pipeline.Assembles registry options graph manifest) {entry : TemplateKey}
    {dag : Dag} (hdag : registry.dag entry = .ok dag)
    (hbuild : dag.build registry options.needsPolicy = .ok graph) :
    pipeline.Closed registry options entry := by
  refine
    { distinct := h.distinct
      first := ⟨dag, graph, hdag, hbuild, by rw [h.flow]; rfl⟩
      entry_point := by rw [h.flow]; rfl
      nested := ?_
      plugins := ?_
      recipes := ?_
      flow_needed := ?_
      dependencies_needed := ?_ }
  · intro found hfound target htarget hkind hpackage
    have hmet := h.meets hfound htarget
    rw [Definition.requirement_nested hkind hpackage] at hmet
    obtain ⟨nested, hnested, hname⟩ := List.mem_map.mp hmet
    obtain ⟨k, hk⟩ := List.mem_iff_getElem?.mp hnested
    -- the first graph is at place 0, so the nested ones are one place behind their place in the
    -- manifest
    have hbuilt := h.builtAt hk
    rw [hname, ← (h.covers hfound).1, ← hpackage] at hbuilt
    refine ⟨k + 1, Nat.succ_pos k, hbuilt, ?_⟩
    intro j other hother
    have hplace : pipeline.flow[k + 1]? = some nested.2 := by
      rw [h.flow, List.getElem?_cons_succ, List.getElem?_map, hk]
      rfl
    rw [← hname, ← (h.nested hnested).1.name]
    exact Pipeline.name_eq_iff h.distinct hplace hother
  · intro found hfound target htarget hkind
    have hmet := h.meets hfound htarget
    rw [Definition.requirement_function hkind] at hmet
    exact h.plugins _ hmet
  · intro found hfound target htarget hkind hpackage
    have hmet := h.meets hfound htarget
    rw [Definition.requirement_recipe hkind hpackage] at hmet
    exact h.recipes _ hmet
  -- conversely a graph behind the first is in the manifest, where nothing is that no task asked for
  · intro i found hi hfound
    obtain ⟨k, rfl⟩ := Nat.exists_eq_succ_of_ne_zero (Nat.pos_iff_ne_zero.mp hi)
    rw [h.flow, List.getElem?_cons_succ, List.getElem?_map, Option.map_eq_some_iff] at hfound
    obtain ⟨nested, hk, rfl⟩ := hfound
    have hmem := List.mem_of_getElem? hk
    obtain ⟨runner, hrunner, target, htarget, hneed⟩ :=
      h.exists_target (.dag nested.1) (List.mem_map_of_mem hmem)
    obtain ⟨hkind, hpackage, hname⟩ := Definition.of_requirement_dag hneed
    refine ⟨runner, hrunner, target, htarget, hkind, hpackage, ?_, ?_⟩
    · rw [hname, (h.nested hmem).1.name]
    · have hbuilt := h.builtAt hk
      rw [← hname, ← (h.covers hrunner).1, ← hpackage] at hbuilt
      exact hbuilt
  · intro dependency hdependency
    rcases h.dependencies dependency hdependency with ⟨hkind, package, hmet, hname⟩ |
      ⟨hkind, package, hmet, hname⟩
    · obtain ⟨runner, hrunner, target, htarget, hneed⟩ :=
        h.exists_target (.plugin package) hmet
      obtain ⟨hfunction, hpackage⟩ := Definition.of_requirement_plugin hneed
      exact ⟨runner, hrunner, target, htarget, by rw [hpackage, hname], Or.inl ⟨hkind, hfunction⟩⟩
    · obtain ⟨runner, hrunner, target, htarget, hneed⟩ :=
        h.exists_target (.recipe package) hmet
      obtain ⟨hrecipe, hother, hpackage⟩ := Definition.of_requirement_recipe hneed
      exact ⟨runner, hrunner, target, htarget, by rw [hpackage, hname],
        Or.inr ⟨hkind, hrecipe, hother⟩⟩

end Pipeline.Assembles

/-- **A compiled pipeline is closed**, whatever the registry, the options and the provider are. -/
theorem closed_of_compile {registry : Registry} {options : Options} {provider : MetadataProvider}
    {entry : TemplateKey} {metadata : Option PackageMetadata} {pipeline : Pipeline}
    (h : compile registry options provider entry metadata = .ok pipeline) :
    pipeline.Closed registry options entry := by
  obtain ⟨dag, graph, manifest, found, hdag, hbuild, hcollects, hassemble⟩ :=
    exists_assembled_of_compile h
  have hassembles : pipeline.Assembles registry options graph manifest :=
    { toHolds := Pipeline.holds_of_assemble hassemble
      collects := hcollects }
  exact hassembles.closed hdag hbuild

/-! ## After every history -/

namespace History

/-- **A pipeline that is compiled after any history is closed**, with the graphs that building its
DAGs in its registry gives. -/
theorem closed_after (history : List Operation) (name : String) {options : Options}
    {provider : MetadataProvider} {entry : TemplateKey} {metadata : Option PackageMetadata}
    {pipeline : Pipeline}
    (h : ((after history).run name fun registry =>
      Cached.compile registry options provider entry metadata).1 = .ok pipeline) :
    pipeline.Closed ((after history).registry name) options entry := by
  rw [((sound_after history).run_compile name options provider entry metadata).1] at h
  exact closed_of_compile h

theorem letterHistory_closed :
    ∃ pipeline,
      ((after letterHistory).run "copy" fun registry =>
        Cached.compile registry {} (MetadataProvider.ofList []) readLetter.key none).1 =
          .ok pipeline ∧
      pipeline.Closed ((after letterHistory).registry "copy") {} readLetter.key := by
  have hok : ((after letterHistory).run "copy" fun registry =>
      Cached.compile registry {} (MetadataProvider.ofList []) readLetter.key none).1.isOk =
        true := by cbv
  cases hcompile : ((after letterHistory).run "copy" fun registry =>
      Cached.compile registry {} (MetadataProvider.ofList []) readLetter.key none).1 with
  | error fault =>
      rw [hcompile] at hok
      cases hok
  | ok pipeline => exact ⟨pipeline, rfl, closed_after letterHistory "copy" hcompile⟩

end History

end Recipe
