import Recipe.Proofs.Recursion

/-!
# What a manifest has

A manifest has exactly what is reached from its graph. Its DAGs are those that are reached without
leaving the package, and its plugins and recipes are the packages that are met on the way there.
What the DAGs of other packages run makes no difference.
-/

set_option autoImplicit false

namespace Recipe

open Relation

variable {registry other : Registry} {policy : NeedsPolicy} {key : TemplateKey}
  {package : PackageId} {graph : Graph} {tasks : List GraphTask}

/-! ## Packages -/

/-- No plugin and no recipe is in a manifest twice. -/
def Manifest.Distinct (manifest : Manifest) : Prop :=
  manifest.plugins.Nodup ∧ manifest.recipes.Nodup

theorem distinct_of_collectTasks {stack : List TemplateKey} {manifest result : Manifest}
    (hdistinct : manifest.Distinct)
    (h : collectTasks registry (fun dag => dag.build registry policy) stack package tasks manifest =
      .ok result) : result.Distinct := by
  fun_induction collectTasks registry (fun dag => dag.build registry policy) stack package tasks
    manifest generalizing result with
  | case1 stack package manifest =>
      rw [pure_eq_ok] at h
      subst h
      exact hdistinct
  | case2 stack package manifest task rest hroute ih =>
      exact ih ⟨nodup_addNew hdistinct.1, hdistinct.2⟩ h
  | case3 stack package manifest task rest hroute ih =>
      exact ih ⟨hdistinct.1, nodup_addNew hdistinct.2⟩ h
  | case4 => exact (throw_ne_ok.mp h).elim
  | case5 stack package manifest task rest hroute inner hstack hhas =>
      rename_i ih
      exact ih hdistinct h
  | case6 => exact (throw_ne_ok.mp h).elim
  | case7 stack package manifest task rest hroute inner hstack hhas dag hdag _ ihinner =>
      rename_i ihrest
      simp only [bind_eq_ok] at h
      obtain ⟨graph, hbuild, middle, hinner, hrest⟩ := h
      exact ihrest middle (ihinner graph hdistinct hinner) hrest

/-- The graphs that are searched for a manifest: the one that it is collected for, and the nested
ones. -/
def Manifest.searched (manifest : Manifest) (graph : Graph) : List Graph :=
  graph :: manifest.dags.map Prod.snd

/-- **A manifest has exactly what the targets of the searched graphs need.** -/
theorem meets_iff_of_collect {manifest : Manifest} (hbuild : registry.Builds policy key graph)
    (h : collect registry (fun dag => dag.build registry policy) graph = .ok manifest)
    {requirement : Requirement} : manifest.Meets requirement ↔
      ∃ found ∈ manifest.searched graph, ∃ target, found.RunsTarget target ∧
        target.requirement found.package = requirement := by
  have hcollects := collects_of_collect hbuild h
  constructor
  · intro hmet
    rcases hcollects.asked requirement hmet with hnone | ⟨task, htask, hneed⟩ |
      ⟨entry, hentry, task, htask, hneed⟩
    · cases requirement <;> cases hnone
    · exact ⟨graph, List.mem_cons_self, task.target, ⟨task, htask, rfl⟩, hneed⟩
    · exact ⟨entry.2, List.mem_cons_of_mem _ (List.mem_map_of_mem hentry), task.target,
        ⟨task, htask, rfl⟩, hneed⟩
  · rintro ⟨found, hfound, target, ⟨task, htask, rfl⟩, rfl⟩
    rcases List.mem_cons.mp hfound with rfl | hfound
    · exact hcollects.covers task htask
    · obtain ⟨entry, hentry, rfl⟩ := List.mem_map.mp hfound
      exact (nested_of_collect hbuild h hentry).2.2 task htask

/-- The searched graphs are those of the DAGs that are reached, of which the first is in no step. -/
theorem mem_searched_iff {manifest : Manifest} (hbuild : registry.Builds policy key graph)
    (h : collect registry (fun dag => dag.build registry policy) graph = .ok manifest)
    {found : Graph} : found ∈ manifest.searched graph ↔
      ∃ other, ReflTransGen (registry.Nests policy) key other ∧
        registry.Builds policy other found := by
  rw [Manifest.searched, List.mem_cons]
  constructor
  · rintro (rfl | hfound)
    · exact ⟨key, ReflTransGen.refl, hbuild⟩
    · obtain ⟨entry, hentry, rfl⟩ := List.mem_map.mp hfound
      obtain ⟨other, hreaches, hname⟩ :=
        (mem_names_iff_of_collect hbuild h).mp (List.mem_map_of_mem hentry)
      have hnested := (nested_of_collect hbuild h hentry).1
      rw [← hname, key_eq_of_reaches hreaches.to_reflTransGen] at hnested
      exact ⟨other, hreaches.to_reflTransGen, hnested⟩
  · rintro ⟨other, hreaches, hfound⟩
    rcases reflTransGen_iff_eq_or_transGen.mp hreaches with rfl | hreaches
    · exact Or.inl (hbuild.unique hfound)
    · obtain ⟨nested, hentry, hnested⟩ := exists_mem_of_reaches hbuild h hreaches
      obtain rfl := hnested.unique hfound
      exact Or.inr (List.mem_map.mpr ⟨_, hentry, rfl⟩)

/-! ## Other packages -/

/-- Two registries have the same definitions, and the DAGs of a package in common. -/
structure Registry.SharesPackage (other registry : Registry) (package : PackageId) : Prop where
  definitions : other.SameDefinitions registry
  dags : ∀ key dag, registry.dag key = .ok dag → dag.definition.package = package →
    other.dag key = .ok dag

/-- **The search does not look into the DAGs of other packages**: it goes on alike where these run
other templates. -/
theorem collectTasks_of_sharesPackage {stack : List TemplateKey} {manifest result : Manifest}
    (hshares : other.SharesPackage registry package)
    (htasks : TasksOf registry policy key package tasks)
    (h : collectTasks registry (fun dag => dag.build registry policy) stack package tasks manifest =
      .ok result) :
    collectTasks other (fun dag => dag.build other policy) stack package tasks manifest =
      .ok result := by
  fun_induction collectTasks registry (fun dag => dag.build registry policy) stack package tasks
    manifest generalizing result key with
  | case1 =>
      rw [collectTasks]
      exact h
  | case2 stack package manifest task rest hroute ih =>
      rw [collectTasks, hroute]
      exact ih hshares htasks.tail h
  | case3 stack package manifest task rest hroute ih =>
      rw [collectTasks, hroute]
      exact ih hshares htasks.tail h
  | case4 => exact (throw_ne_ok.mp h).elim
  | case5 stack package manifest task rest hroute inner hstack hhas =>
      rename_i ih
      rw [collectTasks_known hroute hstack hhas]
      exact ih hshares htasks.tail h
  | case6 => exact (throw_ne_ok.mp h).elim
  | case7 stack package manifest task rest hroute inner hstack hhas dag hdag _ ihinner =>
      rename_i ihrest
      simp only [bind_eq_ok] at h
      obtain ⟨graph, hbuild, middle, hinner, hrest⟩ := h
      have hbuilds : registry.Builds policy inner graph := ⟨dag, hdag, hbuild⟩
      have hpackage := htasks.nested_package hroute hbuilds
      -- the nested DAG is of the package, so both registries have it, and its graph depends on
      -- definitions only
      have hother : other.dag inner = .ok dag := by
        refine hshares.dags inner dag hdag ?_
        rw [← (Dag.identity_of_build hbuild).2, hpackage]
      have hsame : dag.build other policy = .ok graph := by
        rw [Dag.build_congr hshares.definitions, hbuild]
      rw [collectTasks_nested hroute hstack hhas hother]
      simp only [bind_eq_ok]
      refine ⟨graph, hsame, middle, ?_, ihrest middle hshares htasks.tail hrest⟩
      exact ihinner graph (hpackage ▸ hshares) (.of_builds hbuilds) hinner

/-! ## After every history -/

/-- **What the manifest of a graph must be like.** -/
structure Manifest.Exact (manifest : Manifest) (registry : Registry) (policy : NeedsPolicy)
    (key : TemplateKey) (graph : Graph) : Prop where
  /-- The DAGs are those that are reached in one or more steps within the package. -/
  dags : ∀ name, name ∈ manifest.dags.names ↔
    ∃ other, TransGen (registry.Nests policy) key other ∧ other.name = name
  /-- Each of them is there once. -/
  distinct : manifest.dags.names.Nodup
  /-- Each of them has the graph that is built for it, which is of the same package. -/
  graphs : ∀ name nested, (name, nested) ∈ manifest.dags →
    registry.Builds policy ⟨key.package, name⟩ nested ∧ nested.package = graph.package
  /-- The DAG of the graph itself is not among them. -/
  without_start : key.name ∉ manifest.dags.names
  /-- The plugins are the packages of the functions that are run. -/
  plugins : ∀ package, package ∈ manifest.plugins ↔
    ∃ found ∈ manifest.searched graph, ∃ target, found.RunsTarget target ∧
      target.kind = .function ∧ target.package = package
  /-- The recipes are the packages of the DAGs that are run and belong to another package. -/
  recipes : ∀ package, package ∈ manifest.recipes ↔
    ∃ found ∈ manifest.searched graph, ∃ target, found.RunsTarget target ∧
      target.kind = .dag ∧ target.package ≠ found.package ∧ target.package = package
  /-- Each package is there once. -/
  packages : manifest.Distinct
  /-- What the DAGs of other packages run makes no difference. -/
  independent : ∀ other : Registry, other.SharesPackage registry graph.package →
    collect other (fun dag => dag.build other policy) graph = .ok manifest

/-- **The search collects exactly what is reached.** -/
theorem exact_of_collect {manifest : Manifest} (hbuild : registry.Builds policy key graph)
    (h : collect registry (fun dag => dag.build registry policy) graph = .ok manifest) :
    manifest.Exact registry policy key graph where
  dags := fun _ => mem_names_iff_of_collect hbuild h
  distinct := (collects_of_collect hbuild h).distinct List.nodup_nil
  graphs := by
    intro name nested hentry
    obtain ⟨hnested, hpackage, -⟩ := nested_of_collect hbuild h hentry
    exact ⟨hnested, hpackage⟩
  without_start := by
    intro hmem
    obtain ⟨other, hreaches, hname⟩ := (mem_names_iff_of_collect hbuild h).mp hmem
    -- a DAG of the same package and the same name is the same one, and would be on a cycle
    have hsame : other = key := by
      rw [← key_eq_of_reaches hreaches.to_reflTransGen, hname]
    rw [hsame] at hreaches
    exact ((exists_collect_iff hbuild).mp ⟨manifest, h⟩).2 key ReflTransGen.refl hreaches
  plugins := by
    intro package
    have hmet : manifest.Meets (.plugin package) ↔ _ := meets_iff_of_collect hbuild h
    refine hmet.trans ?_
    constructor
    · rintro ⟨found, hfound, target, htarget, hneed⟩
      exact ⟨found, hfound, target, htarget, Definition.of_requirement_plugin hneed⟩
    · rintro ⟨found, hfound, target, htarget, hkind, rfl⟩
      exact ⟨found, hfound, target, htarget, Definition.requirement_function hkind⟩
  recipes := by
    intro package
    have hmet : manifest.Meets (.recipe package) ↔ _ := meets_iff_of_collect hbuild h
    refine hmet.trans ?_
    constructor
    · rintro ⟨found, hfound, target, htarget, hneed⟩
      exact ⟨found, hfound, target, htarget, Definition.of_requirement_recipe hneed⟩
    · rintro ⟨found, hfound, target, htarget, hkind, hpackage, rfl⟩
      exact ⟨found, hfound, target, htarget, Definition.requirement_recipe hkind hpackage⟩
  packages := distinct_of_collectTasks ⟨List.nodup_nil, List.nodup_nil⟩ h
  independent := fun _ hshares => collectTasks_of_sharesPackage hshares (.of_builds hbuild) h

namespace History

/-- **A manifest has exactly what is reached from its graph**, after any history and for every
registered DAG that can be built. -/
theorem exact_after (history : List Operation) (name : String) {policy : NeedsPolicy}
    {key : TemplateKey} {dag : Dag} {graph : Graph} {manifest : Manifest}
    (hdag : ((after history).registry name).dag key = .ok dag)
    (hbuild : dag.build ((after history).registry name) policy = .ok graph)
    (hcollect : ((after history).run name fun registry =>
      Cached.collect registry policy dag).1 = .ok manifest) :
    manifest.Exact ((after history).registry name) policy key graph := by
  rw [run_collect_eq history name hdag hbuild] at hcollect
  exact exact_of_collect ⟨dag, hdag, hbuild⟩ hcollect

/-- A function that sets sail. -/
def setSail : Function where
  definition :=
    { name := "set-sail"
      kind := .function
      package := ⟨"boats", "1.0.0"⟩
      outputs := [{ name := "course", kind := .string, path := some "course.txt" }] }
  body := .command "sail"

/-- A history with DAGs of two packages. Those of the second run each other. -/
def ferryHistory : List Operation :=
  [.declare (leg ⟨"journeys", "leave"⟩ [⟨"journeys", "there"⟩]),
   .declare (leg ⟨"journeys", "there"⟩ [⟨"islands", "ferry"⟩, setSail.key]),
   .declare (leg ⟨"islands", "ferry"⟩ [⟨"islands", "beach"⟩]),
   .declare (leg ⟨"islands", "beach"⟩ [⟨"islands", "ferry"⟩]),
   .registerFunction "main" setSail,
   .registerDag "main" 0, .registerDag "main" 1, .registerDag "main" 2, .registerDag "main" 3]

theorem ferryHistory_exact :
    ∃ dag graph manifest,
      ((after ferryHistory).registry "main").dag ⟨"journeys", "leave"⟩ = .ok dag ∧
      dag.build ((after ferryHistory).registry "main") .infer = .ok graph ∧
      ((after ferryHistory).run "main" fun registry => Cached.collect registry .infer dag).1 =
        .ok manifest ∧
      manifest.Exact ((after ferryHistory).registry "main") .infer ⟨"journeys", "leave"⟩ graph ∧
      manifest.dags.names = ["there"] ∧ manifest.plugins = [⟨"boats", "1.0.0"⟩] ∧
      manifest.recipes = [⟨"islands", "1.0.0"⟩] := by
  have hbuilt : (((after ferryHistory).registry "main").dag ⟨"journeys", "leave"⟩ >>= fun dag =>
      dag.build ((after ferryHistory).registry "main") .infer).isOk = true := by cbv
  have hrun : (((after ferryHistory).registry "main").dag ⟨"journeys", "leave"⟩ >>= fun dag =>
      (fun manifest : Manifest => (manifest.dags.names, manifest.plugins, manifest.recipes)) <$>
        ((after ferryHistory).run "main" fun registry => Cached.collect registry .infer dag).1) =
      .ok (["there"], [⟨"boats", "1.0.0"⟩], [⟨"islands", "1.0.0"⟩]) := by cbv
  obtain ⟨graph, hgraph⟩ := exists_of_isOk hbuilt
  obtain ⟨dag, hdag, hbuild⟩ := bind_eq_ok.mp hgraph
  obtain ⟨found, hfound, hmap⟩ := bind_eq_ok.mp hrun
  obtain rfl := Except.ok.inj (hdag.symm.trans hfound)
  obtain ⟨manifest, hcollect, hparts⟩ := map_eq_ok.mp hmap
  simp only [Prod.mk.injEq] at hparts
  exact ⟨dag, graph, manifest, hdag, hbuild, hcollect,
    exact_after ferryHistory "main" hdag hbuild hcollect, hparts⟩

end History

end Recipe
