import Recipe.Compile
import Recipe.Proofs.Build.Resolution
import Recipe.Proofs.Registry

/-!
# What is collected

The manifest of a graph has exactly what the graph needs. Everything that some task needs, be it
of the graph itself or of a nested DAG, is in the manifest; everything in the manifest is needed
by some task; and each nested DAG is there once, with the graph that is built for it.

A manifest only ever grows while tasks are collected. `Collects` says what collecting some tasks
adds to a manifest, and is shown by induction on the search.
-/

set_option autoImplicit false

namespace Recipe

/-! ## Needs of tasks -/

/-- What a task needs from outside its graph. -/
inductive Requirement
  | plugin (package : PackageId)
  | recipe (package : PackageId)
  | dag (name : String)

/-- What a task of a graph of some package needs to run its target. -/
def Definition.requirement (target : Definition) (package : PackageId) : Requirement :=
  match target.route package with
  | .plugin => .plugin target.package
  | .recipe => .recipe target.package
  | .nested => .dag target.name

/-- The route into the package of the graph leads to its DAGs. -/
theorem Definition.route_eq_nested {target : Definition} {package : PackageId} :
    target.route package = .nested ↔ target.kind = .dag ∧ target.package = package := by
  unfold route
  cases target.kind with
  | function => simp
  | dag => simp

namespace Manifest

/-- Whether something is in a manifest. -/
def Meets (manifest : Manifest) : Requirement → Prop
  | .plugin package => package ∈ manifest.plugins
  | .recipe package => package ∈ manifest.recipes
  | .dag name => name ∈ manifest.dags.names

/-- All that some tasks of a graph need is in a manifest. -/
def Covers (manifest : Manifest) (package : PackageId) (tasks : List GraphTask) : Prop :=
  ∀ task ∈ tasks, manifest.Meets (task.target.requirement package)

/-- Something is needed by one of some tasks, or by a task of a nested DAG in a manifest. -/
def Asks (manifest : Manifest) (package : PackageId) (tasks : List GraphTask)
    (requirement : Requirement) : Prop :=
  (∃ task ∈ tasks, task.target.requirement package = requirement) ∨
    ∃ entry ∈ manifest.dags, ∃ task ∈ entry.2.tasks,
      task.target.requirement entry.2.package = requirement

variable {manifest : Manifest} {requirement : Requirement}

theorem meets_withPlugin {package : PackageId} :
    (manifest.withPlugin package).Meets requirement ↔
      manifest.Meets requirement ∨ requirement = .plugin package := by
  cases requirement <;> simp [Meets, withPlugin, mem_addNew]

theorem meets_withRecipe {package : PackageId} :
    (manifest.withRecipe package).Meets requirement ↔
      manifest.Meets requirement ∨ requirement = .recipe package := by
  cases requirement <;> simp [Meets, withRecipe, mem_addNew]

theorem dags_withDag {name : String} {graph : Graph} (hnew : name ∉ manifest.dags.names) :
    (manifest.withDag name graph).dags = manifest.dags ++ [(name, graph)] :=
  Table.insert_of_not_mem hnew

theorem mem_names_withDag {name other : String} {graph : Graph}
    (hnew : name ∉ manifest.dags.names) :
    other ∈ (manifest.withDag name graph).dags.names ↔
      other ∈ manifest.dags.names ∨ other = name := by
  rw [dags_withDag hnew, Table.names, List.map_append, List.mem_append, List.map_singleton,
    List.mem_singleton]
  rfl

theorem meets_withDag {name : String} {graph : Graph} (hnew : name ∉ manifest.dags.names) :
    (manifest.withDag name graph).Meets requirement ↔
      manifest.Meets requirement ∨ requirement = .dag name := by
  cases requirement with
  | plugin package => simp [Meets, withDag]
  | recipe package => simp [Meets, withDag]
  | dag other => simp [Meets, mem_names_withDag hnew]

end Manifest

/-! ## Growing manifests -/

/-- The graph of a nested DAG that is in a manifest: it was built for the DAG of that name, which is
of the package of the graph it was found in. -/
structure Nested (registry : Registry) (policy : NeedsPolicy) (package : PackageId)
    (entry : String × Graph) : Prop where
  built : ∃ dag, registry.dag ⟨package.name, entry.1⟩ = .ok dag ∧
    dag.build registry policy = .ok entry.2
  name : entry.2.name = entry.1
  package : entry.2.package = package

/-- **What collecting some tasks of a graph of a package makes of a manifest.** -/
structure Collects (registry : Registry) (policy : NeedsPolicy) (package : PackageId)
    (tasks : List GraphTask) (before after : Manifest) : Prop where
  keeps : ∀ requirement, before.Meets requirement → after.Meets requirement
  keeps_dags : ∀ entry ∈ before.dags, entry ∈ after.dags
  distinct : before.dags.names.Nodup → after.dags.names.Nodup
  covers : after.Covers package tasks
  asked : ∀ requirement, after.Meets requirement →
    before.Meets requirement ∨ after.Asks package tasks requirement
  nested : ∀ entry ∈ after.dags, entry ∈ before.dags ∨
    Nested registry policy package entry ∧ after.Covers entry.2.package entry.2.tasks

namespace Collects

variable {registry : Registry} {policy : NeedsPolicy} {package : PackageId} {task : GraphTask}
  {tasks : List GraphTask} {before middle after : Manifest}

theorem nil (manifest : Manifest) : Collects registry policy package [] manifest manifest where
  keeps := fun _ h => h
  keeps_dags := fun _ h => h
  distinct := id
  covers := by simp [Manifest.Covers]
  asked := fun _ h => Or.inl h
  nested := fun _ h => Or.inl h

/-- What some tasks ask for is asked for after more have been collected. -/
theorem asks_mono (h : Collects registry policy package tasks middle after)
    {other : PackageId} {others : List GraphTask} {requirement : Requirement}
    (hasks : middle.Asks other others requirement) : after.Asks other others requirement := by
  rcases hasks with hasks | ⟨entry, hentry, hasks⟩
  · exact Or.inl hasks
  · exact Or.inr ⟨entry, h.keeps_dags entry hentry, hasks⟩

theorem asks_cons {requirement : Requirement} (h : after.Asks package tasks requirement) :
    after.Asks package (task :: tasks) requirement := by
  rcases h with ⟨found, hfound, hasks⟩ | hasks
  · exact Or.inl ⟨found, List.mem_cons_of_mem _ hfound, hasks⟩
  · exact Or.inr hasks

/-- A task is collected in front of others by adding at most what it needs. -/
theorem cons (h : Collects registry policy package tasks middle after)
    (hdags : middle.dags = before.dags)
    (hmeets : ∀ requirement, middle.Meets requirement ↔
      before.Meets requirement ∨ requirement = task.target.requirement package) :
    Collects registry policy package (task :: tasks) before after where
  keeps := fun requirement hmet => h.keeps requirement ((hmeets requirement).mpr (Or.inl hmet))
  keeps_dags := by
    rw [← hdags]
    exact h.keeps_dags
  distinct := by
    rw [← hdags]
    exact h.distinct
  covers := by
    intro found hfound
    rcases List.mem_cons.mp hfound with rfl | hfound
    · exact h.keeps _ ((hmeets _).mpr (Or.inr rfl))
    · exact h.covers found hfound
  asked := by
    intro requirement hmet
    rcases h.asked requirement hmet with hmet | hasks
    · rcases (hmeets requirement).mp hmet with hmet | rfl
      · exact Or.inl hmet
      · exact Or.inr (Or.inl ⟨task, List.mem_cons_self, rfl⟩)
    · exact Or.inr (asks_cons hasks)
  nested := by
    rw [← hdags]
    exact h.nested

/-- A task that runs a new nested DAG is collected in front of others by adding the graph of the DAG
and then collecting its tasks. -/
theorem cons_nested {graph : Graph}
    (hroute : task.target.requirement package = .dag task.target.name)
    (hnew : task.target.name ∉ before.dags.names)
    (hnested : Nested registry policy package (task.target.name, graph))
    (hinner : Collects registry policy graph.package graph.tasks
      (before.withDag task.target.name graph) middle)
    (hrest : Collects registry policy package tasks middle after) :
    Collects registry policy package (task :: tasks) before after where
  keeps := by
    intro requirement hmet
    exact hrest.keeps _ (hinner.keeps _ ((Manifest.meets_withDag hnew).mpr (Or.inl hmet)))
  keeps_dags := by
    intro entry hentry
    refine hrest.keeps_dags _ (hinner.keeps_dags _ ?_)
    rw [Manifest.dags_withDag hnew]
    exact List.mem_append_left _ hentry
  distinct := by
    intro hnodup
    exact hrest.distinct (hinner.distinct (Table.nodup_names_insert hnodup))
  covers := by
    intro found hfound
    rcases List.mem_cons.mp hfound with rfl | hfound
    · rw [hroute]
      exact hrest.keeps _ (hinner.keeps _ ((Manifest.meets_withDag hnew).mpr (Or.inr rfl)))
    · exact hrest.covers found hfound
  asked := by
    intro requirement hmet
    rcases hrest.asked requirement hmet with hmet | hasks
    · rcases hinner.asked requirement hmet with hmet | hasks
      · rcases (Manifest.meets_withDag hnew).mp hmet with hmet | rfl
        · exact Or.inl hmet
        · exact Or.inr (Or.inl ⟨task, List.mem_cons_self, hroute⟩)
      -- what the tasks of the nested graph ask for is asked for by a DAG of the manifest, this one
      · refine Or.inr (hrest.asks_mono (Or.inr ?_))
        rcases hasks with ⟨found, hfound, hasks⟩ | hasks
        · refine ⟨(task.target.name, graph), hinner.keeps_dags _ ?_, found, hfound, hasks⟩
          rw [Manifest.dags_withDag hnew]
          exact List.mem_append_right _ List.mem_cons_self
        · exact hasks
    · exact Or.inr (asks_cons hasks)
  nested := by
    intro entry hentry
    rcases hrest.nested entry hentry with hentry | hentry
    · rcases hinner.nested entry hentry with hentry | ⟨hfound, hcovers⟩
      -- the graph is new, or was there before its tasks were collected; the manifest only grew
      -- since
      · rw [Manifest.dags_withDag hnew] at hentry
        rcases List.mem_append.mp hentry with hentry | hentry
        · exact Or.inl hentry
        · rw [List.mem_singleton] at hentry
          subst hentry
          refine Or.inr ⟨hnested, ?_⟩
          intro found hfound
          exact hrest.keeps _ (hinner.covers found hfound)
      · refine Or.inr ⟨?_, ?_⟩
        · rw [← hnested.package]
          exact hfound
        · intro found hmem
          exact hrest.keeps _ (hcovers found hmem)
    · exact Or.inr hentry

end Collects

/-! ## The search -/

section Steps

variable {m : Type → Type} [Monad m] [MonadExcept Error m] {registry : Registry}
  {graphOf : Dag → m Graph} {stack : List TemplateKey} {package : PackageId} {task : GraphTask}
  {rest : List GraphTask} {manifest : Manifest}

/-- The search fails at a DAG that is being searched already. -/
theorem collectTasks_cycle (hroute : task.target.route package = .nested)
    (hstack : task.target.key ∈ stack) :
    collectTasks registry graphOf stack package (task :: rest) manifest =
      throw (Error.cyclicDependency (cycleOn stack task.target.key)) := by
  rw [collectTasks, hroute]
  simp only [dif_pos hstack]

/-- The search passes by a DAG that is in the manifest. -/
theorem collectTasks_known (hroute : task.target.route package = .nested)
    (hstack : task.target.key ∉ stack) (hhas : manifest.dags.has task.target.key.name = true) :
    collectTasks registry graphOf stack package (task :: rest) manifest =
      collectTasks registry graphOf stack package rest manifest := by
  rw [collectTasks, hroute]
  simp only [dif_neg hstack, if_pos hhas]

/-- The search fails at a DAG that is not registered. -/
theorem collectTasks_fault (hroute : task.target.route package = .nested)
    (hstack : task.target.key ∉ stack) (hhas : ¬ manifest.dags.has task.target.key.name = true)
    {fault : Error} (hdag : registry.dag task.target.key = .error fault) :
    collectTasks registry graphOf stack package (task :: rest) manifest = throw fault := by
  rw [collectTasks, hroute]
  simp only [dif_neg hstack, if_neg hhas]
  split
  · next found hfound =>
      rw [hdag, Except.error.injEq] at hfound
      rw [hfound]
  · next dag hfound =>
      rw [hdag] at hfound
      cases hfound

/-- The search goes through a DAG that is new. -/
theorem collectTasks_nested (hroute : task.target.route package = .nested)
    (hstack : task.target.key ∉ stack) (hhas : ¬ manifest.dags.has task.target.key.name = true)
    {dag : Dag} (hdag : registry.dag task.target.key = .ok dag) :
    collectTasks registry graphOf stack package (task :: rest) manifest = (do
      let nested ← graphOf dag
      let manifest ← collectTasks registry graphOf (stack ++ [task.target.key]) nested.package
        nested.tasks (manifest.withDag task.target.key.name nested)
      collectTasks registry graphOf stack package rest manifest) := by
  rw [collectTasks, hroute]
  simp only [dif_neg hstack, if_neg hhas]
  split
  · next fault hfound =>
      rw [hdag] at hfound
      cases hfound
  · next found hfound =>
      rw [hdag, Except.ok.injEq] at hfound
      rw [hfound]

end Steps

/-- **A search that succeeds goes on alike where there is more**: with all the DAGs that it finds,
and for each of them the graph that it has. -/
theorem collectTasks_mono {registry other : Registry} {graphOf graphOf' : Dag → Except Error Graph}
    (hdags : ∀ key dag, registry.dag key = .ok dag → other.dag key = .ok dag)
    (hgraphs : ∀ dag graph, graphOf dag = .ok graph → graphOf' dag = .ok graph)
    {stack : List TemplateKey} {package : PackageId} {tasks : List GraphTask}
    {manifest result : Manifest}
    (h : collectTasks registry graphOf stack package tasks manifest = .ok result) :
    collectTasks other graphOf' stack package tasks manifest = .ok result := by
  fun_induction collectTasks registry graphOf stack package tasks manifest
    generalizing result with
  | case1 =>
      rw [collectTasks]
      exact h
  | case2 stack package manifest task rest hroute ih =>
      rw [collectTasks, hroute]
      exact ih h
  | case3 stack package manifest task rest hroute ih =>
      rw [collectTasks, hroute]
      exact ih h
  | case4 => exact (throw_ne_ok.mp h).elim
  | case5 stack package manifest task rest hroute key hstack hhas =>
      rename_i ih
      rw [collectTasks_known hroute hstack hhas]
      exact ih h
  | case6 => exact (throw_ne_ok.mp h).elim
  | case7 stack package manifest task rest hroute key hstack hhas dag hdag _ ihinner =>
      rename_i ihrest
      simp only [bind_eq_ok] at h
      obtain ⟨graph, hgraph, middle, hinner, hrest⟩ := h
      rw [collectTasks_nested hroute hstack hhas (hdags key dag hdag)]
      simp only [bind_eq_ok]
      exact ⟨graph, hgraphs dag graph hgraph, middle, ihinner graph hinner, ihrest middle hrest⟩

/-- The same for a whole compilation. -/
theorem compileWith_mono {registry other : Registry} {graphOf graphOf' : Dag → Except Error Graph}
    (hdags : ∀ key dag, registry.dag key = .ok dag → other.dag key = .ok dag)
    (hgraphs : ∀ dag graph, graphOf dag = .ok graph → graphOf' dag = .ok graph)
    {options : Options} {provider : MetadataProvider} {entry : TemplateKey}
    {metadata : Option PackageMetadata} {pipeline : Pipeline}
    (h : compileWith graphOf registry options provider entry metadata = .ok pipeline) :
    compileWith graphOf' other options provider entry metadata = .ok pipeline := by
  simp only [compileWith, ofExcept_eq, bind_eq_ok] at h ⊢
  obtain ⟨u, hoptions, dag, hdag, graph, hgraph, manifest, hcollect, hclosed⟩ := h
  exact ⟨u, hoptions, dag, hdags entry dag hdag, graph, hgraphs dag graph hgraph, manifest,
    collectTasks_mono hdags hgraphs hcollect, hclosed⟩

def Registered (registry : Registry) (tasks : List GraphTask) : Prop :=
  ∀ task ∈ tasks, registry.definition task.target.key = .ok task.target

theorem Registered.tail {registry : Registry} {task : GraphTask} {rest : List GraphTask}
    (h : Registered registry (task :: rest)) : Registered registry rest := by
  intro found hfound
  exact h found (List.mem_cons_of_mem _ hfound)

theorem Dag.registered_of_build {dag : Dag} {registry : Registry} {policy : NeedsPolicy}
    {graph : Graph} (hbuild : dag.build registry policy = .ok graph) :
    Registered registry graph.tasks := by
  obtain ⟨targeted, h⟩ := resolve_eq_ok.mp (build_eq_ok.mp hbuild).1
  intro task htask
  obtain ⟨entry, -, declared, -, htargets, hresolves⟩ := h.exists_declared htask
  rw [hresolves.target, Registry.key_of_definition htargets.target]
  exact htargets.target

theorem Dag.identity_of_build {dag : Dag} {registry : Registry} {policy : NeedsPolicy}
    {graph : Graph} (hbuild : dag.build registry policy = .ok graph) :
    graph.name = dag.definition.name ∧ graph.package = dag.definition.package := by
  obtain ⟨targeted, h⟩ := resolve_eq_ok.mp (build_eq_ok.mp hbuild).1
  exact ⟨h.name, h.package⟩

variable {registry : Registry} {policy : NeedsPolicy}

/-- **The search collects what the tasks need.** -/
theorem collects_of_collectTasks {stack : List TemplateKey} {package : PackageId}
    {tasks : List GraphTask} {manifest result : Manifest} (hregistered : Registered registry tasks)
    (h : collectTasks registry (fun dag => dag.build registry policy) stack package tasks manifest =
      .ok result) : Collects registry policy package tasks manifest result := by
  -- one case for each way the search can go on: `stack` bounds the depth and is no part of the
  -- invariant
  fun_induction collectTasks registry (fun dag => dag.build registry policy) stack package tasks
    manifest generalizing result with
  | case1 stack package manifest =>
      rw [pure_eq_ok] at h
      subst h
      exact .nil manifest
  | case2 stack package manifest task rest hroute ih =>
      have hneed : task.target.requirement package = .plugin task.target.package := by
        rw [Definition.requirement, hroute]
      refine (ih hregistered.tail h).cons rfl fun requirement => ?_
      rw [Manifest.meets_withPlugin, hneed]
  | case3 stack package manifest task rest hroute ih =>
      have hneed : task.target.requirement package = .recipe task.target.package := by
        rw [Definition.requirement, hroute]
      refine (ih hregistered.tail h).cons rfl fun requirement => ?_
      rw [Manifest.meets_withRecipe, hneed]
  | case4 => exact (throw_ne_ok.mp h).elim
  | case5 stack package manifest task rest hroute key hstack hhas =>
      rename_i ih
      have hneed : task.target.requirement package = .dag task.target.name := by
        rw [Definition.requirement, hroute]
      -- the DAG has been collected, so the need is met already
      refine (ih hregistered.tail h).cons rfl fun requirement => ?_
      constructor
      · exact Or.inl
      · rintro (hmet | rfl)
        · exact hmet
        · rw [hneed]
          exact Table.has_eq_true.mp hhas
  | case6 => exact (throw_ne_ok.mp h).elim
  | case7 stack package manifest task rest hroute key hstack hhas dag hdag _ ihinner =>
      rename_i ihrest
      have hneed : task.target.requirement package = .dag task.target.name := by
        rw [Definition.requirement, hroute]
      simp only [bind_eq_ok] at h
      obtain ⟨graph, hbuild, middle, hinner, hrest⟩ := h
      -- the DAG found under the key is the one that the task was resolved to
      have htarget := Registry.definition_of_dag hdag (hregistered task List.mem_cons_self)
      have hidentity := Dag.identity_of_build hbuild
      rw [htarget] at hidentity
      have hpackage : task.target.package = package := (Definition.route_eq_nested.mp hroute).2
      refine Collects.cons_nested hneed ?_ ?_
        (ihinner graph (Dag.registered_of_build hbuild) hinner)
        (ihrest middle hregistered.tail hrest)
      · intro hmem
        exact hhas (Table.has_eq_true.mpr hmem)
      · refine ⟨⟨dag, ?_, hbuild⟩, hidentity.1, hidentity.2.trans hpackage⟩
        rw [← hpackage]
        exact hdag

end Recipe
