import Recipe.Proofs.ClosedPipeline

/-!
# Nested DAGs

A DAG nests the DAGs of its own package that its graph runs. The search for what a graph depends on
follows this relation, and nothing else: the DAGs in a manifest are those that are reached from the
DAG of the graph (`mem_names_iff_of_collect`).
-/

set_option autoImplicit false

namespace Recipe

open Relation

/-! ## The relation -/

namespace Registry

variable {registry : Registry} {policy : NeedsPolicy} {key other : TemplateKey}
  {graph nested : Graph} {target : Definition}

/-- The DAG under a key has a graph. -/
def Builds (registry : Registry) (policy : NeedsPolicy) (key : TemplateKey) (graph : Graph) :
    Prop :=
  ∃ dag, registry.dag key = .ok dag ∧ dag.build registry policy = .ok graph

/-- The graph of the DAG under a key runs a DAG of the same package, which is under another key. -/
def Nests (registry : Registry) (policy : NeedsPolicy) (key other : TemplateKey) : Prop :=
  ∃ graph, registry.Builds policy key graph ∧ ∃ target, graph.RunsTarget target ∧
    target.kind = .dag ∧ target.package = graph.package ∧ target.key = other

theorem Builds.unique (h : registry.Builds policy key graph)
    (hnested : registry.Builds policy key nested) : nested = graph := by
  obtain ⟨dag, hdag, hbuild⟩ := h
  obtain ⟨found, hfound, hother⟩ := hnested
  obtain rfl := Except.ok.inj (hdag.symm.trans hfound)
  exact Except.ok.inj (hother.symm.trans hbuild)

theorem Builds.key_eq (h : registry.Builds policy key graph) : graph.key = key := by
  obtain ⟨dag, hdag, hbuild⟩ := h
  obtain ⟨hname, hpackage⟩ := Dag.identity_of_build hbuild
  rw [← key_of_get (dag_eq_ok.mp hdag), Graph.key, hname, hpackage]
  rfl

theorem Builds.definition_target (h : registry.Builds policy key graph)
    (htarget : graph.RunsTarget target) : registry.definition target.key = .ok target := by
  obtain ⟨dag, -, hbuild⟩ := h
  obtain ⟨task, htask, rfl⟩ := htarget
  exact Dag.registered_of_build hbuild task htask

theorem Nests.package_eq (h : registry.Nests policy key other)
    (hbuild : registry.Builds policy key graph) (hnested : registry.Builds policy other nested) :
    nested.package = graph.package := by
  obtain ⟨found, hfound, target, htarget, -, hpackage, rfl⟩ := h
  obtain rfl := hbuild.unique hfound
  obtain ⟨dag, hdag, hnested⟩ := hnested
  -- the key has only the name of the package, but the definition that is registered under it has
  -- the tag as well
  have hdefinition := definition_of_dag hdag (hbuild.definition_target htarget)
  rw [(Dag.identity_of_build hnested).2, hdefinition, hpackage]

theorem Nests.key_package (h : registry.Nests policy key other) : other.package = key.package := by
  obtain ⟨graph, hbuild, target, -, -, hpackage, rfl⟩ := h
  rw [← hbuild.key_eq]
  exact congrArg PackageId.name hpackage

theorem key_package_of_reaches (h : ReflTransGen (registry.Nests policy) key other) :
    other.package = key.package := by
  induction h with
  | refl => rfl
  | tail _ hnests ih => rw [hnests.key_package, ih]

end Registry

/-! ## Tasks of a DAG -/

/-- Some tasks are tasks of the graph of a DAG, whose package it is. -/
def TasksOf (registry : Registry) (policy : NeedsPolicy) (key : TemplateKey) (package : PackageId)
    (tasks : List GraphTask) : Prop :=
  ∃ graph, registry.Builds policy key graph ∧ graph.package = package ∧
    ∀ task ∈ tasks, task ∈ graph.tasks

namespace TasksOf

variable {registry : Registry} {policy : NeedsPolicy} {key : TemplateKey} {package : PackageId}
  {graph : Graph} {task : GraphTask} {rest : List GraphTask}

theorem of_builds (h : registry.Builds policy key graph) :
    TasksOf registry policy key graph.package graph.tasks :=
  ⟨graph, h, rfl, fun _ htask => htask⟩

theorem tail (h : TasksOf registry policy key package (task :: rest)) :
    TasksOf registry policy key package rest := by
  obtain ⟨graph, hbuild, hpackage, htasks⟩ := h
  exact ⟨graph, hbuild, hpackage, fun found hfound => htasks found (List.mem_cons_of_mem _ hfound)⟩

/-- A task whose route leads into the package runs a nested DAG. -/
theorem nests (h : TasksOf registry policy key package (task :: rest))
    (hroute : task.target.route package = .nested) :
    registry.Nests policy key task.target.key := by
  obtain ⟨graph, hbuild, rfl, htasks⟩ := h
  obtain ⟨hkind, hpackage⟩ := Definition.route_eq_nested.mp hroute
  exact ⟨graph, hbuild, task.target, ⟨task, htasks task List.mem_cons_self, rfl⟩, hkind, hpackage,
    rfl⟩

theorem nested_package {nested : Graph}
    (h : TasksOf registry policy key package (task :: rest))
    (hroute : task.target.route package = .nested)
    (hnested : registry.Builds policy task.target.key nested) : nested.package = package := by
  have hnests := h.nests hroute
  obtain ⟨graph, hbuild, rfl, -⟩ := h
  exact hnests.package_eq hbuild hnested

theorem key_eq (hroute : task.target.route package = .nested) :
    task.target.key = ⟨package.name, task.target.key.name⟩ := by
  rw [← (Definition.route_eq_nested.mp hroute).2]
  rfl

end TasksOf

/-! ## What is collected -/

variable {registry : Registry} {policy : NeedsPolicy} {key : TemplateKey}

/-- **The search collects no DAG that it does not reach.** -/
theorem reaches_of_collectTasks {stack : List TemplateKey} {package : PackageId}
    {tasks : List GraphTask} {manifest result : Manifest}
    (htasks : TasksOf registry policy key package tasks)
    (h : collectTasks registry (fun dag => dag.build registry policy) stack package tasks manifest =
      .ok result) :
    ∀ name ∈ result.dags.names, name ∈ manifest.dags.names ∨
      ∃ other, TransGen (registry.Nests policy) key other ∧ other.name = name := by
  fun_induction collectTasks registry (fun dag => dag.build registry policy) stack package tasks
    manifest generalizing result key with
  | case1 stack package manifest =>
      rw [pure_eq_ok] at h
      subst h
      exact fun name hname => Or.inl hname
  | case2 stack package manifest task rest hroute ih => exact ih htasks.tail h
  | case3 stack package manifest task rest hroute ih => exact ih htasks.tail h
  | case4 => exact (throw_ne_ok.mp h).elim
  | case5 stack package manifest task rest hroute nested hstack hhas =>
      rename_i ih
      exact ih htasks.tail h
  | case6 => exact (throw_ne_ok.mp h).elim
  | case7 stack package manifest task rest hroute inner hstack hhas dag hdag _ ihinner =>
      rename_i ihrest
      simp only [bind_eq_ok] at h
      obtain ⟨graph, hbuild, middle, hinner, hrest⟩ := h
      have hnests := htasks.nests hroute
      intro name hname
      rcases ihrest middle htasks.tail hrest name hname with hname | hreached
      · rcases ihinner graph (.of_builds ⟨dag, hdag, hbuild⟩) hinner name hname with
          hname | ⟨other, hother, hsame⟩
        · have hnew : inner.name ∉ manifest.dags.names := fun hmem =>
            hhas (Table.has_eq_true.mpr hmem)
          rcases (Manifest.mem_names_withDag hnew).mp hname with hname | rfl
          · exact Or.inl hname
          · exact Or.inr ⟨inner, TransGen.single hnests, rfl⟩
        -- what is reached from the nested DAG is reached through it
        · exact Or.inr ⟨other, TransGen.head hnests hother, hsame⟩
      · exact Or.inr hreached

variable {graph : Graph} {manifest : Manifest}

theorem collects_of_collect (hbuild : registry.Builds policy key graph)
    (h : collect registry (fun dag => dag.build registry policy) graph = .ok manifest) :
    Collects registry policy graph.package graph.tasks {} manifest := by
  obtain ⟨dag, -, hbuild⟩ := hbuild
  exact collects_of_collectTasks (Dag.registered_of_build hbuild) h

/-- The graph of each DAG in a manifest is that of the DAG of its name. -/
theorem nested_of_collect (hbuild : registry.Builds policy key graph)
    (h : collect registry (fun dag => dag.build registry policy) graph = .ok manifest)
    {entry : String × Graph} (hentry : entry ∈ manifest.dags) :
    registry.Builds policy ⟨key.package, entry.1⟩ entry.2 ∧ entry.2.package = graph.package ∧
      manifest.Covers entry.2.package entry.2.tasks := by
  rcases (collects_of_collect hbuild h).nested entry hentry with hnone | ⟨hnested, hcovers⟩
  · cases hnone
  · rw [← hbuild.key_eq]
    exact ⟨hnested.built, hnested.package, hcovers⟩

theorem Manifest.Covers.mem_names_of_nests (h : manifest.Covers graph.package graph.tasks)
    (hbuild : registry.Builds policy key graph) {other : TemplateKey}
    (hnests : registry.Nests policy key other) : other.name ∈ manifest.dags.names := by
  obtain ⟨found, hfound, target, ⟨task, htask, rfl⟩, hkind, hpackage, rfl⟩ := hnests
  obtain rfl := hbuild.unique hfound
  have hmet := h task htask
  rw [Definition.requirement_nested hkind hpackage] at hmet
  exact hmet

/-- **The search collects every DAG that is reached**, with its graph. -/
theorem exists_mem_of_reaches (hbuild : registry.Builds policy key graph)
    (h : collect registry (fun dag => dag.build registry policy) graph = .ok manifest)
    {other : TemplateKey} (hreaches : TransGen (registry.Nests policy) key other) :
    ∃ nested, (other.name, nested) ∈ manifest.dags ∧ registry.Builds policy other nested := by
  have hkey := Registry.key_package_of_reaches hreaches.to_reflTransGen
  have hmem : other.name ∈ manifest.dags.names := by
    clear hkey
    induction hreaches with
    | single hnests =>
        exact (collects_of_collect hbuild h).covers.mem_names_of_nests hbuild hnests
    | @tail middle other hmiddle hnests ih =>
        obtain ⟨entry, hentry, hname⟩ := List.mem_map.mp ih
        obtain ⟨hentry, -, hcovers⟩ := nested_of_collect hbuild h hentry
        rw [hname, ← Registry.key_package_of_reaches hmiddle.to_reflTransGen] at hentry
        exact hcovers.mem_names_of_nests hentry hnests
  obtain ⟨entry, hentry, hname⟩ := List.mem_map.mp hmem
  have hnested := (nested_of_collect hbuild h hentry).1
  rw [hname, ← hkey] at hnested
  exact ⟨entry.2, by rw [← hname]; exact hentry, hnested⟩

/-- **The DAGs in a manifest are those that are reached.** -/
theorem mem_names_iff_of_collect (hbuild : registry.Builds policy key graph)
    (h : collect registry (fun dag => dag.build registry policy) graph = .ok manifest)
    {name : String} : name ∈ manifest.dags.names ↔
      ∃ other, TransGen (registry.Nests policy) key other ∧ other.name = name := by
  constructor
  · intro hname
    rcases reaches_of_collectTasks (.of_builds hbuild) h name hname with hnone | hreached
    · cases hnone
    · exact hreached
  · rintro ⟨other, hreaches, rfl⟩
    obtain ⟨nested, hnested, -⟩ := exists_mem_of_reaches hbuild h hreaches
    exact List.mem_map_of_mem hnested

/-! ## After every history -/

/-- After every history, what a registered DAG depends on is what collecting its graph gives with
every graph built anew. -/
theorem History.run_collect_eq (history : List Operation) (name : String) {dag : Dag}
    (hdag : ((after history).registry name).dag key = .ok dag)
    (hbuild : dag.build ((after history).registry name) policy = .ok graph) :
    ((after history).run name fun registry => Cached.collect registry policy dag).1 =
      collect ((after history).registry name)
        (fun dag => dag.build ((after history).registry name) policy) graph := by
  have hmem : dag ∈ (after history).dags := (sound_after history).mem_dags hdag
  rw [((sound_after history).run_collect name hmem policy).1, hbuild]
  rfl

end Recipe
