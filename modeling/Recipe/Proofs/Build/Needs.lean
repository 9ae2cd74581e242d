import Recipe.Proofs.Build.Typing
import Recipe.Proofs.TaskGraph.Levels
import Mathlib.Data.List.GetD

/-!
# Needs of graphs

The needs of a task in a graph that was built are those that it declares, followed by the tasks
whose outputs it reads. All of them are other tasks of the graph, and the graph has an order and
levels in which each task comes after all that it waits for (`sequenced_of_build`).
-/

set_option autoImplicit false

namespace Recipe

/-! ## What a task waits for -/

/-- A task has exactly the needs of its declaration: each that it lists and each that it reads, once
and where it first occurs. Under the strict policy the list alone has all of them. -/
structure GraphTask.HasNeedsOf (task : GraphTask) (declared : TaskDeclaration)
    (policy : NeedsPolicy) : Prop where
  name : task.name = declared.name
  producers : task.producers = declared.producers
  needs : task.needs = distinct (declared.needs ++ declared.producers)
  strict : policy = .strict → task.needs = distinct declared.needs

namespace Graph

/-- A task waits for those that it needs, and for those whose outputs its arguments or its loop
read. -/
def WaitsFor (graph : Graph) (name need : String) : Prop :=
  ∃ task ∈ graph.tasks, task.name = name ∧ (need ∈ task.needs ∨ need ∈ task.producers)

/-- An order of all tasks of a graph, each behind all that it waits for. -/
structure OrderedBy (graph : Graph) (order : List String) : Prop where
  perm : order.Perm graph.taskNames
  before : ∀ name need, graph.WaitsFor name need → order.idxOf need < order.idxOf name

/-- Levels of all tasks of a graph, each above all that it waits for. -/
structure LeveledBy (graph : Graph) (levels : List (List String)) : Prop where
  perm : levels.flatten.Perm graph.taskNames
  below : ∀ name need, graph.WaitsFor name need → ∀ i j : Nat,
    need ∈ levels.getD i [] → name ∈ levels.getD j [] → i < j

/-- **The needs of a graph that was built for a DAG, and what they do to its order.** -/
structure Sequenced (graph : Graph) (dag : Dag) (policy : NeedsPolicy) : Prop where
  names_distinct : graph.taskNames.Nodup
  tasks : List.Forall₂ (fun declared task => task.HasNeedsOf declared policy) dag.tasks graph.tasks
  others : ∀ task ∈ graph.tasks, ∀ need ∈ task.needs, need ∈ graph.taskNames ∧ need ≠ task.name
  order : ∃ order, graph.executionOrder = .ok order ∧ graph.OrderedBy order
  levels : ∃ levels, graph.parallelLevels = .ok levels ∧ graph.LeveledBy levels

end Graph

/-! ## Needs of a task -/

namespace TargetedTask

variable {entry : TargetedTask} {scope : Scope} {policy : NeedsPolicy} {package : PackageId}
  {task : GraphTask}

/-- **A resolved task has the needs of its declaration.** -/
theorem Resolves.hasNeedsOf (h : entry.Resolves scope policy package task) :
    task.HasNeedsOf entry.task policy where
  name := h.name
  producers := h.producers
  needs := by rw [h.needs, distinct_append]
  strict := by
    intro hstrict
    rw [h.needs, foldl_addNew_eq_self]
    intro producer hproducer
    exact mem_distinct.mpr (h.reads_declared hstrict producer hproducer)

end TargetedTask

theorem GraphTask.HasNeedsOf.mem_needs {task : GraphTask} {declared : TaskDeclaration}
    {policy : NeedsPolicy} (h : task.HasNeedsOf declared policy) {producer : String}
    (hproducer : producer ∈ task.producers) : producer ∈ task.needs := by
  rw [h.producers] at hproducer
  rw [h.needs, mem_distinct]
  exact List.mem_append_right _ hproducer

/-! ## Order and levels -/

namespace Graph

variable {graph : Graph}

theorem WaitsFor.precedes {name need : String} (h : graph.WaitsFor name need)
    (hreads : ∀ task ∈ graph.tasks, ∀ producer ∈ task.producers, producer ∈ task.needs) :
    TaskGraph.Precedes graph.nodes need name := by
  obtain ⟨task, htask, rfl, hneed⟩ := h
  refine ⟨⟨task.name, task.needs⟩, List.mem_map_of_mem htask, rfl, ?_⟩
  rcases hneed with hneed | hneed
  · exact hneed
  · exact hreads task htask need hneed

/-- **A graph that can be put into an order has one in which each task is behind all that it waits
for**, and levels on which it is above. -/
theorem exists_order_and_levels (hordered : ∃ order, graph.executionOrder = .ok order)
    (hreads : ∀ task ∈ graph.tasks, ∀ producer ∈ task.producers, producer ∈ task.needs) :
    (∃ order, graph.executionOrder = .ok order ∧ graph.OrderedBy order) ∧
      ∃ levels, graph.parallelLevels = .ok levels ∧ graph.LeveledBy levels := by
  obtain ⟨hwireable, hacyclic⟩ := exists_executionOrder.mp hordered
  constructor
  · obtain ⟨order, hok, horder, -⟩ := TaskGraph.exists_order_wiring hwireable hacyclic
    refine ⟨order.map TaskGraph.Node.name, ?_, ?_, ?_⟩
    · rw [executionOrder, map_eq_ok]
      exact ⟨order, onTaskGraph_eq_ok.mpr ⟨hwireable, hok⟩, rfl⟩
    · rw [← nodes_names]
      exact horder.perm.map _
    · intro name need hwaits
      exact horder.idxOf_lt hwireable (hwaits.precedes hreads)
  · obtain ⟨levels, hok, hlevels⟩ := TaskGraph.exists_levels_wiring hwireable hacyclic
    refine ⟨levels.map (List.map TaskGraph.Node.name), ?_, ?_, ?_⟩
    · rw [parallelLevels, map_eq_ok]
      exact ⟨levels, onTaskGraph_eq_ok.mpr ⟨hwireable, hok⟩, rfl⟩
    · rw [← nodes_names, ← List.map_flatten]
      exact hlevels.perm.map _
    · intro name need hwaits i j hneed hname
      -- the names on a level are those of the tasks on it
      have hlevel : ∀ k : Nat, (levels.map (List.map TaskGraph.Node.name)).getD k [] =
          (levels.getD k []).map TaskGraph.Node.name :=
        fun k => List.getD_map levels [] (List.map TaskGraph.Node.name)
      rw [hlevel] at hneed hname
      exact hlevels.lt hwireable (hwaits.precedes hreads) hneed hname

/-- No task of a graph that can be put into an order needs itself, or what is no task. -/
theorem needs_others (hordered : ∃ order, graph.executionOrder = .ok order) {task : GraphTask}
    (htask : task ∈ graph.tasks) {need : String} (hneed : need ∈ task.needs) :
    need ∈ graph.taskNames ∧ need ≠ task.name := by
  obtain ⟨hwireable, hacyclic⟩ := exists_executionOrder.mp hordered
  have hnode : (⟨task.name, task.needs⟩ : TaskGraph.Node) ∈ graph.nodes :=
    List.mem_map_of_mem htask
  refine ⟨?_, ?_⟩
  · rw [← nodes_names]
    exact hwireable.needs _ hnode need hneed
  · rintro rfl
    exact hacyclic task.name (Relation.TransGen.single ⟨_, hnode, rfl, hneed⟩)

end Graph

/-! ## Built graphs -/

namespace Dag

variable {dag : Dag} {registry : Registry} {policy : NeedsPolicy} {targeted : List TargetedTask}
  {graph : Graph}

theorem ResolvesTasks.hasNeedsOf {tasks : List GraphTask}
    (h : dag.ResolvesTasks registry policy targeted tasks) :
    List.Forall₂ (fun declared task => task.HasNeedsOf declared policy) dag.tasks tasks := by
  refine forall₂_comp ?_ h.lookup.targets h.tasks
  intro declared entry task htargets hresolves
  rw [← htargets.declaration]
  exact hresolves.hasNeedsOf

/-- **In a graph that was built, each task has the needs of its declaration and comes after them.**
They are what the declaration lists and what it reads, each once; they are other tasks of the graph;
and the graph has an order and levels in which all that a task needs or reads comes before it. -/
theorem sequenced_of_build (hbuild : dag.build registry policy = .ok graph) :
    graph.Sequenced dag policy := by
  obtain ⟨hresolve, -⟩ := build_eq_ok.mp hbuild
  obtain ⟨targeted, h⟩ := resolve_eq_ok.mp hresolve
  have htasks := h.hasNeedsOf
  have hreads : ∀ task ∈ graph.tasks, ∀ producer ∈ task.producers, producer ∈ task.needs := by
    intro task htask producer hproducer
    obtain ⟨declared, -, hneeds⟩ := exists_of_mem_forall₂ htasks task htask
    exact hneeds.mem_needs hproducer
  obtain ⟨horder, hlevels⟩ := Graph.exists_order_and_levels h.ordered hreads
  exact
    { names_distinct := by
        rw [Graph.taskNames, h.names_eq]
        exact h.lookup.names_distinct
      tasks := htasks
      others := fun task htask need hneed => Graph.needs_others h.ordered htask hneed
      order := horder
      levels := hlevels }

end Dag

/-! ## An example -/

/-- The lines of a text are shouted after it was split, although the task that shouts them is
declared first and lists no need. -/
theorem shoutAll_sequenced :
    ∃ graph, shoutAll.build textTools .infer = .ok graph ∧
      graph.tasks.map (fun task => (task.name, task.needs)) =
        [("shout", ["split"]), ("split", [])] ∧
      graph.executionOrder.toOption = some ["split", "shout"] ∧
      graph.Sequenced shoutAll .infer := by
  have hneeds : (shoutAll.build textTools .infer).toOption.map (fun graph =>
      (graph.tasks.map (fun task => (task.name, task.needs)), graph.executionOrder.toOption)) =
      some ([("shout", ["split"]), ("split", [])], some ["split", "shout"]) := by cbv
  cases hbuild : shoutAll.build textTools .infer with
  | error fault =>
      rw [hbuild] at hneeds
      cases hneeds
  | ok graph =>
      rw [hbuild, Except.toOption, Option.map_some, Option.some.injEq, Prod.mk.injEq] at hneeds
      exact ⟨graph, rfl, hneeds.1, hneeds.2, Dag.sequenced_of_build hbuild⟩

end Recipe
