import Recipe.Proofs.Build.Acceptance
import Recipe.Proofs.TaskGraph.CycleReport
import Recipe.Proofs.TaskGraph.Levels

/-!
# Tasks that cannot be ordered

The tasks of a graph may have anything wrong with them at once: repeated names, needs that name no
task, needs that go round. One of these is reported, the same for the execution order and for the
levels (`Graph.ordering_told`). Names come before needs, since needs are looked up when all tasks
are there, and both come before cycles, since a cycle is only searched for along the edges of needs.
-/

set_option autoImplicit false

namespace Recipe

open Relation

namespace TaskGraph

variable {nodes : List Node}

/-! ## Repeated names -/

/-- The first of some names that occurs before itself. -/
def IsFirstRepeated (names : List String) (name : String) : Prop :=
  ∃ before after, names = before ++ name :: after ∧ before.Nodup ∧ name ∈ before

/-- **Names that are not distinct have a first one that is repeated.** -/
theorem exists_isFirstRepeated {names : List String} (h : ¬ names.Nodup) :
    ∃ name, IsFirstRepeated names name := by
  -- the last name is the one if all in front of it are distinct
  induction names using List.reverseRecOn with
  | nil => exact (h List.nodup_nil).elim
  | append_singleton names last ih =>
      by_cases hnodup : names.Nodup
      · have hmem : last ∈ names := by
          by_contra hnew
          rw [← List.concat_eq_append] at h
          exact h (hnodup.concat hnew)
        exact ⟨last, names, [], rfl, hnodup, hmem⟩
      · obtain ⟨name, before, after, hsplit, hbefore, hmem⟩ := ih hnodup
        exact ⟨name, before, after ++ [last], by simp [hsplit], hbefore, hmem⟩

theorem addTask_eq_error {graph : TaskGraph} {node : Node} (h : node.name ∈ graph.names) :
    graph.addTask node = .error (.duplicateTask node.name) :=
  if_pos (index?_isSome.mpr h)

/-- **Of repeated names the first is reported**, whatever else is wrong with the tasks. -/
theorem ofTasks_of_isFirstRepeated {name : String}
    (h : IsFirstRepeated (nodes.map Node.name) name) :
    ofTasks nodes = .error (.duplicateTask name) := by
  obtain ⟨before, after, hsplit, hnodup, hmem⟩ := h
  obtain ⟨first, tail, rfl, rfl, htail⟩ := List.map_eq_append_iff.mp hsplit
  obtain ⟨node, rest, rfl, rfl, -⟩ := List.map_eq_cons_iff.mp htail
  have hempty : ({} : TaskGraph).names.Nodup := List.nodup_nil
  have hfirst : first.foldlM addTask {} = .ok { nodes := first } :=
    (foldlM_addTask_eq_ok hempty).mpr ⟨hnodup, rfl⟩
  have hnode : ({ nodes := first } : TaskGraph).addTask node = .error (.duplicateTask node.name) :=
    addTask_eq_error hmem
  rw [ofTasks, List.foldlM_append, hfirst]
  show (({ nodes := first } : TaskGraph).addTask node >>= fun graph =>
    rest.foldlM addTask graph) >>= addDependencyEdges = _
  rw [hnode]
  rfl

/-! ## Needs without a task -/

/-- The needs that name no task, each with the task that has it: in the order of the tasks and of
the needs of each, and as often as they are listed. -/
def danglingNeeds (nodes : List Node) : List (String × String) :=
  nodes.flatMap fun node =>
    (node.needs.filter (· ∉ nodes.map Node.name)).map (node.name, ·)

theorem missing_eq_danglingNeeds : ({ nodes } : TaskGraph).missing = danglingNeeds nodes := by
  refine List.flatMap_congr fun node _ => ?_
  refine congrArg (List.map (node.name, ·)) (List.filter_congr fun need _ => ?_)
  rw [Bool.eq_iff_iff, Option.isNone_iff_eq_none, index?_eq_none, decide_eq_true_iff]
  rfl

theorem wireable_iff_danglingNeeds :
    Wireable nodes ↔ (nodes.map Node.name).Nodup ∧ danglingNeeds nodes = [] := by
  rw [← missing_eq_danglingNeeds, missing_eq_nil]
  constructor
  · intro h
    exact ⟨h.nodup, h.needs⟩
  · rintro ⟨hnodup, hneeds⟩
    exact ⟨hnodup, hneeds⟩

/-- **Among tasks with distinct names all needs that name no task are reported.** -/
theorem ofTasks_of_danglingNeeds (hnodup : (nodes.map Node.name).Nodup)
    (hdangling : danglingNeeds nodes ≠ []) :
    ofTasks nodes = .error (.missingDependencies (danglingNeeds nodes)) := by
  have hempty : ({} : TaskGraph).names.Nodup := List.nodup_nil
  have hnodes : nodes.foldlM addTask {} = .ok { nodes } :=
    (foldlM_addTask_eq_ok hempty).mpr ⟨hnodup, rfl⟩
  have hmissing : ¬ ({ nodes } : TaskGraph).missing.isEmpty = true := by
    rw [List.isEmpty_iff, missing_eq_danglingNeeds]
    exact hdangling
  rw [ofTasks, hnodes]
  show ({ nodes } : TaskGraph).addDependencyEdges = _
  rw [addDependencyEdges, if_neg hmissing, missing_eq_danglingNeeds]
  rfl

/-- A need is reported as often as it is listed, and before any cycle. -/
example : ofTasks [⟨"a", ["x", "b", "x"]⟩, ⟨"b", ["y", "a"]⟩] =
    .error (.missingDependencies [("a", "x"), ("a", "x"), ("b", "y")]) := rfl

/-! ## Cycles -/

/-- **What is reported of tasks that can be wired** is one of their cycles, if they have any. -/
theorem Wireable.findsCycle_findCycle? (h : Wireable nodes) :
    FindsCycle nodes (wiring nodes).findCycle? := by
  obtain ⟨components, hcomponents, hcycle⟩ := exists_listsComponents (wired_wiring h)
  have hfound : (wiring nodes).findCycle? = (wiring nodes).findCycleAmong? components := by
    rw [findCycle?, hcycle, findCycleAmong?]
  rw [hfound]
  exact h.findsCycle hcomponents

end TaskGraph

/-! ## Graphs -/

namespace Graph

open TaskGraph

variable {graph : Graph}

/-- There is neither an execution order nor levels, and for the same reason. -/
def FailsToOrder (graph : Graph) (fault : Error) : Prop :=
  graph.executionOrder = .error fault ∧ graph.parallelLevels = .error fault

/-- **What comes of putting the tasks of a graph into an order and on levels**: a fault for repeated
names, or else for needs that name no task, or else for a cycle of needs, or else both. -/
structure OrderingTold (graph : Graph) : Prop where
  /-- Of names that are repeated the first is reported. -/
  repeated : ¬ graph.taskNames.Nodup → ∃ name, IsFirstRepeated graph.taskNames name ∧
    graph.FailsToOrder (.duplicateTaskName "" name)
  /-- Of needs that name no task the task graph reports all, and the graph the first. -/
  dangling : graph.taskNames.Nodup → danglingNeeds graph.nodes ≠ [] →
    ofTasks graph.nodes = .error (.missingDependencies (danglingNeeds graph.nodes)) ∧
      ∃ task need, (danglingNeeds graph.nodes).head? = some (task, need) ∧
        graph.FailsToOrder (.malformedReference (.needs task) (.undeclaredInGraph need))
  /-- Of cycles one is reported. -/
  cyclic : graph.taskNames.Nodup → danglingNeeds graph.nodes = [] →
    (∃ name, TransGen (Precedes graph.nodes) name name) →
      ∃ path, ReportsCycle graph.nodes path ∧ graph.FailsToOrder (.cyclicDependency path)
  ordered : graph.taskNames.Nodup → danglingNeeds graph.nodes = [] →
    (∀ name, ¬ TransGen (Precedes graph.nodes) name name) →
      (∃ order, graph.executionOrder = .ok order) ∧ ∃ levels, graph.parallelLevels = .ok levels

/-- Tasks of which no task graph can be made have no order and no levels. -/
theorem failsToOrder_of_ofTasks {fault : TaskGraphError} (h : ofTasks graph.nodes = .error fault) :
    graph.FailsToOrder (Error.ofTaskGraph fault) := by
  have honTaskGraph : ∀ {α : Type} (compute : TaskGraph → Except TaskGraphError α),
      graph.onTaskGraph compute = .error (Error.ofTaskGraph fault) := by
    intro α compute
    rw [onTaskGraph, h]
    rfl
  constructor
  · rw [executionOrder, honTaskGraph]
    rfl
  · rw [parallelLevels, honTaskGraph]
    rfl

theorem failsToOrder_of_findCycle? (h : Wireable graph.nodes) {path : List String}
    (hcycle : (wiring graph.nodes).findCycle? = some path) :
    graph.FailsToOrder (.cyclicDependency path) := by
  have hgraph : ofTasks graph.nodes = .ok (wiring graph.nodes) := ofTasks_eq_ok.mpr ⟨h, rfl⟩
  have horder : (wiring graph.nodes).order = .error (.cycleDetected path) := by
    rw [TaskGraph.order, hcycle]
    rfl
  constructor
  · rw [executionOrder, onTaskGraph, hgraph]
    show List.map Node.name <$> ((wiring graph.nodes).order).mapError Error.ofTaskGraph = _
    rw [horder]
    rfl
  -- levels are made of the order, so they fail with it
  · rw [parallelLevels, onTaskGraph, hgraph]
    show List.map (List.map Node.name) <$>
      (levelsFrom [] [] <$> (wiring graph.nodes).order).mapError Error.ofTaskGraph = _
    rw [horder]
    rfl

/-- **Ordering a graph tells what is wrong with it.** Whatever tasks a graph has, its execution
order and its levels fail with the same fault, or there are both. A repeated name is reported before
a need that names no task, and this before a cycle; of several names and needs the first is
reported. -/
theorem ordering_told (graph : Graph) : graph.OrderingTold where
  repeated := by
    intro hrepeated
    obtain ⟨name, hname⟩ := exists_isFirstRepeated hrepeated
    refine ⟨name, hname, ?_⟩
    rw [← nodes_names] at hname
    exact failsToOrder_of_ofTasks (ofTasks_of_isFirstRepeated hname)
  dangling := by
    intro hnodup hdangling
    rw [← nodes_names] at hnodup
    have hfault := ofTasks_of_danglingNeeds hnodup hdangling
    refine ⟨hfault, ?_⟩
    have hfails := failsToOrder_of_ofTasks hfault
    cases hneeds : danglingNeeds graph.nodes with
    | nil => exact (hdangling hneeds).elim
    | cons first rest =>
        rw [hneeds] at hfails
        exact ⟨first.1, first.2, rfl, hfails⟩
  cyclic := by
    intro hnodup hdangling hcyclic
    rw [← nodes_names] at hnodup
    have hwireable : Wireable graph.nodes := wireable_iff_danglingNeeds.mpr ⟨hnodup, hdangling⟩
    have hfinds := hwireable.findsCycle_findCycle?
    obtain ⟨path, hpath⟩ := hfinds.found_iff.mpr hcyclic
    exact ⟨path, hfinds.reports path hpath, failsToOrder_of_findCycle? hwireable hpath⟩
  ordered := by
    intro hnodup hdangling hacyclic
    rw [← nodes_names] at hnodup
    have hwireable : Wireable graph.nodes := wireable_iff_danglingNeeds.mpr ⟨hnodup, hdangling⟩
    obtain ⟨order, horder, -⟩ := exists_order_wiring hwireable hacyclic
    obtain ⟨levels, hlevels, -⟩ := exists_levels_wiring hwireable hacyclic
    constructor
    · exact ⟨order.map Node.name,
        map_eq_ok.mpr ⟨order, onTaskGraph_eq_ok.mpr ⟨hwireable, horder⟩, rfl⟩⟩
    · exact ⟨levels.map (List.map Node.name),
        map_eq_ok.mpr ⟨levels, onTaskGraph_eq_ok.mpr ⟨hwireable, hlevels⟩, rfl⟩⟩

end Graph

end Recipe
