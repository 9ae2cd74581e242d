import Recipe.Proofs.Build.Resolution
import Recipe.Proofs.Validation
import Mathlib.Data.List.Pairwise

/-!
# Grouping

A DAG whose tasks run as one group has the graph that it has otherwise, marked as a group and with
the name of its main task, or it has none. What decides is a rule on that graph alone: no task
loops, all that is handed back are artifacts, and not more than one task is the main one
(`Dag.build_grouping`).

Tasks and outputs are resolved without asking whether the DAG is grouped (`Dag.resolve_grouping`),
and validation adds the rules of groups to all others (`Graph.valid_true_iff`).
-/

set_option autoImplicit false

namespace Recipe

/-! ## Groups -/

/-- The DAG with its tasks in one group, or not. -/
def Dag.grouping (dag : Dag) (grouped : Bool) : Dag := { dag with grouped }

namespace Graph

/-- **What a graph is as a group**: the same but for its annotations, which name the main task, if
there is one. -/
structure IsGroupOf (group graph : Graph) (main : Option GraphTask) : Prop where
  /-- The main task is the one that is marked. -/
  main_iff : ∀ task, main = some task ↔ task ∈ graph.tasks ∧ task.MarkedMain
  ungrouped : graph.annotations = []
  eq : group = { graph with
    annotations := (groupedMark, .bool true) ::
      main.toList.map fun task => (groupMainTaskMark, .string task.name) }
  isGrouped : group.isGrouped = true
  mainTask : group.mainTask? = main.map (·.name)

variable {graph group : Graph}

/-! ## Main tasks -/

/-- **The first of the main tasks is the only one.** -/
theorem Groupable.find?_isMain_eq_some (h : graph.Groupable) {task : GraphTask} :
    graph.tasks.find? GraphTask.isMain = some task ↔ task ∈ graph.tasks ∧ task.MarkedMain := by
  have hmarked : ∀ other : GraphTask, other.isMain = true ↔ other.MarkedMain :=
    fun _ => isMarked_eq_true
  constructor
  · intro hfind
    exact ⟨List.mem_of_find?_eq_some hfind, (hmarked task).mp (List.find?_some hfind)⟩
  · rintro ⟨htask, hmain⟩
    cases hfind : graph.tasks.find? GraphTask.isMain with
    | none => exact (List.find?_eq_none.mp hfind task htask ((hmarked task).mpr hmain)).elim
    | some first =>
        have hfirst : first ∈ graph.tasks := List.mem_of_find?_eq_some hfind
        have hfirstMain : first.MarkedMain := (hmarked first).mp (List.find?_some hfind)
        -- of two tasks of the graph not both are marked
        have hsymm : Std.Symm fun task other : GraphTask =>
            ¬ (task.MarkedMain ∧ other.MarkedMain) := ⟨fun _ _ hnot hboth => hnot hboth.symm⟩
        by_contra hne
        have hdistinct : first ≠ task := fun heq => hne (congrArg some heq)
        exact h.main.forall hfirst htask hdistinct ⟨hfirstMain, hmain⟩

/-- **A group of a graph that can be one** is the graph with the annotations of its tasks. -/
theorem Groupable.exists_isGroupOf (h : graph.Groupable) (hplain : graph.annotations = []) :
    (∃ main, group.IsGroupOf graph main) ↔
      group = { graph with annotations := groupAnnotations graph.tasks } := by
  have hannotations : groupAnnotations graph.tasks = (groupedMark, .bool true) ::
      (graph.tasks.find? GraphTask.isMain).toList.map
        fun task => (groupMainTaskMark, .string task.name) := by
    rw [groupAnnotations, Option.toList_map]
  constructor
  · rintro ⟨main, hgroup⟩
    have hmain : main = graph.tasks.find? GraphTask.isMain := by
      refine Option.ext fun task => ?_
      rw [hgroup.main_iff, h.find?_isMain_eq_some]
    rw [hgroup.eq, hannotations, hmain]
  · intro hgroup
    rw [hannotations] at hgroup
    refine ⟨graph.tasks.find? GraphTask.isMain, ?_⟩
    exact
      { main_iff := fun task => h.find?_isMain_eq_some
        ungrouped := hplain
        eq := hgroup
        isGrouped := by
          rw [hgroup]
          rfl
        mainTask := by
          rw [hgroup]
          cases graph.tasks.find? GraphTask.isMain <;> rfl }

/-! ## Validity of groups -/

/-- **The rules of groups are added to those of all graphs.** -/
theorem valid_true_iff : graph.Valid true ↔ graph.Valid false ∧ graph.Groupable := by
  constructor
  · intro h
    exact ⟨{ h with grouped := fun hfalse => (Bool.false_ne_true hfalse).elim }, h.grouped rfl⟩
  · rintro ⟨h, hgroupable⟩
    exact { h with grouped := fun _ => hgroupable }

/-- The rules do not ask for the annotations of a graph. -/
theorem Valid.withAnnotations {grouped : Bool} (h : graph.Valid grouped)
    (annotations : Table Json) : ({ graph with annotations } : Graph).Valid grouped where
  names_distinct := h.names_distinct
  tasks := h.tasks
  references := h.references
  outputs := h.outputs
  grouped hgrouped :=
    have hgroup := h.grouped hgrouped
    ⟨hgroup.loops, hgroup.returns, hgroup.main⟩

theorem valid_withAnnotations {annotations : Table Json} {grouped : Bool} :
    ({ graph with annotations } : Graph).Valid grouped ↔ graph.Valid grouped := by
  constructor
  · intro h
    exact h.withAnnotations graph.annotations
  · intro h
    exact h.withAnnotations annotations

end Graph

/-! ## Building groups -/

namespace Dag

variable {dag : Dag} {registry : Registry} {policy : NeedsPolicy}

/-- **Grouping only adds annotations to what is resolved.** -/
theorem resolve_grouping (dag : Dag) (registry : Registry) (policy : NeedsPolicy) :
    (dag.grouping true).resolve registry policy =
      (fun graph => { graph with annotations := groupAnnotations graph.tasks }) <$>
        (dag.grouping false).resolve registry policy := by
  unfold resolve grouping
  simp only [map_bind, map_pure, if_true, Bool.false_eq_true, if_false]
  rfl

theorem annotations_of_resolve {graph : Graph}
    (h : (dag.grouping false).resolve registry policy = .ok graph) : graph.annotations = [] := by
  obtain ⟨targeted, hresolves⟩ := resolve_eq_ok.mp h
  exact hresolves.annotations

/-- A group is built exactly of a graph that is built otherwise and can be a group. -/
theorem build_grouping_eq_ok {group : Graph} :
    (dag.grouping true).build registry policy = .ok group ↔
      ∃ graph, (dag.grouping false).build registry policy = .ok graph ∧ graph.Groupable ∧
        group = { graph with annotations := groupAnnotations graph.tasks } := by
  have hgrouped : (dag.grouping true).grouped = true := rfl
  have hungrouped : (dag.grouping false).grouped = false := rfl
  simp only [build_eq_ok, Graph.faults_eq_nil, hgrouped, hungrouped, resolve_grouping, map_eq_ok]
  constructor
  · rintro ⟨⟨graph, hresolve, rfl⟩, hvalid⟩
    obtain ⟨hvalid, hgroupable⟩ := Graph.valid_true_iff.mp (Graph.valid_withAnnotations.mp hvalid)
    exact ⟨graph, ⟨hresolve, hvalid⟩, hgroupable, rfl⟩
  · rintro ⟨graph, ⟨hresolve, hvalid⟩, hgroupable, rfl⟩
    refine ⟨⟨graph, hresolve, rfl⟩, ?_⟩
    exact Graph.valid_withAnnotations.mpr (Graph.valid_true_iff.mpr ⟨hvalid, hgroupable⟩)

/-- **Grouping restricts and annotates, and does nothing else.** A grouped DAG has a graph exactly
if the DAG has one without being grouped in which no task loops, all returns are artifacts and not
more than one task is the main one. It is that graph, marked as a group and with the name of the
main task. -/
theorem build_grouping (dag : Dag) (registry : Registry) (policy : NeedsPolicy) :
    ((∃ group, (dag.grouping true).build registry policy = .ok group) ↔
      ∃ graph, (dag.grouping false).build registry policy = .ok graph ∧ graph.Groupable) ∧
    ∀ group, (dag.grouping true).build registry policy = .ok group ↔
      ∃ graph main, (dag.grouping false).build registry policy = .ok graph ∧ graph.Groupable ∧
        group.IsGroupOf graph main := by
  constructor
  · simp only [build_grouping_eq_ok]
    constructor
    · rintro ⟨-, graph, hbuild, hgroupable, rfl⟩
      exact ⟨graph, hbuild, hgroupable⟩
    · rintro ⟨graph, hbuild, hgroupable⟩
      exact ⟨_, graph, hbuild, hgroupable, rfl⟩
  · intro group
    rw [build_grouping_eq_ok]
    refine exists_congr fun graph => ?_
    constructor
    · rintro ⟨hbuild, hgroupable, hgroup⟩
      have hplain := annotations_of_resolve (build_eq_ok.mp hbuild).1
      obtain ⟨main, hmain⟩ := (hgroupable.exists_isGroupOf hplain).mpr hgroup
      exact ⟨main, hbuild, hgroupable, hmain⟩
    · rintro ⟨main, hbuild, hgroupable, hmain⟩
      exact ⟨hbuild, hgroupable,
        (hgroupable.exists_isGroupOf hmain.ungrouped).mp ⟨main, hmain⟩⟩

end Dag

end Recipe
