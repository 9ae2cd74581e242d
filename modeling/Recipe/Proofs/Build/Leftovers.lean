import Recipe.Proofs.Build.Needs
import Recipe.Proofs.Placeholder.Surroundings

/-!
# What building leaves to validation

A resolved graph keeps most rules of valid graphs by the way it is resolved: its tasks have names of
their own, all tasks that are read or needed are there, and each artifact is handed back to a path
that is not blank. Validation can only find what the declarations leave open, inputs that no task
binds and what grouped graphs must not have. In a graph that was built it finds nothing, under any
name (`Dag.left_to_validation`).
-/

set_option autoImplicit false

namespace Recipe

open Text

/-! ## Coherent graphs -/

/-- The rules that a graph keeps by the way it is resolved. -/
structure Graph.Coherent (graph : Graph) : Prop where
  names_distinct : graph.taskNames.Nodup
  paths : ∀ task ∈ graph.tasks, ∀ ret ∈ task.returns, ret.artifact = true →
    ∃ path, ret.path = some path ∧ isBlankText path = false
  references : ∀ task ∈ graph.tasks, task.Within graph.taskNames
  outputs : ∀ output ∈ graph.outputs, ∀ producer, output.source.Reads producer →
    producer ∈ graph.taskNames

/-- What validation can still find in a coherent graph: a task that leaves required inputs unbound,
and in a grouped graph what its rules forbid. -/
inductive Graph.Leaves (graph : Graph) (grouped : Bool) : Error → Prop
  | unbound {task : GraphTask} (hmem : task ∈ graph.tasks) (hmissing : task.missing ≠ []) :
      Leaves graph grouped (.missingArgument task.name task.target.name task.missing)
  | grouped {violation : GroupFault} (h : grouped = true) :
      Leaves graph grouped (.groupedGraphViolation graph.name violation)

namespace GraphTask

variable {task : GraphTask} {fault : Error}

theorem mem_argumentFaults : fault ∈ task.argumentFaults ↔
    task.missing ≠ [] ∧ fault = .missingArgument task.name task.target.name task.missing := by
  rw [argumentFaults, unbound_eq_missing]
  cases task.missing with
  | nil => simp
  | cons first rest => simp

end GraphTask

namespace Graph

variable {graph : Graph} {grouped : Bool} {fault : Error}

/-- **The faults of a coherent graph** are those of arguments and those of grouped graphs. -/
theorem Coherent.faults_eq (h : graph.Coherent) : graph.faults grouped =
    graph.tasks.flatMap GraphTask.argumentFaults ++ if grouped then graph.groupFaults else [] := by
  have hnames : graph.nameFaults = [] :=
    List.map_eq_nil_iff.mpr (repeatedAfter_eq_nil.mpr h.names_distinct)
  have htasks : graph.tasks.flatMap (fun task =>
      task.argumentFaults ++ task.returnFaults ++ task.referenceFaults graph.taskNames) =
      graph.tasks.flatMap GraphTask.argumentFaults := by
    refine List.flatMap_congr fun task htask => ?_
    rw [GraphTask.returnFaults_eq_nil.mpr (h.paths task htask),
      GraphTask.referenceFaults_eq_nil.mpr (h.references task htask), List.append_nil,
      List.append_nil]
  have houtputs : graph.outputs.flatMap graph.outputFaults = [] :=
    List.flatMap_eq_nil_iff.mpr fun output houtput =>
      outputFaults_eq_nil.mpr (h.outputs output houtput)
  rw [faults, hnames, htasks, houtputs, List.nil_append, List.append_nil]

theorem Coherent.leaves (h : graph.Coherent) (hfault : fault ∈ graph.faults grouped) :
    graph.Leaves grouped fault := by
  rw [h.faults_eq] at hfault
  rcases List.mem_append.mp hfault with hfault | hfault
  · obtain ⟨task, htask, hfault⟩ := List.mem_flatMap.mp hfault
    obtain ⟨hmissing, rfl⟩ := GraphTask.mem_argumentFaults.mp hfault
    exact .unbound htask hmissing
  · split at hfault
    · next hgrouped =>
        obtain ⟨violation, rfl⟩ := exists_of_mem_groupFaults hfault
        exact .grouped hgrouped
    · cases hfault

/-- The rules do not ask for the name of a graph. -/
theorem Valid.renamed (h : graph.Valid grouped) (name : String) :
    (graph.renamed name).Valid grouped where
  names_distinct := h.names_distinct
  tasks := h.tasks
  references := h.references
  outputs := h.outputs
  grouped hgrouped :=
    have hgroup := h.grouped hgrouped
    ⟨hgroup.loops, hgroup.returns, hgroup.main⟩

end Graph

/-! ## Resolved graphs -/

theorem TargetedTask.isBlankText_of_returnPath? {declaration : ReturnDeclaration} {path : String}
    (h : returnPath? declaration = some path) : isBlankText path = false := by
  obtain ⟨htrimmed, hne⟩ := Option.filter_eq_some_iff.mp h
  obtain ⟨declared, -, rfl⟩ := Option.map_eq_some_iff.mp htrimmed
  -- trimming it once more leaves it as it is, so it would be empty
  have htwice : trim (trim declared) = trim declared := by
    rw [trim, trim, String.toList_ofList, trimmed_eq_self (bare_trimmed _)]
  rw [Bool.eq_false_iff]
  intro hblank
  rw [isBlankText_iff, htwice] at hblank
  rw [hblank] at hne
  cases hne

/-- **An artifact is handed back to a path that is not blank**, also once its placeholders are
renamed. -/
theorem TargetedTask.Returns.exists_path {entry : TargetedTask} {declaration : ReturnDeclaration}
    {ret : TaskReturn} (h : entry.Returns declaration ret) (hartifact : ret.artifact = true) :
    ∃ path, ret.path = some path ∧ isBlankText path = false := by
  obtain ⟨spec, -, hpath, rfl⟩ := h
  obtain ⟨path, hfound⟩ := Option.isSome_iff_exists.mp (isSome_returnPath?.mpr (hpath hartifact))
  refine ⟨renamePlaceholders path, ?_, ?_⟩
  · show (if spec.isArtifact then (returnPath? declaration).map renamePlaceholders else none) = _
    rw [if_pos hartifact, hfound, Option.map_some]
  · rw [isBlankText_renamePlaceholders]
    exact isBlankText_of_returnPath? hfound

namespace Dag

variable {dag : Dag} {registry : Registry} {policy : NeedsPolicy} {targeted : List TargetedTask}
  {graph : Graph}

theorem Resolves.within (h : dag.Resolves registry policy targeted graph) {task : GraphTask}
    (htask : task ∈ graph.tasks) : task.Within graph.taskNames := by
  obtain ⟨declared, -, hneeds⟩ := exists_of_mem_forall₂ h.hasNeedsOf task htask
  have hneed : ∀ need ∈ task.needs, need ∈ graph.taskNames := fun need hmem =>
    (Graph.needs_others h.ordered htask hmem).1
  -- what is read is among the needs
  have hreads : ∀ producer ∈ task.producers, producer ∈ graph.taskNames := fun producer hmem =>
    hneed producer (hneeds.mem_needs hmem)
  exact
    { arguments := fun argument hargument producer hsource =>
        hreads producer (GraphTask.mem_producers.mpr (.inl ⟨argument, hargument, hsource⟩))
      loop := fun source hsource producer hproducer =>
        hreads producer (GraphTask.mem_producers.mpr (.inr ⟨source, hsource, hproducer⟩))
      needs := hneed }

/-- **A resolved graph is coherent.** -/
theorem Resolves.coherent (h : dag.Resolves registry policy targeted graph) : graph.Coherent where
  names_distinct := by
    rw [Graph.taskNames, h.names_eq]
    exact h.lookup.names_distinct
  paths := by
    intro task htask ret hret
    obtain ⟨entry, -, hresolves⟩ := exists_of_mem_forall₂ h.tasks task htask
    obtain ⟨declaration, -, hreturns⟩ := exists_of_mem_forall₂ hresolves.returns ret hret
    exact hreturns.exists_path
  references := fun task htask => h.within htask
  outputs := by
    rintro resolved hresolved producer ⟨name, artifact, hsource⟩
    obtain ⟨output, -, hresolves⟩ := exists_of_mem_forall₂ h.outputs resolved hresolved
    have hsupplies := h.supplies hresolves
    rw [hsource] at hsupplies
    obtain ⟨-, ⟨task, htask, rfl, -⟩, -⟩ := hsupplies
    exact List.mem_map_of_mem htask

/-- The mark of a resolved graph tells whether the DAG is grouped. -/
theorem Resolves.isGrouped_eq (h : dag.Resolves registry policy targeted graph) :
    graph.isGrouped = dag.grouped := by
  rw [Graph.isGrouped, h.annotations]
  cases dag.grouped with
  | true => rfl
  | false => rfl

/-- **What building leaves to validation.** In a graph that is resolved validation finds nothing but
required inputs that no task binds and, if it asks for them, violations of the rules of grouped
graphs. In a graph that was built, which is marked as grouped exactly if the DAG is, it finds
nothing, and also nothing once the graph is renamed. -/
theorem left_to_validation :
    (dag.resolve registry policy = .ok graph → graph.Coherent ∧
      ∀ grouped, ∀ fault ∈ graph.faults grouped, graph.Leaves grouped fault) ∧
    (dag.build registry policy = .ok graph → graph.isGrouped = dag.grouped ∧
      graph.faults graph.isGrouped = [] ∧
      ∀ name, (graph.renamed name).faults (graph.renamed name).isGrouped = []) := by
  constructor
  · intro hresolve
    obtain ⟨targeted, h⟩ := resolve_eq_ok.mp hresolve
    exact ⟨h.coherent, fun grouped fault hfault => h.coherent.leaves hfault⟩
  · intro hbuild
    obtain ⟨hresolve, hfaults⟩ := build_eq_ok.mp hbuild
    obtain ⟨targeted, h⟩ := resolve_eq_ok.mp hresolve
    have hmark := h.isGrouped_eq
    rw [← hmark] at hfaults
    refine ⟨hmark, hfaults, fun name => ?_⟩
    exact Graph.faults_eq_nil.mpr ((Graph.faults_eq_nil.mp hfaults).renamed name)

end Dag

/-! ## An example -/

/-- A grouped DAG that splits a text. -/
def splitGroup : Dag where
  id := 5
  definition :=
    { name := "split-group"
      kind := .dag
      package := ⟨"daylight", "0.1.0"⟩
      inputs := [{ name := "text", kind := .file }] }
  tasks :=
    [{ name := "split"
       template := ⟨"text-tools", "split"⟩
       arguments := [("text", .input ⟨5, 0⟩)]
       returns := [{ output := "lines", path := some " \x7b\x7bself.a_b\x7d\x7d " }]
       annotations := [(mainTaskMark, .bool true)] }]
  outputs := []
  grouped := true

/-- The same, with a task that has a loop and no text to split. -/
def splitNothing : Dag :=
  { splitGroup with
    tasks :=
      [{ name := "split"
         template := ⟨"text-tools", "split"⟩
         loop := some (.literal (.list [])) }] }

theorem splitGroup_left_to_validation :
    (∃ graph, splitGroup.build textTools .strict = .ok graph ∧ graph.isGrouped = true ∧
      (graph.renamed "other").faults (graph.renamed "other").isGrouped = []) ∧
    ∃ graph, splitNothing.resolve textTools .strict = .ok graph ∧
      (graph.faults true).length = 2 ∧ ∀ fault ∈ graph.faults true, graph.Leaves true fault := by
  constructor
  · have hok : (splitGroup.build textTools .strict).isOk = true := by cbv
    obtain ⟨graph, hbuild⟩ := exists_of_isOk hok
    obtain ⟨hgrouped, -, hrenamed⟩ := Dag.left_to_validation.2 hbuild
    exact ⟨graph, hbuild, hgrouped, hrenamed "other"⟩
  · have hcount : (splitNothing.resolve textTools .strict).toOption.map (fun graph =>
        (graph.faults true).length) = some 2 := by cbv
    cases hresolve : splitNothing.resolve textTools .strict with
    | error fault =>
        rw [hresolve] at hcount
        cases hcount
    | ok graph =>
        rw [hresolve] at hcount
        obtain ⟨-, hleaves⟩ := Dag.left_to_validation.1 hresolve
        exact ⟨graph, rfl, Option.some.inj hcount, hleaves true⟩

end Recipe
