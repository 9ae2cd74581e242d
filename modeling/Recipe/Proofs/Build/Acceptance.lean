import Recipe.Proofs.Build.Resolution
import Recipe.Proofs.TaskGraph.Wiring

/-!
# What has a graph

A DAG has a graph exactly if it is well-formed. Each part of a declaration is resolved to something
exactly if it meets its condition in `Dag.WellFormed`, which is shown part by part, and the resolved
tasks can be put into an order exactly if none of the declared ones comes before itself.
-/

set_option autoImplicit false

namespace Recipe

open Relation

/-! ## Values -/

theorem Json.isString_renameTexts (value : Json) : value.renameTexts.isString = value.isString := by
  cases value <;> rfl

theorem Json.isList_renameTexts (value : Json) : value.renameTexts.isList = value.isList := by
  cases value <;> rfl

theorem Json.isString_iff {value : Json} :
    value.isString = true ↔ ∃ text, value = .string text := by
  cases value <;> simp [isString]

/-- Something is bound to a parameter exactly if both are artifacts or neither is, or if it is a
text that can be the path of an artifact. -/
theorem Input.exists_takes {parameter : Input} {reference : Reference} :
    (∃ bound, parameter.Takes reference bound) ↔
      parameter.isArtifact = reference.isArtifact ∨
        parameter.isArtifact = true ∧ ∃ text, reference = .value (.string text) := by
  constructor
  · rintro ⟨bound, htakes⟩
    cases htakes with
    | path hkind => exact Or.inr ⟨by simp [isArtifact, Kind.isArtifact, hkind], _, rfl⟩
    | same hsort => exact Or.inl hsort
  · rintro (hsort | ⟨hartifact, text, rfl⟩)
    · exact ⟨reference, .same hsort⟩
    · obtain ⟨kind, hkind⟩ := Option.isSome_iff_exists.mp hartifact
      exact ⟨_, .path hkind⟩

/-- What is read as a parameter, if a file may be, is no artifact or is a file. -/
theorem Reference.isArtifact_fileAsParameter {task name : String} {artifact : Option ArtifactKind} :
    (Reference.output task name artifact).fileAsParameter.isArtifact = false ↔
      artifact = none ∨ artifact = some .file := by
  cases artifact with
  | none => simp [fileAsParameter, isArtifact, artifact?]
  | some kind => cases kind <;> simp [fileAsParameter, isArtifact, artifact?]

theorem Output.artifact?_eq_none {spec : Output} :
    spec.kind.artifact? = none ↔ spec.isArtifact = false := by
  rw [isArtifact, Kind.isArtifact, Option.isSome_eq_false_iff, Option.isNone_iff_eq_none]

theorem Kind.artifact?_eq_file {kind : Kind} : kind.artifact? = some .file ↔ kind = .file := by
  cases kind <;> simp [artifact?]

namespace Dag

variable {dag : Dag} {registry : Registry} {policy : NeedsPolicy} {targeted : List TargetedTask}

theorem Targeted.hasOutput_unique (h : dag.Targeted registry targeted) {task name : String}
    {spec other : Output} (hspec : dag.HasOutput registry task name spec)
    (hother : dag.HasOutput registry task name other) : spec = other := by
  obtain ⟨target, hruns, hspec⟩ := hspec
  obtain ⟨target', hruns', hother⟩ := hother
  rw [h.runs_unique hruns hruns', hother] at hspec
  exact (Option.some.inj hspec).symm

/-- **An argument is bound exactly if its parameter exists and it is known and fits.** -/
theorem Targeted.exists_binds (h : dag.Targeted registry targeted) {entry : TargetedTask}
    {name : String} {value : Argument} :
    (∃ bound, entry.Binds (dag.scope targeted) (name, value) bound) ↔
      ∃ parameter, entry.target.input? name = some parameter ∧ dag.Knows registry value ∧
        dag.Fits registry parameter value := by
  -- the name and the path inside an artifact are the declared ones, so only the source is open
  have hbinds : (∃ bound, entry.Binds (dag.scope targeted) (name, value) bound) ↔
      ∃ parameter, entry.target.input? name = some parameter ∧
        ∃ reference, (dag.scope targeted).Denotes value reference ∧
          ∃ bound, parameter.Takes reference bound := by
    constructor
    · rintro ⟨bound, -, ⟨parameter, reference, hinput, hdenotes, htakes⟩, -⟩
      exact ⟨parameter, hinput, reference, hdenotes, _, htakes⟩
    · rintro ⟨parameter, hinput, reference, hdenotes, source, htakes⟩
      exact ⟨{ name, source, subPath := _ }, rfl, ⟨parameter, reference, hinput, hdenotes, htakes⟩,
        rfl⟩
  rw [hbinds]
  refine exists_congr fun parameter => and_congr_right fun _ => ?_
  simp only [Input.exists_takes]
  -- one case for each sort of argument: what it stands for is fixed, and `Fits` says if it is taken
  cases value with
  | literal value =>
      constructor
      · rintro ⟨_, hdenotes, htakes⟩
        cases hdenotes
        refine ⟨trivial, ?_⟩
        intro hartifact
        rcases htakes with hsort | ⟨-, text, htext⟩
        · rw [hartifact] at hsort
          cases hsort
        · rw [← Json.isString_renameTexts, Reference.value.inj htext]
          rfl
      · rintro ⟨-, hfits⟩
        refine ⟨_, .literal value, ?_⟩
        cases hartifact : parameter.isArtifact with
        | false => exact Or.inl rfl
        | true =>
            have hstring := hfits hartifact
            rw [← Json.isString_renameTexts, Json.isString_iff] at hstring
            obtain ⟨text, htext⟩ := hstring
            exact Or.inr ⟨rfl, text, by rw [htext]⟩
  | input handle =>
      constructor
      · rintro ⟨_, hdenotes, htakes⟩
        cases hdenotes with
        | @input _ input hinput =>
            rw [scope_input?] at hinput
            -- `Fits` speaks of whatever the handle stands for, which is this input only
            refine ⟨⟨input, hinput⟩, ?_⟩
            intro other hother
            rw [hinput, Option.some.injEq] at hother
            subst hother
            rcases htakes with hsort | ⟨-, text, htext⟩
            · exact hsort.symm
            · cases htext
      · rintro ⟨⟨input, hinput⟩, hfits⟩
        exact ⟨_, .input (scope_input?.trans hinput), Or.inl (hfits input hinput).symm⟩
  | output task output =>
      simp only [h.denotes_output]
      constructor
      · rintro ⟨_, ⟨spec, hspec, rfl⟩, htakes⟩
        refine ⟨⟨spec, hspec⟩, ?_⟩
        intro other hother
        rw [h.hasOutput_unique hother hspec]
        rcases htakes with hsort | ⟨-, text, htext⟩
        · exact hsort.symm
        · cases htext
      · rintro ⟨⟨spec, hspec⟩, hfits⟩
        exact ⟨_, ⟨spec, hspec, rfl⟩, Or.inl (hfits spec hspec).symm⟩
  | item field =>
      constructor
      · rintro ⟨_, hdenotes, htakes⟩
        cases hdenotes
        rcases htakes with hsort | ⟨-, text, htext⟩
        · exact ⟨trivial, hsort⟩
        · cases htext
      · rintro ⟨-, hfits⟩
        exact ⟨_, .item field, Or.inl hfits⟩

/-- **A loop has a source exactly if that is known and can be looped over.** -/
theorem Targeted.exists_loopsOver (h : dag.Targeted registry targeted) {value : Argument} :
    (∃ source, TargetedTask.LoopsOver (dag.scope targeted) value source) ↔
      dag.Knows registry value ∧ dag.CanLoopOver registry value := by
  constructor
  · rintro ⟨_, ⟨reference, hdenotes, rfl⟩, hparameter, hitem, hlist⟩
    cases hdenotes with
    | literal value =>
        refine ⟨trivial, ?_⟩
        rw [CanLoopOver, ← Json.isList_renameTexts]
        exact hlist _ rfl
    | @input _ input hinput =>
        rw [scope_input?] at hinput
        refine ⟨⟨input, hinput⟩, ?_⟩
        intro other hother
        rw [hinput, Option.some.injEq] at hother
        subst hother
        exact hparameter
    | @output task name target spec htask hspec =>
        have hhas : dag.HasOutput registry task name spec :=
          ⟨target, h.task?_eq_some.mp htask, hspec⟩
        refine ⟨⟨spec, hhas⟩, ?_⟩
        intro other hother
        rw [h.hasOutput_unique hother hhas, ← Output.artifact?_eq_none, ← Kind.artifact?_eq_file]
        exact Reference.isArtifact_fileAsParameter.mp hparameter
    | item field => cases hitem
  · rintro ⟨hknows, hloops⟩
    cases value with
    | literal value =>
        refine ⟨_, ⟨_, .literal value, rfl⟩, rfl, rfl, ?_⟩
        rintro _ ⟨⟩
        rw [Json.isList_renameTexts]
        exact hloops
    | input handle =>
        obtain ⟨input, hinput⟩ := hknows
        refine ⟨_, ⟨_, .input (scope_input?.trans hinput), rfl⟩, hloops input hinput, rfl, ?_⟩
        rintro _ ⟨⟩
    | output task name =>
        obtain ⟨spec, hspec⟩ := hknows
        have hsort := hloops spec hspec
        rw [← Output.artifact?_eq_none, ← Kind.artifact?_eq_file] at hsort
        refine ⟨_, ⟨_, h.denotes_output.mpr ⟨spec, hspec, rfl⟩, rfl⟩,
          Reference.isArtifact_fileAsParameter.mpr hsort, ?_, ?_⟩
        · rcases hsort with hkind | hkind <;> rw [hkind] <;> rfl
        · intro value hvalue
          rcases hsort with hkind | hkind <;> rw [hkind] at hvalue <;> cases hvalue
    | item field => exact hloops.elim

/-- The output of a task supplies one of a DAG exactly if the sort is the same, or could be. -/
theorem supplies_iff {output : DagOutput} {task name : String} {spec : Output} :
    (if output.spec.isArtifact then Reference.output task name spec.kind.artifact?
      else (Reference.output task name spec.kind.artifact?).fileAsParameter).isArtifact =
        output.spec.isArtifact ↔
      spec.isArtifact = output.spec.isArtifact ∨
        spec.kind = .file ∧ output.spec.isArtifact = false := by
  cases hartifact : output.spec.isArtifact with
  | true => simp [Reference.isArtifact, Reference.artifact?, Output.isArtifact, Kind.isArtifact]
  | false =>
      rw [if_neg Bool.false_ne_true, Reference.isArtifact_fileAsParameter,
        Output.artifact?_eq_none, Kind.artifact?_eq_file]
      simp

/-- **An output is resolved to something exactly if it is supplied.** -/
theorem Targeted.exists_output (h : dag.Targeted registry targeted) {output : DagOutput} :
    (∃ resolved, output.Resolves (dag.scope targeted) resolved) ↔ dag.Supplies registry output := by
  constructor
  · rintro ⟨resolved, hresolves⟩ task name hsource
    cases hresolves with
    | path hpath =>
        rw [hsource] at hpath
        cases hpath
    | output houtput hdenotes hsort =>
        rw [hsource, OutputSource.output.injEq] at houtput
        obtain ⟨rfl, rfl⟩ := houtput
        obtain ⟨spec, hspec, rfl⟩ := h.denotes_output.mp hdenotes
        exact ⟨spec, hspec, supplies_iff.mp hsort⟩
  · intro hsupplies
    cases hsource : output.source with
    | path path => exact ⟨_, .path hsource⟩
    | output task name =>
        obtain ⟨spec, hspec, hsort⟩ := hsupplies task name hsource
        exact ⟨_, .output hsource (h.denotes_output.mpr ⟨spec, hspec, rfl⟩)
          (supplies_iff.mpr hsort)⟩

end Dag

/-! ## Tasks -/

namespace TargetedTask

variable {entry : TargetedTask} {scope : Scope} {policy : NeedsPolicy} {package : PackageId}

theorem Binds.isItem {declared : String × Argument} {bound : BoundArgument}
    (h : entry.Binds scope declared bound) :
    bound.source.isItem = true ↔ ∃ field, declared.2 = .item field := by
  obtain ⟨parameter, reference, -, hdenotes, htakes⟩ := h.source
  have hreference : reference.isItem = true ↔ ∃ field, declared.2 = .item field := by
    generalize declared.2 = argument at hdenotes ⊢
    cases hdenotes <;> simp [Reference.isItem]
  rw [← hreference]
  generalize bound.source = source at htakes ⊢
  cases htakes with
  | path => simp [Reference.isItem]
  | same => rfl

/-- What a return becomes exists exactly if its output does, with a path for an artifact. -/
theorem exists_returns {declaration : ReturnDeclaration} :
    (∃ ret, entry.Returns declaration ret) ↔
      ∃ spec, entry.target.output? declaration.output = some spec ∧
        (spec.isArtifact = true → declaration.HasPath) := by
  constructor
  · rintro ⟨ret, spec, hspec, hpath, -⟩
    exact ⟨spec, hspec, hpath⟩
  · rintro ⟨spec, hspec, hpath⟩
    exact ⟨_, spec, hspec, hpath, rfl⟩

/-- **The needs of a resolved task are the tasks that its declaration needs.** -/
theorem Resolves.mem_needs {task : GraphTask} (h : entry.Resolves scope policy package task)
    {need : String} : need ∈ task.needs ↔ entry.task.Needs need := by
  rw [h.needs, mem_foldl_addNew, mem_distinct, TaskDeclaration.Needs]

end TargetedTask

namespace Dag

variable {dag : Dag} {registry : Registry} {policy : NeedsPolicy} {targeted : List TargetedTask}

/-- **A task is resolved to something exactly if the DAG admits it.** -/
theorem Targeted.exists_resolves (h : dag.Targeted registry targeted) {entry : TargetedTask} :
    (∃ task, entry.Resolves (dag.scope targeted) policy dag.definition.package task) ↔
      dag.Admits registry policy entry.task entry.target := by
  constructor
  · rintro ⟨task, hresolves⟩
    refine
      { bound_once := hresolves.bound_once
        arguments := ?_
        loop := ?_
        items := ?_
        returns := ?_
        needs := ?_
        reads := hresolves.reads_declared }
    · intro name value hmem
      exact h.exists_binds.mp (exists_forall₂.mp ⟨_, hresolves.arguments⟩ _ hmem)
    · intro source hsource
      exact h.exists_loopsOver.mp (exists_optionRel.mp ⟨_, hresolves.loop⟩ _ hsource)
    -- an item that is bound without a loop stays one in the resolved task, where it is a fault
    · intro name field hmem hnone
      have hloop := (eq_none_iff_of_optionRel hresolves.loop).mp hnone
      obtain ⟨bound, hbound, hbinds⟩ := exists_of_forall₂_mem hresolves.arguments _ hmem
      have hitem := hbinds.isItem.mpr ⟨field, rfl⟩
      rw [hresolves.items hloop bound hbound] at hitem
      cases hitem
    · intro ret hret
      exact TargetedTask.exists_returns.mp (exists_forall₂.mp ⟨_, hresolves.returns⟩ _ hret)
    · rw [← h.names_eq]
      exact hresolves.needs_declared
  · intro hadmits
    -- each part exists on its own; the task is put together from them
    have hbinds : ∀ declared ∈ entry.task.arguments,
        ∃ bound, entry.Binds (dag.scope targeted) declared bound := by
      rintro ⟨name, value⟩ hmem
      exact h.exists_binds.mpr (hadmits.arguments name value hmem)
    obtain ⟨arguments, harguments⟩ := exists_forall₂.mpr hbinds
    obtain ⟨loop, hloop⟩ := exists_optionRel.mpr fun source hsource =>
      h.exists_loopsOver.mpr (hadmits.loop source hsource)
    obtain ⟨returns, hreturns⟩ := exists_forall₂.mpr fun ret hret =>
      TargetedTask.exists_returns.mpr (hadmits.returns ret hret)
    refine
      ⟨{ name := entry.task.name
         template := TargetedTask.label entry.target dag.definition.package
         target := entry.target
         arguments
         returns
         needs := entry.task.producers.foldl addNew (distinct entry.task.needs)
         loop
         subFolder := entry.task.subFolder.map renamePlaceholders
         annotations := entry.task.annotations }, ?_⟩
    refine
      { name := rfl
        template := rfl
        target := rfl
        bound_once := hadmits.bound_once
        arguments := harguments
        loop := hloop
        items := ?_
        returns := hreturns
        needs_declared := ?_
        reads_declared := hadmits.reads
        needs := rfl
        subFolder := rfl
        annotations := rfl }
    · intro hnone bound hbound
      obtain ⟨⟨name, value⟩, hmem, hbinds⟩ := exists_of_mem_forall₂ harguments bound hbound
      rw [Bool.eq_false_iff]
      intro hitem
      obtain ⟨field, rfl⟩ := hbinds.isItem.mp hitem
      exact hadmits.items name field hmem ((eq_none_iff_of_optionRel hloop).mpr hnone)
    · rw [h.names_eq]
      exact hadmits.needs

end Dag

/-! ## Graphs -/

namespace Graph

variable {graph : Graph}

theorem nodes_names : graph.nodes.map TaskGraph.Node.name = graph.taskNames := by
  rw [nodes, List.map_map]
  rfl

/-- Something can be computed from the task graph exactly if the tasks can be wired. -/
theorem onTaskGraph_eq_ok {α : Type} {compute : TaskGraph → Except TaskGraphError α} {result : α} :
    graph.onTaskGraph compute = .ok result ↔
      TaskGraph.Wireable graph.nodes ∧ compute (TaskGraph.wiring graph.nodes) = .ok result := by
  rw [onTaskGraph, mapError_eq_ok, bind_eq_ok]
  simp only [TaskGraph.ofTasks_eq_ok]
  constructor
  · rintro ⟨_, ⟨hwireable, rfl⟩, hok⟩
    exact ⟨hwireable, hok⟩
  · rintro ⟨hwireable, hok⟩
    exact ⟨_, ⟨hwireable, rfl⟩, hok⟩

/-- **A graph can be put into an order exactly if its tasks can be wired without a cycle.** -/
theorem exists_executionOrder :
    (∃ order, graph.executionOrder = .ok order) ↔
      TaskGraph.Wireable graph.nodes ∧
        ∀ name, ¬ TransGen (TaskGraph.Precedes graph.nodes) name name := by
  rw [← TaskGraph.exists_order]
  simp only [executionOrder, onTaskGraph, map_eq_ok, mapError_eq_ok]
  constructor
  · rintro ⟨_, order, hok, -⟩
    exact ⟨order, hok⟩
  · rintro ⟨order, hok⟩
    exact ⟨_, order, hok, rfl⟩

end Graph

namespace Dag

variable {dag : Dag} {registry : Registry} {policy : NeedsPolicy} {targeted : List TargetedTask}

theorem ResolvesTasks.nodes_names {graph : Graph}
    (h : dag.ResolvesTasks registry policy targeted graph.tasks) :
    graph.nodes.map (·.name) = dag.taskNames := by
  rw [← h.names_eq]
  exact Graph.nodes_names

theorem ResolvesTasks.precedes_eq {graph : Graph}
    (h : dag.ResolvesTasks registry policy targeted graph.tasks) :
    TaskGraph.Precedes graph.nodes = dag.Precedes := by
  funext need name
  refine propext ?_
  simp only [TaskGraph.Precedes, Graph.nodes, List.mem_map]
  constructor
  · rintro ⟨_, ⟨resolved, hresolved, rfl⟩, rfl, hneed⟩
    obtain ⟨entry, -, task, htask, htargets, hresolves⟩ := h.exists_declared hresolved
    refine ⟨task, htask, ?_, ?_⟩
    · rw [hresolves.name, htargets.declaration]
    · rw [← htargets.declaration]
      exact hresolves.mem_needs.mp hneed
  · rintro ⟨task, htask, rfl, hneed⟩
    obtain ⟨entry, -, resolved, hresolved, htargets, hresolves⟩ := h.exists_resolved htask
    refine ⟨_, ⟨resolved, hresolved, rfl⟩, ?_, ?_⟩
    · rw [hresolves.name, htargets.declaration]
    · rw [← htargets.declaration] at hneed
      exact hresolves.mem_needs.mpr hneed

theorem Knows.producer_mem {value : Argument} (h : dag.Knows registry value) {name : String}
    (hname : value.producer? = some name) : name ∈ dag.taskNames := by
  cases value with
  | output task output =>
      obtain ⟨spec, target, ⟨declared, hmem, hdeclared, -⟩, -⟩ := h
      rw [Argument.producer?, Option.some.injEq] at hname
      rw [← hname, ← hdeclared]
      exact List.mem_map_of_mem hmem
  | _ => cases hname

theorem Admits.knows {task : TaskDeclaration} {target : Definition}
    (h : dag.Admits registry policy task target) {value : Argument} (hvalue : value ∈ task.values) :
    dag.Knows registry value := by
  rcases List.mem_append.mp hvalue with hvalue | hvalue
  · obtain ⟨⟨name, _⟩, hmem, rfl⟩ := List.mem_map.mp hvalue
    obtain ⟨_, -, hknows, -⟩ := h.arguments name _ hmem
    exact hknows
  · exact (h.loop value (Option.mem_toList.mp hvalue)).1

theorem Admits.needs_mem {task : TaskDeclaration} {target : Definition}
    (h : dag.Admits registry policy task target) {need : String} (hneed : task.Needs need) :
    need ∈ dag.taskNames := by
  rcases hneed with hneed | hneed
  · exact h.needs need hneed
  · obtain ⟨value, hvalue, hproducer⟩ := List.mem_filterMap.mp hneed
    exact (h.knows hvalue).producer_mem hproducer

theorem Resolves.wellFormed {graph : Graph} (h : dag.Resolves registry policy targeted graph) :
    dag.WellFormed registry policy := by
  refine
    { tasks := ?_
      names_distinct := h.lookup.names_distinct
      outputs := ?_
      acyclic := ?_ }
  · intro task htask
    obtain ⟨entry, -, resolved, -, htargets, hresolves⟩ := h.exists_resolved htask
    refine ⟨entry.target, htargets.target, ?_⟩
    rw [← htargets.declaration]
    exact h.lookup.exists_resolves.mp ⟨resolved, hresolves⟩
  · intro output houtput
    exact h.lookup.exists_output.mp (exists_forall₂.mp ⟨_, h.outputs⟩ output houtput)
  · rw [← h.precedes_eq]
    exact (Graph.exists_executionOrder.mp h.ordered).2

/-- **A DAG is only built if all that its tasks read is known.** -/
theorem knows_of_build {graph : Graph} (h : dag.build registry policy = .ok graph)
    {task : TaskDeclaration} (htask : task ∈ dag.tasks) {value : Argument}
    (hvalue : value ∈ task.values) : dag.Knows registry value := by
  obtain ⟨targeted, hresolves⟩ := resolve_eq_ok.mp (build_eq_ok.mp h).1
  obtain ⟨target, -, hadmits⟩ := hresolves.wellFormed.tasks task htask
  exact hadmits.knows hvalue

theorem WellFormed.exists_tasks (h : dag.WellFormed registry policy) :
    ∃ targeted tasks, dag.ResolvesTasks registry policy targeted tasks := by
  have htargeted : ∀ task ∈ dag.tasks, ∃ entry : TargetedTask, entry.Targets registry task := by
    intro task htask
    obtain ⟨target, htarget, -⟩ := h.tasks task htask
    exact ⟨⟨task, target⟩, rfl, htarget⟩
  obtain ⟨targeted, htargets⟩ := exists_forall₂.mpr htargeted
  have hlookup : dag.Targeted registry targeted := ⟨h.names_distinct, htargets⟩
  have hresolves : ∀ entry ∈ targeted, ∃ resolved,
      entry.Resolves (dag.scope targeted) policy dag.definition.package resolved := by
    intro entry hentry
    obtain ⟨task, htask, htargets⟩ := exists_of_mem_forall₂ htargets entry hentry
    obtain ⟨target, htarget, hadmits⟩ := h.tasks task htask
    rw [hlookup.exists_resolves, htargets.declaration, htargets.target_eq htarget]
    exact hadmits
  obtain ⟨tasks, htasks⟩ := exists_forall₂.mpr hresolves
  exact ⟨targeted, tasks, hlookup, htasks⟩

theorem WellFormed.exists_resolves (h : dag.WellFormed registry policy) :
    ∃ targeted graph, dag.Resolves registry policy targeted graph := by
  obtain ⟨targeted, tasks, htasks⟩ := h.exists_tasks
  obtain ⟨outputs, houtputs⟩ := exists_forall₂.mpr fun output houtput =>
    htasks.lookup.exists_output.mpr (h.outputs output houtput)
  let graph : Graph :=
    { name := dag.definition.name
      package := dag.definition.package
      inputs := dag.definition.inputs
      tasks
      outputs
      annotations := if dag.grouped then groupAnnotations tasks else [] }
  have hgraph : dag.ResolvesTasks registry policy targeted graph.tasks := htasks
  have hwireable : TaskGraph.Wireable graph.nodes := by
    constructor
    · rw [hgraph.nodes_names]
      exact h.names_distinct
    · rw [hgraph.nodes_names]
      intro node hnode need hneed
      -- a need of a resolved task is one of its declaration, whose needs are declared tasks
      have hprecedes : dag.Precedes need node.name := by
        rw [← hgraph.precedes_eq]
        exact ⟨node, hnode, rfl, hneed⟩
      obtain ⟨task, htask, -, hneeds⟩ := hprecedes
      obtain ⟨target, -, hadmits⟩ := h.tasks task htask
      exact hadmits.needs_mem hneeds
  have hacyclic : ∀ name, ¬ TransGen (TaskGraph.Precedes graph.nodes) name name := by
    rw [hgraph.precedes_eq]
    exact h.acyclic
  exact
    ⟨targeted, graph,
      { toResolvesTasks := hgraph
        name := rfl
        package := rfl
        inputs := rfl
        outputs := houtputs
        ordered := Graph.exists_executionOrder.mpr ⟨hwireable, hacyclic⟩
        annotations := rfl }⟩

/-- **A DAG has a graph exactly if it is well-formed.** -/
theorem exists_resolve_iff :
    (∃ graph, dag.resolve registry policy = .ok graph) ↔ dag.WellFormed registry policy := by
  simp only [resolve_eq_ok]
  constructor
  · rintro ⟨graph, targeted, h⟩
    exact h.wellFormed
  · intro h
    obtain ⟨targeted, graph, hgraph⟩ := h.exists_resolves
    exact ⟨graph, targeted, hgraph⟩

end Dag

end Recipe
