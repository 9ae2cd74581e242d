import Mathlib.Data.List.Basic
import Mathlib.Data.List.Nodup
import Recipe.Validate

/-!
# Validity of graphs

What the faults of a graph say about it. The fields of a graph may hold anything: names that occur
several times, references that lead nowhere, arguments that are not there. A graph has no faults
exactly if it is valid. Of several defects none is passed over, and none is reported twice: a name
is reported once however many tasks have it, and a task once with all that it leaves unbound.
-/

set_option autoImplicit false

namespace Recipe

/-! ## Valid graphs -/

/-- A reference is to an output of a task. -/
def Reference.Reads (reference : Reference) (task : String) : Prop :=
  ∃ name artifact, reference = .output task name artifact

namespace GraphTask

/-- The required inputs of the target for which a task has no argument, as they are declared. -/
def missing (task : GraphTask) : List String :=
  (task.target.inputs.filter fun input =>
    input.required = true ∧ ∀ argument ∈ task.arguments, argument.name ≠ input.name).map (·.name)

/-- A task has an annotation that marks it as the main one. -/
def MarkedMain (task : GraphTask) : Prop :=
  task.annotations.lookup mainTaskMark = some (.bool true)

/-- A task binds what it must and has a path for each artifact that it hands back. -/
structure Valid (task : GraphTask) : Prop where
  required : ∀ input ∈ task.target.inputs, input.required = true →
    ∃ argument ∈ task.arguments, argument.name = input.name
  paths : ∀ ret ∈ task.returns, ret.artifact = true →
    ∃ path, ret.path = some path ∧ Text.isBlankText path = false

/-- All tasks that a task reads or needs have one of some names. -/
structure Within (task : GraphTask) (names : List String) : Prop where
  arguments : ∀ argument ∈ task.arguments, ∀ producer, argument.source.Reads producer →
    producer ∈ names
  loop : ∀ source, task.loop = some source → ∀ producer, source.Reads producer → producer ∈ names
  needs : ∀ need ∈ task.needs, need ∈ names

end GraphTask

namespace Graph

/-- What the rules of grouped graphs ask for. -/
structure Groupable (graph : Graph) : Prop where
  loops : ∀ task ∈ graph.tasks, task.loop = none
  returns : ∀ task ∈ graph.tasks, ∀ ret ∈ task.returns, ret.artifact = true
  /-- Not more than one task is marked. -/
  main : graph.tasks.Pairwise fun task other => ¬ (task.MarkedMain ∧ other.MarkedMain)

/-- **What a graph must be like**, and a grouped one besides. -/
structure Valid (graph : Graph) (grouped : Bool) : Prop where
  names_distinct : graph.taskNames.Nodup
  tasks : ∀ task ∈ graph.tasks, task.Valid
  references : ∀ task ∈ graph.tasks, task.Within graph.taskNames
  outputs : ∀ output ∈ graph.outputs, ∀ producer, output.source.Reads producer →
    producer ∈ graph.taskNames
  grouped : grouped = true → graph.Groupable

end Graph

/-! ## Repeated names -/

theorem mem_repeatedAfter {before names : List String} {name : String} :
    name ∈ repeatedAfter before names ↔
      before.count name ≤ 1 ∧ 2 ≤ before.count name + names.count name := by
  induction names generalizing before with
  | nil =>
      rw [repeatedAfter, List.count_nil]
      constructor
      · intro h
        cases h
      · intro h
        omega
  | cons first rest ih =>
      rw [repeatedAfter]
      by_cases hfirst : first = name
      · subst hfirst
        by_cases hcount : before.count first = 1
        · rw [if_pos hcount, List.count_cons_self]
          simp only [List.mem_cons, true_or, true_iff]
          omega
        · rw [if_neg hcount, ih, List.count_cons_self, List.count_cons_self]
          omega
      -- another name in front changes nothing for this one
      · have hne : (first == name) = false := beq_eq_false_iff_ne.mpr hfirst
        have hmem : name ∈ (if before.count first = 1 then first :: repeatedAfter (first :: before) rest
            else repeatedAfter (first :: before) rest) ↔
            name ∈ repeatedAfter (first :: before) rest := by
          split
          · simp [Ne.symm hfirst]
          · rfl
        rw [hmem, ih, List.count_cons, List.count_cons, hne]
        simp

theorem nodup_repeatedAfter (before names : List String) : (repeatedAfter before names).Nodup := by
  induction names generalizing before with
  | nil => exact List.nodup_nil
  | cons first rest ih =>
      rw [repeatedAfter]
      split
      · next hcount =>
          refine List.nodup_cons.mpr ⟨fun hmem => ?_, ih (first :: before)⟩
          -- it is in front twice by now
          have hle := (mem_repeatedAfter.mp hmem).1
          rw [List.count_cons_self] at hle
          omega
      · exact ih (first :: before)

theorem repeatedAfter_eq_nil {names : List String} : repeatedAfter [] names = [] ↔ names.Nodup := by
  rw [List.eq_nil_iff_forall_not_mem, List.nodup_iff_count_le_one]
  refine forall_congr' fun name => ?_
  rw [mem_repeatedAfter, List.count_nil]
  omega

example : repeatedAfter [] ["a", "b", "a", "b", "c", "a"] = ["a", "b"] := by decide

/-! ## Faults of tasks -/

theorem Reference.producer?_eq_some {reference : Reference} {task : String} :
    reference.producer? = some task ↔ reference.Reads task := by
  cases reference <;> simp [producer?, Reads]

theorem isMarked_eq_true {annotations : Table Json} {name : String} :
    isMarked annotations name = true ↔ annotations.lookup name = some (.bool true) := by
  unfold isMarked
  cases annotations.lookup name with
  | none => simp
  | some value => cases value <;> simp [Json.asBool?]

namespace GraphTask

variable {task : GraphTask} {names : List String}

theorem argument?_isNone {name : String} :
    (task.argument? name).isNone = true ↔ ∀ argument ∈ task.arguments, argument.name ≠ name := by
  simp [argument?]

theorem unbound_eq_missing (task : GraphTask) : task.unbound = task.missing := by
  unfold unbound missing
  refine congrArg (List.map _) (List.filter_congr fun input _ => ?_)
  rw [Bool.eq_iff_iff, Bool.and_eq_true, argument?_isNone, decide_eq_true_eq]

theorem missing_eq_nil : task.missing = [] ↔ ∀ input ∈ task.target.inputs, input.required = true →
    ∃ argument ∈ task.arguments, argument.name = input.name := by
  rw [missing, List.map_eq_nil_iff, List.filter_eq_nil_iff]
  refine forall₂_congr fun input _ => ?_
  rw [decide_eq_true_eq, not_and]
  refine imp_congr_right fun _ => ?_
  simp

theorem argumentFaults_eq_nil : task.argumentFaults = [] ↔ task.missing = [] := by
  rw [argumentFaults, unbound_eq_missing]
  cases task.missing with
  | nil => simp
  | cons first rest => simp

theorem returnFaults_eq_nil : task.returnFaults = [] ↔ ∀ ret ∈ task.returns, ret.artifact = true →
    ∃ path, ret.path = some path ∧ Text.isBlankText path = false := by
  rw [returnFaults, List.map_eq_nil_iff, List.filter_eq_nil_iff]
  refine forall₂_congr fun ret _ => ?_
  rw [Bool.and_eq_true, not_and]
  refine imp_congr_right fun _ => ?_
  cases ret.path with
  | none => simp
  | some path => simp

theorem valid_iff : task.Valid ↔ task.argumentFaults = [] ∧ task.returnFaults = [] := by
  rw [argumentFaults_eq_nil, missing_eq_nil, returnFaults_eq_nil]
  exact ⟨fun h => ⟨h.required, h.paths⟩, fun h => ⟨h.1, h.2⟩⟩

theorem mem_producers {producer : String} :
    producer ∈ task.producers ↔ (∃ argument ∈ task.arguments, argument.source.Reads producer) ∨
      ∃ source, task.loop = some source ∧ source.Reads producer := by
  simp [producers, references, Reference.producer?_eq_some]

theorem referenceFaults_eq_nil : task.referenceFaults names = [] ↔ task.Within names := by
  have hundeclared : ∀ others : List String,
      others.filter (!names.contains ·) = [] ↔ ∀ other ∈ others, other ∈ names := by
    intro others
    simp [List.filter_eq_nil_iff]
  rw [referenceFaults, List.append_eq_nil_iff, List.map_eq_nil_iff, List.map_eq_nil_iff,
    hundeclared, hundeclared]
  constructor
  · rintro ⟨hproducers, hneeds⟩
    refine ⟨fun argument hargument producer hreads => ?_, fun source hsource producer hreads => ?_,
      hneeds⟩
    · exact hproducers producer (mem_producers.mpr (Or.inl ⟨argument, hargument, hreads⟩))
    · exact hproducers producer (mem_producers.mpr (Or.inr ⟨source, hsource, hreads⟩))
  · intro h
    refine ⟨fun producer hproducer => ?_, h.needs⟩
    rcases mem_producers.mp hproducer with ⟨argument, hargument, hreads⟩ | ⟨source, hsource, hreads⟩
    · exact h.arguments argument hargument producer hreads
    · exact h.loop source hsource producer hreads

theorem groupFaults_eq_nil {graph : String} : task.groupFaults graph = [] ↔
    task.loop = none ∧ ∀ ret ∈ task.returns, ret.artifact = true := by
  rw [groupFaults, List.append_eq_nil_iff, List.map_eq_nil_iff, List.filter_eq_nil_iff]
  cases task.loop with
  | none => simp
  | some source => simp

end GraphTask

/-! ## Faults of graphs -/

namespace Graph

variable {graph : Graph}

theorem outputFaults_eq_nil {output : GraphOutput} : graph.outputFaults output = [] ↔
    ∀ producer, output.source.Reads producer → producer ∈ graph.taskNames := by
  rw [outputFaults, List.map_eq_nil_iff, List.filter_eq_nil_iff]
  simp [Reference.producer?_eq_some]

theorem length_filter_le_one {α : Type} {p : α → Bool} {xs : List α} :
    (xs.filter p).length ≤ 1 ↔ xs.Pairwise fun x y => ¬ (p x = true ∧ p y = true) := by
  have hpicked : xs.Pairwise (fun x y => ¬ (p x = true ∧ p y = true)) ↔
      (xs.filter p).Pairwise fun _ _ => False := by
    simp only [List.pairwise_filter, not_and, imp_false]
  rw [hpicked]
  match xs.filter p with
  | [] => simp
  | [x] => simp
  | x :: y :: rest =>
      constructor
      · intro hlength
        simp at hlength
      · intro hpairwise
        exact ((List.pairwise_cons.mp hpairwise).1 y List.mem_cons_self).elim

theorem length_mains_le_one {tasks : List GraphTask} : (tasks.filter GraphTask.isMain).length ≤ 1 ↔
    tasks.Pairwise fun task other => ¬ (task.MarkedMain ∧ other.MarkedMain) := by
  simp only [length_filter_le_one, GraphTask.isMain, isMarked_eq_true, GraphTask.MarkedMain]

theorem groupFaults_eq_nil : graph.groupFaults = [] ↔ graph.Groupable := by
  have hmains : (if 1 < ((graph.tasks.filter GraphTask.isMain).map (·.name)).length then
      [Error.groupedGraphViolation graph.name
        (.severalMainTasks ((graph.tasks.filter GraphTask.isMain).map (·.name)))] else []) = [] ↔
      graph.tasks.Pairwise fun task other => ¬ (task.MarkedMain ∧ other.MarkedMain) := by
    rw [← length_mains_le_one, List.length_map]
    split <;> simp <;> omega
  rw [groupFaults, List.append_eq_nil_iff, List.flatMap_eq_nil_iff, hmains]
  constructor
  · rintro ⟨htasks, hmain⟩
    exact ⟨fun task htask => (GraphTask.groupFaults_eq_nil.mp (htasks task htask)).1,
      fun task htask => (GraphTask.groupFaults_eq_nil.mp (htasks task htask)).2, hmain⟩
  · intro h
    exact ⟨fun task htask =>
      GraphTask.groupFaults_eq_nil.mpr ⟨h.loops task htask, h.returns task htask⟩, h.main⟩

/-- **A graph has no faults exactly if it is valid.** -/
theorem faults_eq_nil {grouped : Bool} : graph.faults grouped = [] ↔ graph.Valid grouped := by
  have hgroup : (if grouped = true then graph.groupFaults else []) = [] ↔
      (grouped = true → graph.Groupable) := by
    rw [← groupFaults_eq_nil]
    cases grouped <;> simp
  simp only [faults, List.append_eq_nil_iff, List.flatMap_eq_nil_iff, hgroup, nameFaults,
    List.map_eq_nil_iff, repeatedAfter_eq_nil, outputFaults_eq_nil,
    GraphTask.referenceFaults_eq_nil, ← GraphTask.valid_iff]
  constructor
  · rintro ⟨⟨⟨hnames, htasks⟩, houtputs⟩, hgrouped⟩
    exact ⟨hnames, fun task htask => (htasks task htask).1, fun task htask => (htasks task htask).2,
      houtputs, hgrouped⟩
  · intro h
    exact ⟨⟨⟨h.names_distinct, fun task htask => ⟨h.tasks task htask, h.references task htask⟩⟩,
      h.outputs⟩, h.grouped⟩

end Graph

/-! ## What is reported -/

/-- The graph and the name that an error calls repeated. -/
def Error.repeated? : Error → Option (String × String)
  | .duplicateTaskName graph name => some (graph, name)
  | _ => none

/-- The task, its template and the inputs that an error calls unbound. -/
def Error.missing? : Error → Option (String × String × List String)
  | .missingArgument task template inputs => some (task, template, inputs)
  | _ => none

/-- An error calls neither a name repeated nor an input unbound. -/
def Error.Other (fault : Error) : Prop := fault.repeated? = none ∧ fault.missing? = none

theorem filterMap_of_other {faults : List Error} (h : ∀ fault ∈ faults, fault.Other) :
    faults.filterMap Error.repeated? = [] ∧ faults.filterMap Error.missing? = [] :=
  ⟨List.filterMap_eq_nil_iff.mpr fun fault hfault => (h fault hfault).1,
    List.filterMap_eq_nil_iff.mpr fun fault hfault => (h fault hfault).2⟩

namespace GraphTask

variable {task : GraphTask} {names : List String} {graph : String} {fault : Error}

theorem other_of_mem_returnFaults (h : fault ∈ task.returnFaults) : fault.Other := by
  obtain ⟨ret, -, rfl⟩ := List.mem_map.mp h
  exact ⟨rfl, rfl⟩

theorem other_of_mem_referenceFaults (h : fault ∈ task.referenceFaults names) : fault.Other := by
  rcases List.mem_append.mp h with h | h
  · obtain ⟨producer, -, rfl⟩ := List.mem_map.mp h
    exact ⟨rfl, rfl⟩
  · obtain ⟨need, -, rfl⟩ := List.mem_map.mp h
    exact ⟨rfl, rfl⟩

theorem exists_of_mem_groupFaults (h : fault ∈ task.groupFaults graph) :
    ∃ violation, fault = .groupedGraphViolation graph violation := by
  rcases List.mem_append.mp h with h | h
  · obtain ⟨-, rfl⟩ : task.loop.isSome = true ∧ fault = _ := by simpa using h
    exact ⟨_, rfl⟩
  · obtain ⟨ret, -, rfl⟩ := List.mem_map.mp h
    exact ⟨_, rfl⟩

theorem filterMap_argumentFaults :
    task.argumentFaults.filterMap Error.repeated? = [] ∧
      task.argumentFaults.filterMap Error.missing? = (if task.missing = [] then none else
        some (task.name, task.target.name, task.missing)).toList := by
  rw [argumentFaults, unbound_eq_missing]
  cases task.missing with
  | nil => exact ⟨rfl, rfl⟩
  | cons first rest => exact ⟨rfl, rfl⟩

end GraphTask

namespace Graph

variable {graph : Graph} {grouped : Bool} {fault : Error}

theorem other_of_mem_outputFaults {output : GraphOutput} (h : fault ∈ graph.outputFaults output) :
    fault.Other := by
  obtain ⟨producer, -, rfl⟩ := List.mem_map.mp h
  exact ⟨rfl, rfl⟩

theorem exists_of_mem_groupFaults (h : fault ∈ graph.groupFaults) :
    ∃ violation, fault = .groupedGraphViolation graph.name violation := by
  rcases List.mem_append.mp h with h | h
  · obtain ⟨task, -, h⟩ := List.mem_flatMap.mp h
    exact GraphTask.exists_of_mem_groupFaults h
  · split at h
    · exact ⟨_, List.mem_singleton.mp h⟩
    · cases h

theorem other_of_mem_groupFaults (h : fault ∈ graph.groupFaults) : fault.Other := by
  obtain ⟨violation, rfl⟩ := exists_of_mem_groupFaults h
  exact ⟨rfl, rfl⟩

/-- The checks of outputs and of grouped graphs report other defects. -/
theorem filterMap_outer :
    (graph.outputs.flatMap graph.outputFaults ++
      (if grouped then graph.groupFaults else [])).filterMap Error.repeated? = [] ∧
    (graph.outputs.flatMap graph.outputFaults ++
      (if grouped then graph.groupFaults else [])).filterMap Error.missing? = [] := by
  refine filterMap_of_other fun fault hfault => ?_
  rcases List.mem_append.mp hfault with h | h
  · obtain ⟨output, -, h⟩ := List.mem_flatMap.mp h
    exact other_of_mem_outputFaults h
  · split at h
    · exact other_of_mem_groupFaults h
    · cases h

/-- So does all of the checks of tasks but that of arguments. -/
theorem filterMap_task (task : GraphTask) :
    (task.argumentFaults ++ task.returnFaults ++ task.referenceFaults graph.taskNames).filterMap
      Error.repeated? = [] ∧
    (task.argumentFaults ++ task.returnFaults ++ task.referenceFaults graph.taskNames).filterMap
      Error.missing? = (if task.missing = [] then none else
        some (task.name, task.target.name, task.missing)).toList := by
  have hothers : ∀ fault ∈ task.returnFaults ++ task.referenceFaults graph.taskNames,
      fault.Other := fun fault hfault =>
    (List.mem_append.mp hfault).elim GraphTask.other_of_mem_returnFaults
      GraphTask.other_of_mem_referenceFaults
  obtain ⟨hrepeated, hmissing⟩ := filterMap_of_other hothers
  rw [List.append_assoc]
  constructor
  · rw [List.filterMap_append, hrepeated, List.append_nil]
    exact GraphTask.filterMap_argumentFaults.1
  · rw [List.filterMap_append, hmissing, List.append_nil]
    exact GraphTask.filterMap_argumentFaults.2

theorem filterMap_repeated : (graph.faults grouped).filterMap Error.repeated? =
    (repeatedAfter [] graph.taskNames).map fun name => (graph.name, name) := by
  have hnames : graph.nameFaults.filterMap Error.repeated? =
      (repeatedAfter [] graph.taskNames).map fun name => (graph.name, name) := by
    rw [nameFaults, List.filterMap_map]
    exact congrFun List.filterMap_eq_map _
  rw [faults, List.append_assoc, List.filterMap_append, filterMap_outer.1, List.filterMap_append,
    List.filterMap_flatMap, List.flatMap_eq_nil_iff.mpr fun task _ => (filterMap_task task).1, hnames,
    List.append_nil, List.append_nil]

theorem filterMap_missing : (graph.faults grouped).filterMap Error.missing? =
    graph.tasks.filterMap fun task =>
      if task.missing = [] then none else some (task.name, task.target.name, task.missing) := by
  have hnames : graph.nameFaults.filterMap Error.missing? = [] := by
    rw [nameFaults, List.filterMap_map]
    exact List.filterMap_eq_nil_iff.mpr fun _ _ => rfl
  rw [faults, List.append_assoc, List.filterMap_append, filterMap_outer.2, List.filterMap_append,
    List.filterMap_flatMap, hnames, List.filterMap_eq_flatMap_toList]
  simp only [filterMap_task, List.nil_append, List.append_nil]

/-- **What the faults of a graph must tell.** -/
structure Reported (graph : Graph) (grouped : Bool) (faults : List Error) : Prop where
  /-- There are none exactly if the graph is valid. -/
  valid : faults = [] ↔ graph.Valid grouped
  /-- A name is called repeated once, if several tasks have it. -/
  repeated : ∃ names : List String,
    faults.filterMap Error.repeated? = names.map (fun name => (graph.name, name)) ∧
      names.Nodup ∧ ∀ name, name ∈ names ↔ 1 < graph.taskNames.count name
  /-- A task is called incomplete once, with all inputs that it leaves unbound, if there are some. -/
  missing : faults.filterMap Error.missing? = graph.tasks.filterMap fun task =>
    if task.missing = [] then none else some (task.name, task.target.name, task.missing)

/-- **The faults of a graph tell all of it**, whatever the fields of the graph are. -/
theorem reported_faults (graph : Graph) (grouped : Bool) :
    graph.Reported grouped (graph.faults grouped) where
  valid := faults_eq_nil
  repeated := by
    refine ⟨repeatedAfter [] graph.taskNames, filterMap_repeated, nodup_repeatedAfter _ _, ?_⟩
    intro name
    rw [mem_repeatedAfter, List.count_nil]
    omega
  missing := filterMap_missing

end Graph

end Recipe
