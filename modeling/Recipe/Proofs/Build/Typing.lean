import Mathlib
import Recipe.Proofs.Build.Acceptance
import Recipe.Proofs.Validation

/-!
# Typing of graphs

A graph that was built is well-typed: what its references refer to is there and of the kind that
they say, each task has the definition that is registered for it and binds what this asks for, and
what tasks and the graph hand back are outputs of that kind.
-/

set_option autoImplicit false

namespace Recipe

/-! ## Well-typed graphs -/

namespace Graph

/-- A graph has an input of a name and a kind of artifact. -/
def HasInput (graph : Graph) (name : String) (artifact : Option ArtifactKind) : Prop :=
  ∃ input ∈ graph.inputs, input.name = name ∧ input.kind.artifact? = artifact

/-- A task of a graph has an output of a name. -/
def HasOutput (graph : Graph) (task name : String) (spec : Output) : Prop :=
  ∃ producer ∈ graph.tasks, producer.name = task ∧ producer.target.output? name = some spec

/-- What an argument refers to is there, and exactly of that kind of artifact. -/
def HasSource (graph : Graph) : Reference → Prop
  | .input name artifact => graph.HasInput name artifact
  | .output task name artifact => ∃ spec, graph.HasOutput task name spec ∧
      spec.kind.artifact? = artifact
  | _ => True

/-- What a loop refers to is there and can be looped over: a literal list, a parameter, or the file
of a task that is read as one. -/
def HasList (graph : Graph) : Reference → Prop
  | .value value => value.isList = true
  | .input name artifact => artifact = none ∧ graph.HasInput name none
  | .output task name artifact => artifact = none ∧ ∃ spec, graph.HasOutput task name spec ∧
      (spec.isArtifact = false ∨ spec.kind = .file)
  | _ => False

/-- What an output refers to is there: the output of a task, which for an artifact is one of the
same kind and for a parameter is none or a file, or an artifact at a path. -/
def Supplies (graph : Graph) (spec : Output) : Reference → Prop
  | .output task name artifact => ∃ source, graph.HasOutput task name source ∧
      (spec.isArtifact = true ∧ source.isArtifact = true ∧ artifact = source.kind.artifact? ∨
        spec.isArtifact = false ∧ (source.isArtifact = false ∨ source.kind = .file) ∧
          artifact = none)
  | .artifact _ _ => True
  | _ => False

end Graph

/-- A return is an output of the target, of the same sort, and has a path that is not blank
exactly if it is an artifact. -/
structure TaskReturn.WellTyped (ret : TaskReturn) (target : Definition) : Prop where
  output : ∃ spec, target.output? ret.name = some spec ∧ ret.artifact = spec.isArtifact
  path : (∃ path, ret.path = some path ∧ Text.isBlankText path = false) ↔ ret.artifact = true

/-- A task of a graph with all its references and returns. -/
structure GraphTask.WellTyped (task : GraphTask) (graph : Graph) : Prop where
  arguments_distinct : (task.arguments.map (·.name)).Nodup
  arguments : ∀ argument ∈ task.arguments, ∃ parameter,
    task.target.input? argument.name = some parameter ∧
      argument.source.isArtifact = parameter.isArtifact ∧ graph.HasSource argument.source
  required : ∀ input ∈ task.target.inputs, input.required = true →
    ∃ argument ∈ task.arguments, argument.name = input.name
  loop : ∀ source, task.loop = some source → graph.HasList source
  items : ∀ argument ∈ task.arguments, argument.source.isItem = true → task.loop ≠ none
  returns : ∀ ret ∈ task.returns, ret.WellTyped task.target

/-- **What a graph must be like** that was built for a DAG. -/
structure Graph.WellTyped (graph : Graph) (dag : Dag) (registry : Registry) : Prop where
  names : graph.taskNames = dag.taskNames
  names_distinct : dag.taskNames.Nodup
  targets : ∀ task ∈ graph.tasks, dag.Runs registry task.name task.target
  tasks : ∀ task ∈ graph.tasks, task.WellTyped graph
  outputs : ∀ output ∈ graph.outputs, graph.Supplies output.spec output.source

/-! ## Resolved references -/

namespace Dag

variable {dag : Dag} {registry : Registry} {policy : NeedsPolicy} {targeted : List TargetedTask}
  {graph : Graph}

theorem Resolves.hasInput (h : dag.Resolves registry policy targeted graph) {handle : InputHandle}
    {input : Input} (hinput : dag.inputOf? handle = some input) :
    graph.HasInput input.name input.kind.artifact? := by
  unfold inputOf? at hinput
  split at hinput
  · refine ⟨input, ?_, rfl, rfl⟩
    rw [h.inputs]
    exact List.mem_of_getElem? hinput
  · cases hinput

theorem Resolves.hasOutput (h : dag.Resolves registry policy targeted graph) {task name : String}
    {spec : Output} (hspec : dag.HasOutput registry task name spec) :
    graph.HasOutput (paramName task) (paramName name) spec := by
  obtain ⟨target, ⟨declared, hdeclared, hname, htarget⟩, hspec⟩ := hspec
  obtain ⟨entry, -, resolved, hresolved, htargets, hresolves⟩ := h.exists_resolved hdeclared
  refine ⟨resolved, hresolved, ?_, ?_⟩
  · rw [hresolves.name, htargets.declaration, hname]
  · rw [hresolves.target, htargets.target_eq htarget]
    exact hspec

theorem Resolves.hasSource (h : dag.Resolves registry policy targeted graph) {value : Argument}
    {reference : Reference} (hdenotes : (dag.scope targeted).Denotes value reference) :
    graph.HasSource reference := by
  cases hdenotes with
  | literal value => trivial
  | input hinput => exact h.hasInput (scope_input?.symm.trans hinput)
  | output htask hspec =>
      exact ⟨_, h.hasOutput ⟨_, h.lookup.task?_eq_some.mp htask, hspec⟩, rfl⟩
  | item field => trivial

theorem Resolves.binds_wellTyped (h : dag.Resolves registry policy targeted graph)
    {entry : TargetedTask} {declared : String × Argument} {bound : BoundArgument}
    (hbinds : entry.Binds (dag.scope targeted) declared bound) :
    ∃ parameter, entry.target.input? bound.name = some parameter ∧
      bound.source.isArtifact = parameter.isArtifact ∧ graph.HasSource bound.source := by
  obtain ⟨parameter, reference, hinput, hdenotes, htakes⟩ := hbinds.source
  rw [← hbinds.name] at hinput
  refine ⟨parameter, hinput, ?_⟩
  -- a literal path becomes an artifact, and all else is bound as it is
  generalize bound.source = source at htakes ⊢
  cases htakes with
  | path hkind =>
      refine ⟨?_, trivial⟩
      simp [Reference.isArtifact, Reference.artifact?, Input.isArtifact, Kind.isArtifact, hkind]
  | same hsort => exact ⟨hsort.symm, h.hasSource hdenotes⟩

theorem Resolves.hasList (h : dag.Resolves registry policy targeted graph) {value : Argument}
    {source : Reference} (hloops : TargetedTask.LoopsOver (dag.scope targeted) value source) :
    graph.HasList source := by
  obtain ⟨⟨reference, hdenotes, rfl⟩, hparameter, hitem, hlist⟩ := hloops
  cases hdenotes with
  | literal value => exact hlist _ rfl
  | @input _ input hinput =>
      have hnone : input.kind.artifact? = none := by
        simpa [Reference.fileAsParameter, Reference.isArtifact, Reference.artifact?]
          using hparameter
      have hhas := h.hasInput (scope_input?.symm.trans hinput)
      rw [hnone] at hhas
      exact ⟨hnone, hhas⟩
  | @output task name target spec htask hspec =>
      have hhas := h.hasOutput ⟨target, h.lookup.task?_eq_some.mp htask, hspec⟩
      -- an output can be looped over if it is a parameter or the file of one
      have hkind := Reference.isArtifact_fileAsParameter.mp hparameter
      rcases hkind with hkind | hkind
      · rw [hkind]
        exact ⟨rfl, spec, hhas, Or.inl (Output.artifact?_eq_none.mp hkind)⟩
      · rw [hkind]
        exact ⟨rfl, spec, hhas, Or.inr (Kind.artifact?_eq_file.mp hkind)⟩
  | item field => cases hitem

theorem Resolves.supplies (h : dag.Resolves registry policy targeted graph) {output : DagOutput}
    {resolved : GraphOutput} (hresolves : output.Resolves (dag.scope targeted) resolved) :
    graph.Supplies resolved.spec resolved.source := by
  cases hresolves with
  | path hpath => trivial
  | @output task name _ hsource hdenotes hsort =>
      obtain ⟨spec, hspec, rfl⟩ := h.lookup.denotes_output.mp hdenotes
      have hhas := h.hasOutput hspec
      cases hartifact : output.spec.isArtifact with
      | true =>
          rw [hartifact] at hsort
          exact ⟨spec, hhas, Or.inl ⟨hartifact, hsort, rfl⟩⟩
      | false =>
          rw [hartifact] at hsort
          have hkind := Reference.isArtifact_fileAsParameter.mp hsort
          rcases hkind with hkind | hkind
          · rw [hkind]
            exact ⟨spec, hhas, Or.inr ⟨hartifact, Or.inl (Output.artifact?_eq_none.mp hkind), rfl⟩⟩
          · rw [hkind]
            exact ⟨spec, hhas, Or.inr ⟨hartifact, Or.inr (Kind.artifact?_eq_file.mp hkind), rfl⟩⟩

end Dag

theorem TargetedTask.Returns.wellTyped {entry : TargetedTask} {declaration : ReturnDeclaration}
    {ret : TaskReturn} (h : entry.Returns declaration ret)
    (hpath : ret.artifact = true → ∃ path, ret.path = some path ∧ Text.isBlankText path = false) :
    ret.WellTyped entry.target := by
  obtain ⟨spec, hspec, -, rfl⟩ := h
  have hname : spec.name = declaration.output := by
    simpa using List.find?_some hspec
  refine ⟨⟨spec, ?_, rfl⟩, ?_, hpath⟩
  · show entry.target.output? spec.name = some spec
    rw [hname]
    exact hspec
  -- conversely a return that is no artifact is resolved without a path
  · rintro ⟨path, hfound, -⟩
    show spec.isArtifact = true
    by_contra hparameter
    rw [if_neg hparameter] at hfound
    cases hfound

/-! ## Built graphs -/

namespace Dag

variable {dag : Dag} {registry : Registry} {policy : NeedsPolicy} {targeted : List TargetedTask}
  {graph : Graph}

theorem Resolves.task_wellTyped (h : dag.Resolves registry policy targeted graph)
    {entry : TargetedTask} {task : GraphTask}
    (hresolves : entry.Resolves (dag.scope targeted) policy dag.definition.package task)
    (hvalid : task.Valid) : task.WellTyped graph := by
  refine
    { arguments_distinct := ?_
      arguments := ?_
      required := hvalid.required
      loop := ?_
      items := ?_
      returns := ?_ }
  -- arguments keep their names, so they are distinct as they were declared
  · rw [map_eq_of_forall₂ (fun declared bound hbinds => hbinds.name) hresolves.arguments]
    exact hresolves.bound_once
  · intro argument hargument
    obtain ⟨declared, -, hbinds⟩ := exists_of_mem_forall₂ hresolves.arguments argument hargument
    rw [hresolves.target]
    exact h.binds_wellTyped hbinds
  · intro source hsource
    have hloop := hresolves.loop
    rw [hsource] at hloop
    obtain ⟨declared, -, hloops⟩ := exists_of_optionRel_some hloop
    exact h.hasList hloops
  · intro argument hargument hitem hnone
    rw [hresolves.items hnone argument hargument] at hitem
    cases hitem
  · intro ret hret
    obtain ⟨declaration, -, hreturns⟩ := exists_of_mem_forall₂ hresolves.returns ret hret
    rw [hresolves.target]
    exact hreturns.wellTyped (hvalid.paths ret hret)

/-- **A graph that was built for a DAG is well-typed.** -/
theorem wellTyped_of_build (hbuild : dag.build registry policy = .ok graph) :
    graph.WellTyped dag registry := by
  obtain ⟨hresolve, hfaults⟩ := build_eq_ok.mp hbuild
  obtain ⟨targeted, h⟩ := resolve_eq_ok.mp hresolve
  refine
    { names := h.names_eq
      names_distinct := h.lookup.names_distinct
      targets := ?_
      tasks := ?_
      outputs := ?_ }
  · intro task htask
    obtain ⟨entry, -, declared, hdeclared, htargets, hresolves⟩ := h.exists_declared htask
    refine ⟨declared, hdeclared, ?_, ?_⟩
    · rw [hresolves.name, htargets.declaration]
    · rw [hresolves.target]
      exact htargets.target
  · intro task htask
    obtain ⟨entry, -, -, -, -, hresolves⟩ := h.exists_declared htask
    exact h.task_wellTyped hresolves ((Graph.faults_eq_nil.mp hfaults).tasks task htask)
  · intro resolved hresolved
    obtain ⟨output, -, hresolves⟩ := exists_of_mem_forall₂ h.outputs resolved hresolved
    exact h.supplies hresolves

end Dag

/-! ## An example -/

/-- A function that splits a text into lines. -/
def splitText : Function where
  definition :=
    { name := "split"
      kind := .function
      package := ⟨"text-tools", "1.0.0"⟩
      inputs := [{ name := "text", kind := .file }]
      outputs := [{ name := "lines", kind := .file }] }
  body := .command "split"

/-- A function that shouts a line. -/
def shoutLine : Function where
  definition :=
    { name := "shout"
      kind := .function
      package := ⟨"text-tools", "1.0.0"⟩
      inputs := [{ name := "line", kind := .string }]
      outputs := [{ name := "loud", kind := .string }] }
  body := .command "shout"

/-- The DAG that shouts all lines of a text. -/
def shoutAll : Dag where
  id := 2
  definition :=
    { name := "shout-all"
      kind := .dag
      package := ⟨"daylight", "0.1.0"⟩
      inputs := [{ name := "text", kind := .file }]
      outputs := [{ name := "lines", kind := .file }] }
  tasks :=
    [{ name := "shout"
       template := ⟨"text-tools", "shout"⟩
       arguments := [("line", .item none)]
       loop := some (.output "split" "lines")
       returns := [{ output := "loud" }] },
     { name := "split"
       template := ⟨"text-tools", "split"⟩
       arguments := [("text", .input ⟨2, 0⟩)]
       returns := [{ output := "lines", path := some "lines.txt" }] }]
  outputs :=
    [{ spec := { name := "lines", kind := .file }
       source := .output "split" "lines" }]
  grouped := false

def textTools : Registry where
  id := 1
  templates := [.function splitText, .function shoutLine]

theorem shoutAll_wellTyped :
    ∃ graph, shoutAll.build textTools .infer = .ok graph ∧ graph.WellTyped shoutAll textTools := by
  have hok : (shoutAll.build textTools .infer).isOk = true := by cbv
  cases hbuild : shoutAll.build textTools .infer with
  | error fault =>
      rw [hbuild] at hok
      cases hok
  | ok graph => exact ⟨graph, rfl, Dag.wellTyped_of_build hbuild⟩

end Recipe
