import Recipe.Proofs.Build.Typing
import Recipe.Proofs.Building
import Recipe.Proofs.Renaming

/-!
# Names in another spelling

A DAG is declared step by step, with names in any spelling. Most of them become canonical when they
are declared, and the names of the outputs that arguments read only when these are resolved. Two
declarations that differ in spelling only are one DAG to every registry: they have the same graph,
or the same fault (`DagDraft.graph_respelled`).
-/

set_option autoImplicit false

namespace Recipe

/-! ## Tasks in steps -/

/-- What can be said of a task beside its name and template. -/
inductive TaskDetail
  | bind (name : String) (value : Argument)
  | handBack (declaration : ReturnDeclaration)
  | need (task : String)
  | loopOver (source : Argument)
  | inFolder (folder : String)
  | atPath (argument path : String)
  | note (name : String) (value : Json)
  | main

/-- The task with one more detail. -/
def TaskDeclaration.complete (task : TaskDeclaration) : TaskDetail → TaskDeclaration
  | .bind name value => task.bind name value
  | .handBack declaration => task.handBack declaration
  | .need name => task.need name
  | .loopOver source => task.loopOver source
  | .inFolder folder => task.inFolder folder
  | .atPath argument path => task.atPath argument path
  | .note name value => task.withAnnotation name value
  | .main => task.asMain

/-- A task as it is written: a name in any spelling, a template, and details. -/
structure TaskScript where
  name : String
  template : TemplateKey
  details : List TaskDetail := []

def TaskScript.task (script : TaskScript) : TaskDeclaration :=
  script.details.foldl TaskDeclaration.complete (.make script.name script.template)

/-! ## DAGs in steps -/

/-- The source of an output as it is written. -/
inductive SourceScript
  | output (task name : String)
  | path (text : String)

def SourceScript.source : SourceScript → OutputSource
  | output task name => .ofTask task name
  | path text => .path text

/-- A step of the declaration of a DAG as it is written. -/
inductive DagStep
  | description (text : String)
  | input (declaration : InputDeclaration)
  | task (script : TaskScript)
  | output (declaration : OutputDeclaration) (source : SourceScript)
  | grouped

def DagStep.call : DagStep → DagCall
  | description text => .description text
  | input declaration => .input declaration
  | task script => .task script.task
  | output declaration source => .output declaration source.source
  | grouped => .grouped

def DagDraft.ofSteps (id : Nat) (name : String) (package : PackageId) (steps : List DagStep) :
    DagDraft :=
  .ofCalls id name package (steps.map DagStep.call)

/-- The graph of a draft, or the first thing wrong with either. -/
def DagDraft.graph (draft : DagDraft) (registry : Registry) (policy : NeedsPolicy) :
    Except Error Graph := do
  (← draft.build).build registry policy

/-! ## Rewriting -/

/-- The detail with all names in another spelling and all arguments exchanged. -/
def TaskDetail.rewrite (spell : String → String) (g : Argument → Argument) :
    TaskDetail → TaskDetail
  | bind name value => bind (spell name) (g value)
  | handBack declaration => handBack { declaration with output := spell declaration.output }
  | need task => need (spell task)
  | loopOver source => loopOver (g source)
  | inFolder folder => inFolder folder
  | atPath argument path => atPath (spell argument) path
  | note name value => note name value
  | main => main

def TaskScript.rewrite (spell : String → String) (g : Argument → Argument) (script : TaskScript) :
    TaskScript where
  name := spell script.name
  template := script.template
  details := script.details.map (·.rewrite spell g)

def SourceScript.rewrite (spell : String → String) : SourceScript → SourceScript
  | output task name => output (spell task) (spell name)
  | path text => path text

def DagStep.rewrite (spell : String → String) (g : Argument → Argument) : DagStep → DagStep
  | description text => description text
  | input declaration => input { declaration with name := spell declaration.name }
  | task script => task (script.rewrite spell g)
  | output declaration source =>
      output { declaration with name := spell declaration.name } (source.rewrite spell)
  | grouped => grouped

/-- The argument with the names of a task and its output in canonical spelling. The name of a field
of the loop's item is no such name. -/
def Argument.canonical : Argument → Argument
  | .output task name => .output (paramName task) (paramName name)
  | other => other

def DagStep.canonical (step : DagStep) : DagStep := step.rewrite paramName Argument.canonical

def DagStep.rename (f : Nat → Nat) (step : DagStep) : DagStep :=
  step.rewrite (fun name => name) (Argument.rename f)

/-- Two declarations are the same but for the spelling of names and the identities of drafts. -/
def DagStep.Respell (f : Nat → Nat) (others steps : List DagStep) : Prop :=
  others.map DagStep.canonical = steps.map fun step => (step.rename f).canonical

/-! ## Rewritten steps -/

section Rewritten

variable {spell : String → String} {g : Argument → Argument} {f : Nat → Nat}

theorem TaskScript.task_rewrite (hspell : ∀ name, paramName (spell name) = paramName name)
    (script : TaskScript) : (script.rewrite spell g).task = script.task.exchange g := by
  have hdetail : ∀ (task : TaskDeclaration) (detail : TaskDetail),
      (task.exchange g).complete (detail.rewrite spell g) = (task.complete detail).exchange g := by
    intro task detail
    cases detail <;> simp [TaskDetail.rewrite, TaskDeclaration.complete, TaskDeclaration.exchange,
      TaskDeclaration.bind, TaskDeclaration.handBack, TaskDeclaration.need,
      TaskDeclaration.loopOver, TaskDeclaration.inFolder, TaskDeclaration.atPath,
      TaskDeclaration.withAnnotation, TaskDeclaration.asMain, hspell]
  have hmake : TaskDeclaration.make (spell script.name) script.template =
      (TaskDeclaration.make script.name script.template).exchange g := by
    simp [TaskDeclaration.make, TaskDeclaration.exchange, hspell]
  calc (script.rewrite spell g).task
      = (script.details.map (·.rewrite spell g)).foldl TaskDeclaration.complete
          ((TaskDeclaration.make script.name script.template).exchange g) := by
        rw [← hmake]
        rfl
    _ = script.task.exchange g := by
        rw [List.foldl_map]
        exact List.foldl_hom (TaskDeclaration.exchange g) hdetail

theorem InputDeclaration.input_spell (hspell : ∀ name, paramName (spell name) = paramName name)
    (declaration : InputDeclaration) :
    InputDeclaration.input { declaration with name := spell declaration.name } =
      declaration.input := by
  simp [input, Input.make, hspell]

theorem OutputDeclaration.output_spell
    (hspell : ∀ name, paramName (spell name) = paramName name)
    (declaration : OutputDeclaration) :
    OutputDeclaration.output { declaration with name := spell declaration.name } =
      declaration.output := by
  simp [output, Output.make, hspell]

theorem SourceScript.source_rewrite (hspell : ∀ name, paramName (spell name) = paramName name)
    (source : SourceScript) : (source.rewrite spell).source = source.source := by
  cases source with
  | output task name => simp [rewrite, SourceScript.source, OutputSource.ofTask, hspell]
  | path text => rfl

/-- The draft with another identity, and with the arguments of its tasks exchanged. -/
def DagDraft.exchange (f : Nat → Nat) (g : Argument → Argument) (draft : DagDraft) : DagDraft :=
  { draft with
    id := f draft.id
    tasks := draft.tasks.map (·.exchange g) }

theorem DagDraft.call_rewrite (hspell : ∀ name, paramName (spell name) = paramName name)
    (draft : DagDraft) (step : DagStep) :
    (draft.exchange f g).call (step.rewrite spell g).call =
      (draft.call step.call).exchange f g := by
  cases step with
  | description text => rfl
  | input declaration =>
      simp only [DagStep.rewrite, DagStep.call, call, declare, exchange,
        InputDeclaration.input_spell hspell]
  | task script =>
      simp [DagStep.rewrite, DagStep.call, call, exchange, TaskScript.task_rewrite hspell]
  | output declaration source =>
      simp only [DagStep.rewrite, DagStep.call, call, exchange,
        OutputDeclaration.output_spell hspell, SourceScript.source_rewrite hspell]
  | grouped => rfl

/-- With names in another spelling and arguments exchanged, the draft differs in arguments only. -/
theorem DagDraft.ofSteps_rewrite (hspell : ∀ name, paramName (spell name) = paramName name)
    (id : Nat) (name : String) (package : PackageId) (steps : List DagStep) :
    ofSteps (f id) name package (steps.map (·.rewrite spell g)) =
      (ofSteps id name package steps).exchange f g := by
  have hmake : make (f id) name package = (make id name package).exchange f g := rfl
  unfold ofSteps ofCalls
  rw [List.map_map, List.foldl_map, List.foldl_map, hmake]
  exact List.foldl_hom (exchange f g) (call_rewrite hspell)

theorem DagDraft.id_ofSteps (id : Nat) (name : String) (package : PackageId)
    (steps : List DagStep) : (ofSteps id name package steps).id = id :=
  ofCalls_keeps DagDraft.id id_call id name package (steps.map DagStep.call)

/-- The exchange of the arguments of a draft leaves its graph alone if they resolve alike. -/
theorem DagDraft.graph_exchange (draft : DagDraft) (registry : Registry) (policy : NeedsPolicy)
    (hg : ∀ dag : Dag, dag.id = draft.id → dag.ExchangesAlike f g) :
    (draft.exchange f g).graph registry policy = draft.graph registry policy := by
  have hbuild : (draft.exchange f g).build = Dag.exchange f g <$> draft.build := by
    unfold build
    show (draft.definition.validate >>= _) = _
    cases draft.definition.validate <;> rfl
  unfold graph
  rw [hbuild, bind_map_left]
  cases hdag : draft.build with
  | error fault => rfl
  | ok dag =>
      obtain ⟨-, hfields⟩ := DagDraft.build_eq_ok.mp hdag
      have hid : dag.id = draft.id := by rw [← hfields]
      exact Dag.build_exchange (fun _ => rfl) (hg dag hid) policy

end Rewritten

/-! ## Respelled DAGs -/

/-- The names of outputs are made canonical when they are looked up. -/
theorem Dag.exchangesAlike_canonical (dag : Dag) :
    dag.ExchangesAlike (fun owner => owner) Argument.canonical := by
  intro targeted argument site
  cases argument with
  | output task name =>
      show Scope.output _ (paramName task) (paramName name) site = Scope.output _ task name site
      simp only [Scope.output, paramName_paramName]
      rfl
  | _ => rfl

namespace DagDraft

variable {registry : Registry} {policy : NeedsPolicy} {id : Nat} {name : String}
  {package : PackageId}

theorem graph_canonical (steps : List DagStep) :
    (ofSteps id name package (steps.map DagStep.canonical)).graph registry policy =
      (ofSteps id name package steps).graph registry policy := by
  have hdraft : ofSteps id name package (steps.map DagStep.canonical) =
      (ofSteps id name package steps).exchange (fun owner => owner) Argument.canonical :=
    ofSteps_rewrite (f := fun owner => owner) paramName_paramName id name package steps
  rw [hdraft]
  exact graph_exchange _ registry policy fun dag _ => dag.exchangesAlike_canonical

theorem graph_rename {f : Nat → Nat} (hf : ∀ owner, f owner = f id → owner = id)
    (steps : List DagStep) :
    (ofSteps (f id) name package (steps.map (·.rename f))).graph registry policy =
      (ofSteps id name package steps).graph registry policy := by
  have hdraft : ofSteps (f id) name package (steps.map (·.rename f)) =
      (ofSteps id name package steps).exchange f (Argument.rename f) :=
    ofSteps_rewrite (fun _ => rfl) id name package steps
  rw [hdraft]
  refine graph_exchange _ registry policy fun dag hdag => ?_
  have hkeeps : dag.Keeps f := by
    rw [Dag.Keeps, hdag, id_ofSteps]
    exact hf
  exact Dag.exchangesAlike_rename hkeeps

/-- **The spelling of names does not matter.** Two declarations that are the same but for the
spelling of the names of tasks, arguments, inputs, outputs, returns, needs and sub-paths, on drafts
of any identities, have the same graph, or the same fault. -/
theorem graph_respelled (registry : Registry) (policy : NeedsPolicy) (name : String)
    (package : PackageId) (id : Nat) {f : Nat → Nat} (hf : ∀ owner, f owner = f id → owner = id)
    {others steps : List DagStep} (h : DagStep.Respell f others steps) :
    (ofSteps (f id) name package others).graph registry policy =
      (ofSteps id name package steps).graph registry policy := by
  have hsteps : others.map DagStep.canonical =
      (steps.map (·.rename f)).map DagStep.canonical := by
    rw [List.map_map]
    exact h
  calc (ofSteps (f id) name package others).graph registry policy
      = (ofSteps (f id) name package (others.map DagStep.canonical)).graph registry policy :=
        (graph_canonical others).symm
    _ = (ofSteps (f id) name package ((steps.map (·.rename f)).map DagStep.canonical)).graph
          registry policy := by
        rw [hsteps]
    _ = (ofSteps (f id) name package (steps.map (·.rename f))).graph registry policy :=
        graph_canonical _
    _ = (ofSteps id name package steps).graph registry policy := graph_rename hf steps

end DagDraft

/-! ## An example -/

/-- A DAG that shouts all lines of a text. -/
def shoutSteps : List DagStep :=
  [.input { name := "whole_text", kind := .file },
    .task {
      name := "shout_lines"
      template := ⟨"text-tools", "shout"⟩
      details :=
        [.bind "line" (.item none), .loopOver (.output "split_text" "lines"),
          .need "split_text", .handBack { output := "loud" }] },
    .task {
      name := "split_text"
      template := ⟨"text-tools", "split"⟩
      details :=
        [.bind "text" (.input ⟨2, 0⟩), .atPath "text" "front.txt",
          .handBack { output := "lines", path := some "lines.txt" }] },
    .output { name := "all_lines", kind := .file } (.output "split_text" "lines")]

/-- The same DAG as somebody else may write it. -/
def hyphenSteps : List DagStep :=
  [.input { name := " whole-text", kind := .file },
    .task {
      name := "shout-lines "
      template := ⟨"text-tools", "shout"⟩
      details :=
        [.bind " line" (.item none), .loopOver (.output "split-text" " lines"),
          .need "split-text\t", .handBack { output := "loud " }] },
    .task {
      name := " split-text"
      template := ⟨"text-tools", "split"⟩
      details :=
        [.bind "text\n" (.input ⟨5, 0⟩), .atPath " text " "front.txt",
          .handBack { output := "lines ", path := some "lines.txt" }] },
    .output { name := "all-lines ", kind := .file } (.output "split_text " "lines")]

set_option maxRecDepth 4000 in
theorem hyphenSteps_graph :
    ∃ graph,
      (DagDraft.ofSteps 2 "ShoutAll" ⟨"daylight", "0.1.0"⟩ shoutSteps).graph textTools .strict =
        .ok graph ∧
      (DagDraft.ofSteps 5 "ShoutAll" ⟨"daylight", "0.1.0"⟩ hyphenSteps).graph textTools .strict =
        .ok graph := by
  have hok : ((DagDraft.ofSteps 2 "ShoutAll" ⟨"daylight", "0.1.0"⟩ shoutSteps).graph textTools
      .strict).isOk = true := by cbv
  have hnames : ∀ names ∈ [(" whole-text", "whole_text"), ("shout-lines ", "shout_lines"),
      (" line", "line"), ("split-text", "split_text"), (" lines", "lines"),
      ("split-text\t", "split_text"), ("loud ", "loud"), (" split-text", "split_text"),
      ("text\n", "text"), (" text ", "text"), ("lines ", "lines"), ("all-lines ", "all_lines"),
      ("split_text ", "split_text")], paramName names.1 = paramName names.2 := by
    decide +kernel
  have hspelling : DagStep.Respell (· + 3) hyphenSteps shoutSteps := by
    simp only [List.forall_mem_cons] at hnames
    simp [DagStep.Respell, hyphenSteps, shoutSteps, DagStep.canonical, DagStep.rename,
      DagStep.rewrite, TaskScript.rewrite, TaskDetail.rewrite, SourceScript.rewrite,
      Argument.canonical, Argument.rename, InputHandle.rename, hnames]
  have hgraph := DagDraft.graph_respelled textTools .strict "ShoutAll" ⟨"daylight", "0.1.0"⟩ 2
    (f := (· + 3)) (fun owner h => Nat.add_right_cancel h) hspelling
  obtain ⟨graph, hsteps⟩ := exists_of_isOk hok
  exact ⟨graph, hsteps, hgraph.trans hsteps⟩

end Recipe
