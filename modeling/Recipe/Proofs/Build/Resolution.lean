import Recipe.Build
import Recipe.Proofs.Build.WellFormed
import Recipe.Proofs.Outcome
import Recipe.Proofs.Table
import Recipe.Proofs.Trimming

/-!
# When resolving succeeds

One statement for each step of resolving a DAG: when the step succeeds, and with what. Together
they say that a task is resolved to exactly the tasks of `TargetedTask.Resolves`, and a DAG to
exactly the graphs of `Dag.Resolves`.
-/

set_option autoImplicit false

namespace Recipe

/-! ## Arguments -/

namespace Scope

/-- What an argument stands for in a scope. -/
inductive Denotes (scope : Scope) : Argument → Reference → Prop
  | literal (value : Json) : Denotes scope (.literal value) (.value value.renameTexts)
  | input {handle : InputHandle} {input : Input} (h : scope.input? handle = some input) :
      Denotes scope (.input handle) (.input input.name input.kind.artifact?)
  | output {task name : String} {target : Definition} {spec : Output}
      (htask : scope.task? (paramName task) = some target)
      (hspec : target.output? (paramName name) = some spec) :
      Denotes scope (.output task name)
        (.output (paramName task) (paramName name) spec.kind.artifact?)
  | item (field : Option String) : Denotes scope (.item field) (.item field)

variable {scope : Scope} {site : Site} {reference : Reference}

theorem output_eq_ok {task name : String} :
    scope.output task name site = .ok reference ↔ scope.Denotes (.output task name) reference := by
  unfold Scope.output
  constructor
  · intro h
    cases htask : scope.task? (paramName task) with
    | none => simp [htask, throw_ne_ok] at h
    | some target =>
        cases hspec : target.output? (paramName name) with
        | none => simp [htask, hspec, throw_ne_ok] at h
        | some spec =>
            simp only [htask, hspec, pure_eq_ok] at h
            subst h
            exact .output htask hspec
  · intro h
    cases h with
    | output htask hspec => simp only [htask, hspec, pure_eq_ok]

/-- **An argument is resolved exactly to what it stands for.** -/
theorem resolve_eq_ok {argument : Argument} :
    scope.resolve argument site = .ok reference ↔ scope.Denotes argument reference := by
  cases argument with
  | literal value =>
      rw [resolve, pure_eq_ok]
      constructor
      · rintro rfl
        exact .literal value
      · intro h
        cases h
        rfl
  | input handle =>
      rw [resolve]
      constructor
      · intro h
        cases hinput : scope.input? handle with
        | none => simp [hinput, throw_ne_ok] at h
        | some input =>
            simp only [hinput, pure_eq_ok] at h
            subst h
            exact .input hinput
      · intro h
        cases h with
        | input hinput => simp only [hinput, pure_eq_ok]
  | output task name => exact output_eq_ok
  | item field =>
      rw [resolve, pure_eq_ok]
      constructor
      · rintro rfl
        exact .item field
      · intro h
        cases h
        rfl

theorem Denotes.producer? {argument : Argument} (h : scope.Denotes argument reference) :
    reference.producer? = argument.producer? := by
  cases h <;> rfl

end Scope

/-! ## Fresh names -/

/-- Names that are not taken, each of which is there once. -/
def Fresh (taken names : List String) : Prop :=
  names.Nodup ∧ ∀ name ∈ taken, name ∉ names

theorem fresh_nil {taken : List String} : Fresh taken [] := by
  simp [Fresh]

theorem fresh_cons {taken rest : List String} {name : String} :
    Fresh taken (name :: rest) ↔ name ∉ taken ∧ Fresh (name :: taken) rest := by
  simp only [Fresh, List.nodup_cons, List.mem_cons, not_or]
  constructor
  · rintro ⟨⟨hname, hnodup⟩, hfresh⟩
    refine ⟨fun hmem => (hfresh name hmem).1 rfl, hnodup, ?_⟩
    rintro other (rfl | hother)
    · exact hname
    · exact (hfresh other hother).2
  · rintro ⟨hnew, hnodup, hfresh⟩
    refine ⟨⟨hfresh name (Or.inl rfl), hnodup⟩, ?_⟩
    intro other hother
    exact ⟨fun heq => hnew (heq ▸ hother), hfresh other (Or.inr hother)⟩

theorem fresh_iff_nodup {names : List String} : Fresh [] names ↔ names.Nodup := by
  simp [Fresh]

/-! ## Binding -/

/-- The kind of artifact at a literal path, for a parameter of a kind. -/
def ArtifactKind.atPath : ArtifactKind → ArtifactKind
  | .folder => .folder
  | _ => .file

/-- What a reference becomes when it is bound to a parameter. -/
inductive Input.Takes (parameter : Input) : Reference → Reference → Prop
  | path {kind : ArtifactKind} {text : String} (h : parameter.kind.artifact? = some kind) :
      Takes parameter (.value (.string text)) (.artifact kind.atPath text)
  | same {reference : Reference} (h : parameter.isArtifact = reference.isArtifact) :
      Takes parameter reference reference

/-- **A reference is bound exactly if the parameter takes it.** -/
theorem Reference.bindTo_eq_ok {reference bound : Reference} {parameter : Input} {site : Site} :
    reference.bindTo parameter site = .ok bound ↔ parameter.Takes reference bound := by
  unfold Reference.bindTo
  constructor
  · intro h
    split at h
    · next hkind =>
        rw [pure_eq_ok] at h
        subst h
        exact .path hkind
    · next kind path hfolder hkind =>
        rw [pure_eq_ok] at h
        subst h
        -- folders were matched before, so the path is one of a file
        have hfile : kind.atPath = .file := by
          cases kind with
          | folder => exact (hfolder rfl).elim
          | file => rfl
          | path => rfl
        rw [← hfile]
        exact .path hkind
    · split at h
      · next heq =>
          rw [pure_eq_ok] at h
          subst h
          exact .same heq
      · exact (throw_ne_ok.mp h).elim
  · intro h
    cases h with
    | @path kind text hkind =>
        rw [hkind]
        cases kind <;> rfl
    | same heq =>
        -- a text is no artifact, so a parameter that wants one does not take it as it is
        split
        · next hkind =>
            simp [Input.isArtifact, Kind.isArtifact, hkind, isArtifact, artifact?] at heq
        · next hkind =>
            simp [Input.isArtifact, Kind.isArtifact, hkind, isArtifact, artifact?] at heq
        · exact if_pos heq

theorem Input.Takes.producer? {parameter : Input} {reference bound : Reference}
    (h : parameter.Takes reference bound) : bound.producer? = reference.producer? := by
  cases h <;> rfl

theorem Reference.producer?_fileAsParameter (reference : Reference) :
    reference.fileAsParameter.producer? = reference.producer? := by
  unfold fileAsParameter
  split <;> rfl

namespace TargetedTask

variable {entry : TargetedTask} {scope : Scope}

/-- A declared argument and what it is bound to. -/
structure Binds (entry : TargetedTask) (scope : Scope) (declared : String × Argument)
    (bound : BoundArgument) : Prop where
  name : bound.name = declared.1
  source : ∃ parameter reference, entry.target.input? declared.1 = some parameter ∧
    scope.Denotes declared.2 reference ∧ parameter.Takes reference bound.source
  subPath : bound.subPath = (entry.task.subPaths.lookup declared.1).map renamePlaceholders

theorem boundArgument_eq_ok {taken : List String} {name : String} {argument : Argument}
    {bound : BoundArgument} :
    entry.boundArgument scope taken name argument = .ok bound ↔
      name ∉ taken ∧ entry.Binds scope (name, argument) bound := by
  unfold boundArgument
  constructor
  · intro h
    cases hinput : entry.target.input? name with
    | none => simp [hinput, throw_ne_ok] at h
    | some parameter =>
        simp only [hinput, check_eq_ok, bind_eq_ok, Scope.resolve_eq_ok, Reference.bindTo_eq_ok,
          pure_eq_ok] at h
        obtain ⟨hnew, reference, hdenotes, source, htakes, rfl⟩ := h
        exact ⟨hnew, rfl, ⟨parameter, reference, hinput, hdenotes, htakes⟩, rfl⟩
  · rintro ⟨hnew, hname, ⟨parameter, reference, hinput, hdenotes, htakes⟩, hpath⟩
    simp only at hinput
    simp only [hinput, check_eq_ok, bind_eq_ok, Scope.resolve_eq_ok, Reference.bindTo_eq_ok,
      pure_eq_ok]
    refine ⟨hnew, reference, hdenotes, bound.source, htakes, ?_⟩
    cases bound
    simp only at hname hpath
    rw [hname, hpath]

/-- **Arguments are bound in turn, none of them twice.** -/
theorem boundArguments_eq_ok {taken : List String} {declared : List (String × Argument)}
    {bound : List BoundArgument} :
    entry.boundArguments scope taken declared = .ok bound ↔
      Fresh taken (declared.map Prod.fst) ∧ List.Forall₂ (entry.Binds scope) declared bound := by
  -- each name that is bound is taken for the rest
  induction declared generalizing taken bound with
  | nil =>
      rw [boundArguments, pure_eq_ok]
      simp [fresh_nil, eq_comm]
  | cons first rest ih =>
      obtain ⟨name, argument⟩ := first
      simp only [boundArguments, bind_eq_ok, pure_eq_ok, boundArgument_eq_ok, ih, List.map_cons,
        fresh_cons]
      constructor
      · rintro ⟨head, ⟨hnew, hhead⟩, tail, ⟨hfresh, htail⟩, rfl⟩
        exact ⟨⟨hnew, hfresh⟩, List.Forall₂.cons hhead htail⟩
      · rintro ⟨⟨hnew, hfresh⟩, hbound⟩
        cases hbound with
        | cons hhead htail => exact ⟨_, ⟨hnew, hhead⟩, _, ⟨hfresh, htail⟩, rfl⟩

/-! ## Loops -/

/-- The reference that a loop over an argument reads. -/
structure LoopsOver (scope : Scope) (argument : Argument) (source : Reference) : Prop where
  denotes : ∃ reference, scope.Denotes argument reference ∧ source = reference.fileAsParameter
  parameter : source.isArtifact = false
  not_item : source.isItem = false
  list : ∀ value, source = .value value → value.isList = true

theorem loopSource_eq_ok {argument : Argument} {source : Reference} :
    entry.loopSource scope argument = .ok source ↔ LoopsOver scope argument source := by
  simp only [loopSource, bind_eq_ok, Scope.resolve_eq_ok]
  constructor
  · rintro ⟨reference, hdenotes, h⟩
    split at h
    · next value hvalue =>
        split at h
        · next hlist =>
            rw [pure_eq_ok] at h
            subst h
            rw [hvalue]
            exact ⟨⟨reference, hdenotes, hvalue.symm⟩, rfl, rfl, by rintro _ ⟨⟩; exact hlist⟩
        · exact (throw_ne_ok.mp h).elim
    · exact (throw_ne_ok.mp h).elim
    · next hvalue hitem =>
        rw [guard_eq_ok, pure_eq_ok] at h
        obtain ⟨hartifact, rfl⟩ := h
        refine ⟨⟨reference, hdenotes, rfl⟩, by simpa using hartifact, ?_, ?_⟩
        -- an item of an outer loop was matched before, so the source is none
        · cases hsource : reference.fileAsParameter with
          | item field => exact (hitem field hsource).elim
          | _ => rfl
        · intro value heq
          exact (hvalue value heq).elim
  · rintro ⟨⟨reference, hdenotes, rfl⟩, hartifact, hitem, hlist⟩
    refine ⟨reference, hdenotes, ?_⟩
    split
    · next value hvalue =>
        rw [if_pos (hlist value hvalue)]
        rfl
    · next field hfield =>
        rw [hfield] at hitem
        cases hitem
    · rw [guard_eq_ok]
      exact ⟨by simp [hartifact], rfl⟩

theorem checkItems_eq_ok {arguments : List BoundArgument} {loop : Option Reference} {u : Unit} :
    entry.checkItems arguments loop = .ok u ↔
      (loop = none → ∀ argument ∈ arguments, argument.source.isItem = false) := by
  unfold checkItems
  cases loop with
  | some source => simp [pure_eq_ok]
  | none =>
      cases hfind : arguments.find? (·.source.isItem) with
      | none => simpa [pure_eq_ok] using List.find?_eq_none.mp hfind
      | some argument =>
          have hitem := List.find?_some hfind
          have hmem := List.mem_of_find?_eq_some hfind
          simp only [throw_ne_ok, false_iff]
          intro hnone
          rw [hnone trivial argument hmem] at hitem
          cases hitem

/-! ## Returns -/

theorem isSome_returnPath? {declaration : ReturnDeclaration} :
    (returnPath? declaration).isSome = true ↔ declaration.HasPath := by
  unfold returnPath? ReturnDeclaration.HasPath
  cases declaration.path with
  | none => simp
  | some path =>
      have hblank := Text.isBlankText_iff path
      simp only [Option.map_some, Option.isSome_filter, Option.any_some, Bool.not_eq_true',
        Option.some.injEq, exists_eq_left']
      rw [Bool.eq_false_iff, Bool.eq_false_iff, Ne, Ne, hblank, String.isEmpty_iff]

/-- A declared return and what it becomes. -/
def Returns (entry : TargetedTask) (declaration : ReturnDeclaration) (ret : TaskReturn) : Prop :=
  ∃ spec, entry.target.output? declaration.output = some spec ∧
    (spec.isArtifact = true → declaration.HasPath) ∧
    ret =
      { name := spec.name
        description := declaration.description
        path := if spec.isArtifact then (returnPath? declaration).map renamePlaceholders else none
        artifact := spec.isArtifact }

theorem taskReturn_eq_ok {declaration : ReturnDeclaration} {ret : TaskReturn} :
    entry.taskReturn declaration = .ok ret ↔ entry.Returns declaration ret := by
  unfold taskReturn Returns
  cases hspec : entry.target.output? declaration.output with
  | none => simp [throw_ne_ok]
  | some spec =>
      simp only [guard_eq_ok, pure_eq_ok, Option.some.injEq, exists_eq_left']
      rw [Bool.and_eq_true, not_and, ← isSome_returnPath?, Option.isNone_iff_eq_none,
        ← Ne, Option.ne_none_iff_isSome]
      refine and_congr_right fun _ => ?_
      exact eq_comm

/-! ## Needs -/

theorem declaredNeeds_eq_ok {needs : List String} :
    entry.declaredNeeds scope = .ok needs ↔
      (∀ need ∈ entry.task.needs, need ∈ scope.tasks.names) ∧
        needs = distinct entry.task.needs := by
  unfold declaredNeeds
  cases hfind : entry.task.needs.find? (!scope.tasks.has ·) with
  | some need =>
      have hhas := List.find?_some hfind
      have hmem := List.mem_of_find?_eq_some hfind
      simp only [throw_ne_ok, false_iff, not_and]
      intro hall
      have hnamed := Table.has_eq_true.mpr (hall need hmem)
      simp [hnamed] at hhas
  | none =>
      rw [pure_eq_ok]
      have hall : ∀ need ∈ entry.task.needs, need ∈ scope.tasks.names := by
        intro need hmem
        have hhas := List.find?_eq_none.mp hfind need hmem
        exact Table.has_eq_true.mp (by simpa using hhas)
      exact ⟨fun h => ⟨hall, h.symm⟩, fun h => h.2.symm⟩

/-- **Tasks that are read become needs**, unless that is not allowed and they are not yet. -/
theorem withProducers_eq_ok {policy : NeedsPolicy} {needs producers all : List String} :
    entry.withProducers policy needs producers = .ok all ↔
      (policy = .strict → ∀ producer ∈ producers, producer ∈ needs) ∧
        all = producers.foldl addNew needs := by
  induction producers generalizing needs with
  | nil =>
      rw [withProducers, pure_eq_ok]
      simp [eq_comm]
  | cons producer rest ih =>
      -- a producer that is a need already changes nothing under either policy
      rw [withProducers.eq_def, List.foldl_cons]
      show (if _ then _ else _) = _ ↔ _
      split
      · next hmem =>
          have hsame : addNew needs producer = needs := if_pos hmem
          rw [ih, hsame]
          simp [hmem]
      · next hnew =>
          cases policy with
          | infer =>
              have hadd : addNew needs producer = needs ++ [producer] := if_neg hnew
              rw [hadd]
              simp only [ih, reduceCtorEq, false_implies, true_and]
          | strict =>
              simp only [throw_ne_ok, false_iff, not_and]
              intro hall
              exact (hnew (hall trivial producer List.mem_cons_self)).elim

/-! ## Tasks -/

/-- Bound arguments and the loop read the outputs of the same tasks as the declared ones. -/
theorem producers_eq {arguments : List BoundArgument} {loop : Option Reference}
    (harguments : List.Forall₂ (entry.Binds scope) entry.task.arguments arguments)
    (hloop : Option.Rel (LoopsOver scope) entry.task.loop loop) :
    (arguments.map (·.source) ++ loop.toList).filterMap Reference.producer? =
      entry.task.producers := by
  have hbound : arguments.map (·.source.producer?) =
      entry.task.arguments.map (·.2.producer?) := by
    refine map_eq_of_forall₂ ?_ harguments
    rintro declared bound ⟨-, ⟨parameter, reference, -, hdenotes, htakes⟩, -⟩
    rw [htakes.producer?, hdenotes.producer?]
  have hsource : loop.map Reference.producer? = entry.task.loop.map Argument.producer? := by
    refine map_eq_of_optionRel ?_ hloop
    rintro argument _ ⟨⟨reference, hdenotes, rfl⟩, -, -, -⟩
    rw [Reference.producer?_fileAsParameter, hdenotes.producer?]
  -- both lists of producers are filtered from lists of options, which agree item by item
  have hfilter : ∀ {α : Type} (f : α → Option String) (xs : List α),
      xs.filterMap f = (xs.map f).filterMap id := by
    intro α f xs
    rw [List.filterMap_map, Function.id_comp]
  unfold TaskDeclaration.producers TaskDeclaration.values
  rw [hfilter Reference.producer?, hfilter Argument.producer?]
  simp only [List.map_append, List.map_map, Function.comp_def, ← Option.toList_map, hbound, hsource]

/-- A task with its target and what it is resolved to. -/
structure Resolves (entry : TargetedTask) (scope : Scope) (policy : NeedsPolicy)
    (package : PackageId) (task : GraphTask) : Prop where
  name : task.name = entry.task.name
  template : task.template = label entry.target package
  target : task.target = entry.target
  bound_once : (entry.task.arguments.map Prod.fst).Nodup
  arguments : List.Forall₂ (entry.Binds scope) entry.task.arguments task.arguments
  loop : Option.Rel (LoopsOver scope) entry.task.loop task.loop
  items : task.loop = none → ∀ argument ∈ task.arguments, argument.source.isItem = false
  returns : List.Forall₂ entry.Returns entry.task.returns task.returns
  needs_declared : ∀ need ∈ entry.task.needs, need ∈ scope.tasks.names
  reads_declared : policy = .strict →
    ∀ producer ∈ entry.task.producers, producer ∈ entry.task.needs
  needs : task.needs = entry.task.producers.foldl addNew (distinct entry.task.needs)
  subFolder : task.subFolder = entry.task.subFolder.map renamePlaceholders
  annotations : task.annotations = entry.task.annotations

variable {policy : NeedsPolicy} {package : PackageId} {task : GraphTask}

/-- **A task is resolved exactly if every part of it is.** -/
theorem resolve_eq_ok :
    entry.resolve scope policy package = .ok task ↔ entry.Resolves scope policy package task := by
  simp only [resolve, bind_eq_ok, pure_eq_ok, boundArguments_eq_ok, fresh_iff_nodup,
    optionMapM_eq_ok, loopSource_eq_ok, checkItems_eq_ok, mapM_eq_ok, taskReturn_eq_ok, declaredNeeds_eq_ok,
    withProducers_eq_ok]
  constructor
  · rintro ⟨arguments, ⟨hnodup, harguments⟩, loop, hloop, -, hitems, returns, hreturns, declared,
      ⟨hdeclared, rfl⟩, needs, ⟨hreads, rfl⟩, rfl⟩
    -- the producers were read off the bound arguments, and are those of the declared ones
    rw [producers_eq harguments hloop] at hreads
    exact
      { name := rfl
        template := rfl
        target := rfl
        bound_once := hnodup
        arguments := harguments
        loop := hloop
        items := hitems
        returns := hreturns
        needs_declared := hdeclared
        reads_declared := fun hstrict producer hmem =>
          mem_distinct.mp (hreads hstrict producer hmem)
        needs := by rw [producers_eq harguments hloop]
        subFolder := rfl
        annotations := rfl }
  · intro h
    refine ⟨task.arguments, ⟨h.bound_once, h.arguments⟩, task.loop, h.loop, (), h.items,
      task.returns, h.returns, distinct entry.task.needs, ⟨h.needs_declared, rfl⟩, task.needs,
      ⟨?_, ?_⟩, ?_⟩
    · rw [producers_eq h.arguments h.loop]
      intro hstrict producer hmem
      exact mem_distinct.mpr (h.reads_declared hstrict producer hmem)
    · rw [producers_eq h.arguments h.loop]
      exact h.needs
    -- the fields that no step computes are copied from the declaration
    · obtain ⟨hname, htemplate, htarget, -, -, -, -, -, -, -, -, hfolder, hannotations⟩ := h
      cases task
      simp only at hname htemplate htarget hfolder hannotations
      simp only [hname, htemplate, htarget, hfolder, hannotations]

theorem Resolves.producers (h : entry.Resolves scope policy package task) :
    task.producers = entry.task.producers :=
  producers_eq h.arguments h.loop

end TargetedTask

/-! ## Outputs -/

/-- A declared output of a DAG and what it is resolved to. -/
inductive DagOutput.Resolves (output : DagOutput) (scope : Scope) : GraphOutput → Prop
  | path {path : String} (h : output.source = .path path) :
      Resolves output scope
        { spec := output.spec
          source := .artifact (output.spec.kind.artifact?.getD .file) (renamePlaceholders path) }
  | output {task name : String} {reference : Reference} (h : output.source = .output task name)
      (hdenotes : scope.Denotes (.output task name) reference)
      (hsort : (if output.spec.isArtifact then reference
        else reference.fileAsParameter).isArtifact = output.spec.isArtifact) :
      Resolves output scope
        { spec := output.spec
          source := if output.spec.isArtifact then reference else reference.fileAsParameter }

/-- **An output is resolved exactly if its source is of its sort.** -/
theorem DagOutput.resolve_eq_ok {output : DagOutput} {scope : Scope} {resolved : GraphOutput} :
    output.resolve scope = .ok resolved ↔ output.Resolves scope resolved := by
  unfold DagOutput.resolve
  constructor
  · intro h
    split at h
    · next path hsource =>
        rw [pure_eq_ok] at h
        subst h
        exact .path hsource
    · next task name hsource =>
        simp only [bind_eq_ok, Scope.output_eq_ok] at h
        obtain ⟨reference, hdenotes, h⟩ := h
        by_cases hsort : (if output.spec.isArtifact then reference else
            reference.fileAsParameter).isArtifact = output.spec.isArtifact
        · rw [if_pos hsort, pure_eq_ok] at h
          subst h
          exact .output hsource hdenotes hsort
        · rw [if_neg hsort] at h
          exact (throw_ne_ok.mp h).elim
  · intro h
    cases h with
    | path hsource => simp only [hsource, pure_eq_ok]
    | output hsource hdenotes hsort =>
        simp only [hsource, bind_eq_ok, Scope.output_eq_ok]
        refine ⟨_, hdenotes, ?_⟩
        rw [if_pos hsort]
        rfl

/-! ## Lookup -/

/-- A task with the definition that is registered under its template's key. -/
structure TargetedTask.Targets (entry : TargetedTask) (registry : Registry)
    (task : TaskDeclaration) : Prop where
  declaration : entry.task = task
  target : registry.definition task.template = .ok entry.target

theorem TargetedTask.Targets.target_eq {entry : TargetedTask} {registry : Registry}
    {task : TaskDeclaration} (h : entry.Targets registry task) {target : Definition}
    (htarget : registry.definition task.template = .ok target) : entry.target = target :=
  Except.ok.inj (h.target.symm.trans htarget)

/-- **All tasks are looked up exactly if their templates are registered and their names
distinct.** -/
theorem targetedTasks_eq_ok {registry : Registry} {graph : String} {seen : List String}
    {tasks : List TaskDeclaration} {targeted : List TargetedTask} :
    targetedTasks registry graph seen tasks = .ok targeted ↔
      Fresh seen (tasks.map (·.name)) ∧
        List.Forall₂ (fun task entry => entry.Targets registry task) tasks targeted := by
  induction tasks generalizing seen targeted with
  | nil =>
      rw [targetedTasks, pure_eq_ok]
      simp [fresh_nil, eq_comm]
  | cons task rest ih =>
      simp only [targetedTasks, bind_eq_ok, check_eq_ok, pure_eq_ok, ih, List.map_cons, fresh_cons]
      constructor
      · rintro ⟨target, htarget, hnew, tail, ⟨hfresh, htail⟩, rfl⟩
        exact ⟨⟨hnew, hfresh⟩, List.Forall₂.cons ⟨rfl, htarget⟩ htail⟩
      · rintro ⟨⟨hnew, hfresh⟩, htargeted⟩
        cases htargeted with
        | @cons _ entry _ tail hhead htail =>
            refine ⟨entry.target, hhead.target, hnew, tail, ⟨hfresh, htail⟩, ?_⟩
            rw [← hhead.declaration]

namespace Dag

variable {dag : Dag} {registry : Registry} {targeted : List TargetedTask} {name : String}

/-- The tasks of a DAG with their targets. -/
structure Targeted (dag : Dag) (registry : Registry) (targeted : List TargetedTask) : Prop where
  names_distinct : dag.taskNames.Nodup
  targets : List.Forall₂ (fun task entry => entry.Targets registry task) dag.tasks targeted

theorem targetedTasks_eq_ok_iff {graph : String} :
    targetedTasks registry graph [] dag.tasks = .ok targeted ↔ dag.Targeted registry targeted := by
  rw [targetedTasks_eq_ok, fresh_iff_nodup]
  constructor
  · rintro ⟨hnodup, htargets⟩
    exact ⟨hnodup, htargets⟩
  · rintro ⟨hnodup, htargets⟩
    exact ⟨hnodup, htargets⟩

theorem Targeted.names_eq (h : dag.Targeted registry targeted) :
    (dag.scope targeted).tasks.names = dag.taskNames := by
  rw [scope, Table.names, List.map_map]
  exact map_eq_of_forall₂ (fun task entry htargets => by simp [htargets.declaration]) h.targets

theorem Targeted.task?_eq_some (h : dag.Targeted registry targeted) {target : Definition} :
    (dag.scope targeted).task? name = some target ↔ dag.Runs registry name target := by
  have hnodup : ((dag.scope targeted).tasks.map Prod.fst).Nodup := by
    rw [← Table.names, h.names_eq]
    exact h.names_distinct
  rw [Scope.task?, Table.lookup_reverse_eq_some hnodup]
  simp only [scope, List.mem_map, Prod.mk.injEq]
  constructor
  · rintro ⟨entry, hentry, rfl, rfl⟩
    obtain ⟨task, htask, htargets⟩ := exists_of_mem_forall₂ h.targets entry hentry
    exact ⟨task, htask, by rw [htargets.declaration], htargets.target⟩
  · rintro ⟨task, htask, rfl, htarget⟩
    obtain ⟨entry, hentry, htargets⟩ := exists_of_forall₂_mem h.targets task htask
    exact ⟨entry, hentry, by rw [htargets.declaration], htargets.target_eq htarget⟩

theorem Targeted.runs_unique (h : dag.Targeted registry targeted) {target other : Definition}
    (htarget : dag.Runs registry name target) (hother : dag.Runs registry name other) :
    target = other := by
  have hfirst := h.task?_eq_some.mpr htarget
  rw [h.task?_eq_some.mpr hother] at hfirst
  exact (Option.some.inj hfirst).symm

/-- The handles of a scope are those given out for the DAG. -/
theorem scope_input? {handle : InputHandle} :
    (dag.scope targeted).input? handle = dag.inputOf? handle := by
  have hnodup : (dag.handles.map Prod.fst).Nodup := by
    -- the handles are numbered in turn
    have hindex : dag.handles.map Prod.fst =
        (List.range dag.definition.inputs.length).map (InputHandle.mk dag.id) := by
      rw [handles, List.map_map, List.range_eq_range', ← List.zipIdx_map_snd 0, List.map_map]
      rfl
    rw [hindex]
    refine List.Nodup.map ?_ List.nodup_range
    intro i j hij
    exact (InputHandle.mk.inj hij).2
  refine Option.ext fun input => ?_
  obtain ⟨owner, index⟩ := handle
  rw [Scope.input?, scope, Table.lookup_reverse_eq_some hnodup, inputOf?, handles]
  simp only [List.mem_map, Prod.exists, List.mem_zipIdx_iff_getElem?, Prod.mk.injEq,
    InputHandle.mk.injEq]
  constructor
  · rintro ⟨found, i, hfound, ⟨rfl, rfl⟩, rfl⟩
    rw [if_pos rfl]
    exact hfound
  · intro h
    split at h
    · next howner => exact ⟨input, index, h, ⟨howner.symm, rfl⟩, rfl⟩
    · cases h

/-- What the output of a task stands for in the scope of a DAG. -/
theorem Targeted.denotes_output (h : dag.Targeted registry targeted) {task : String}
    {reference : Reference} :
    (dag.scope targeted).Denotes (.output task name) reference ↔
      ∃ spec, dag.HasOutput registry task name spec ∧
        reference = .output (paramName task) (paramName name) spec.kind.artifact? := by
  constructor
  · intro hdenotes
    cases hdenotes with
    | @output _ _ target spec htask hspec =>
        exact ⟨spec, ⟨target, h.task?_eq_some.mp htask, hspec⟩, rfl⟩
  · rintro ⟨spec, ⟨target, hruns, hspec⟩, rfl⟩
    exact .output (h.task?_eq_some.mpr hruns) hspec

/-! ## Graphs -/

/-- The tasks of a DAG, with their targets and as they are resolved. -/
structure ResolvesTasks (dag : Dag) (registry : Registry) (policy : NeedsPolicy)
    (targeted : List TargetedTask) (tasks : List GraphTask) : Prop where
  lookup : dag.Targeted registry targeted
  tasks : List.Forall₂ (fun entry task => entry.Resolves (dag.scope targeted) policy
    dag.definition.package task) targeted tasks

/-- A DAG, its tasks with their targets, and the graph that it is resolved to. -/
structure Resolves (dag : Dag) (registry : Registry) (policy : NeedsPolicy)
    (targeted : List TargetedTask) (graph : Graph) : Prop
    extends dag.ResolvesTasks registry policy targeted graph.tasks where
  name : graph.name = dag.definition.name
  package : graph.package = dag.definition.package
  inputs : graph.inputs = dag.definition.inputs
  outputs : List.Forall₂ (fun output resolved => output.Resolves (dag.scope targeted) resolved)
    dag.outputs graph.outputs
  ordered : ∃ order, graph.executionOrder = .ok order
  annotations : graph.annotations = if dag.grouped then groupAnnotations graph.tasks else []

variable {policy : NeedsPolicy} {tasks : List GraphTask}

theorem ResolvesTasks.exists_resolved (h : dag.ResolvesTasks registry policy targeted tasks)
    {task : TaskDeclaration} (htask : task ∈ dag.tasks) :
    ∃ entry ∈ targeted, ∃ resolved ∈ tasks, entry.Targets registry task ∧
      entry.Resolves (dag.scope targeted) policy dag.definition.package resolved := by
  obtain ⟨entry, hentry, htargets⟩ := exists_of_forall₂_mem h.lookup.targets task htask
  obtain ⟨resolved, hresolved, hresolves⟩ := exists_of_forall₂_mem h.tasks entry hentry
  exact ⟨entry, hentry, resolved, hresolved, htargets, hresolves⟩

theorem ResolvesTasks.exists_declared (h : dag.ResolvesTasks registry policy targeted tasks)
    {resolved : GraphTask} (hresolved : resolved ∈ tasks) :
    ∃ entry ∈ targeted, ∃ task ∈ dag.tasks, entry.Targets registry task ∧
      entry.Resolves (dag.scope targeted) policy dag.definition.package resolved := by
  obtain ⟨entry, hentry, hresolves⟩ := exists_of_mem_forall₂ h.tasks resolved hresolved
  obtain ⟨task, htask, htargets⟩ := exists_of_mem_forall₂ h.lookup.targets entry hentry
  exact ⟨entry, hentry, task, htask, htargets, hresolves⟩

theorem ResolvesTasks.names_eq (h : dag.ResolvesTasks registry policy targeted tasks) :
    tasks.map (·.name) = dag.taskNames := by
  have hdeclared : targeted.map (·.task.name) = dag.taskNames :=
    map_eq_of_forall₂ (fun task entry htargets => by rw [htargets.declaration]) h.lookup.targets
  rw [← hdeclared]
  exact map_eq_of_forall₂ (fun entry task hresolves => hresolves.name) h.tasks

/-- **A DAG is resolved exactly if each part of it is and the graph can be put into an order.** -/
theorem resolve_eq_ok {graph : Graph} :
    dag.resolve registry policy = .ok graph ↔
      ∃ targeted, dag.Resolves registry policy targeted graph := by
  simp only [resolve, bind_eq_ok, pure_eq_ok, targetedTasks_eq_ok_iff, mapM_eq_ok,
    TargetedTask.resolve_eq_ok, DagOutput.resolve_eq_ok, discard_eq_ok]
  constructor
  · rintro ⟨targeted, htargeted, tasks, htasks, outputs, houtputs, -, hordered, rfl⟩
    exact
      ⟨targeted,
        { lookup := htargeted
          tasks := htasks
          name := rfl
          package := rfl
          inputs := rfl
          outputs := houtputs
          ordered := hordered
          annotations := rfl }⟩
  · rintro ⟨targeted, h⟩
    refine ⟨targeted, h.lookup, graph.tasks, h.tasks, graph.outputs, h.outputs, (), h.ordered, ?_⟩
    obtain ⟨-, hname, hpackage, hinputs, -, -, hannotations⟩ := h
    cases graph
    simp only at hname hpackage hinputs hannotations
    simp only [hname, hpackage, hinputs, hannotations]

/-- A graph is built exactly if it is resolved and has no faults. -/
theorem build_eq_ok {graph : Graph} :
    dag.build registry policy = .ok graph ↔
      dag.resolve registry policy = .ok graph ∧ graph.faults dag.grouped = [] := by
  rw [build, bind_eq_ok]
  constructor
  · rintro ⟨found, hfound, h⟩
    split at h
    · next hfaults =>
        rw [pure_eq_ok] at h
        subst h
        exact ⟨hfound, hfaults⟩
    · exact (throw_ne_ok.mp h).elim
  · rintro ⟨hresolve, hfaults⟩
    refine ⟨graph, hresolve, ?_⟩
    rw [hfaults]
    rfl

end Dag

end Recipe
