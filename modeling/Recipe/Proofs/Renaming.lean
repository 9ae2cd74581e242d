import Recipe.Proofs.Build.Exchange
import Recipe.Proofs.Collection

/-!
# DAGs declared again

A DAG that is declared once more has another identity, and so have the handles to its inputs.
Nothing else depends on identities: the graph of the new DAG is that of the old one, and a
registry with DAGs that were declared again compiles to the same pipelines.
-/

set_option autoImplicit false

namespace Recipe

/-! ## Renaming -/

/-- The handle of the draft that has another identity. -/
def InputHandle.rename (f : Nat → Nat) (handle : InputHandle) : InputHandle :=
  { handle with owner := f handle.owner }

def Argument.rename (f : Nat → Nat) : Argument → Argument
  | .input handle => .input (handle.rename f)
  | other => other

def TaskDeclaration.rename (f : Nat → Nat) (task : TaskDeclaration) : TaskDeclaration :=
  { task with
    arguments := task.arguments.map fun argument => (argument.1, argument.2.rename f)
    loop := task.loop.map (·.rename f) }

/-- The DAG with its identity and all handles renamed. -/
def Dag.rename (f : Nat → Nat) (dag : Dag) : Dag :=
  { dag with
    id := f dag.id
    tasks := dag.tasks.map (·.rename f) }

/-- A renaming keeps the handles of a DAG apart from all others. -/
def Dag.Keeps (dag : Dag) (f : Nat → Nat) : Prop := ∀ owner, f owner = f dag.id → owner = dag.id

/-! ## Arguments -/

/-- A scope has under renamed handles what another has under the handles. -/
structure Scope.Renames (renamed scope : Scope) (f : Nat → Nat) : Prop where
  graph : renamed.graph = scope.graph
  tasks : renamed.tasks = scope.tasks
  input : ∀ handle, renamed.input? (handle.rename f) = scope.input? handle

theorem Scope.resolve_rename {f : Nat → Nat} {renamed scope : Scope} (h : renamed.Renames scope f)
    (argument : Argument) (site : Site) :
    renamed.resolve (argument.rename f) site = scope.resolve argument site := by
  cases argument with
  | literal value => rfl
  | input handle =>
      rw [Argument.rename, resolve, resolve, h.input, h.graph]
  | output task name =>
      show renamed.output task name site = scope.output task name site
      rw [output, output, task?, task?, h.tasks, h.graph]
  | item field => rfl

/-! ## DAGs -/

/-- Two registries have the same definitions. -/
def Registry.SameDefinitions (other registry : Registry) : Prop :=
  ∀ key, other.definition key = registry.definition key

namespace Dag

variable {dag : Dag} {f : Nat → Nat}

theorem inputOf?_rename (hf : dag.Keeps f) (handle : InputHandle) :
    (dag.rename f).inputOf? (handle.rename f) = dag.inputOf? handle := by
  unfold inputOf?
  show (if f handle.owner = f dag.id then _ else _) = _
  -- a handle of another draft must not become one of this DAG, for it would stop being a fault
  by_cases howner : handle.owner = dag.id
  · rw [if_pos howner, if_pos (congrArg f howner)]
    rfl
  · rw [if_neg howner, if_neg fun heq => howner (hf handle.owner heq)]

theorem scope_rename (hf : dag.Keeps f) (targeted : List TargetedTask) :
    ((dag.rename f).scope targeted).Renames (dag.scope targeted) f where
  graph := rfl
  tasks := rfl
  input := by
    intro handle
    rw [scope_input?, scope_input?, inputOf?_rename hf]

theorem exchangesAlike_rename (hf : dag.Keeps f) :
    dag.ExchangesAlike f (Argument.rename f) := by
  intro targeted argument site
  exact Scope.resolve_rename (scope_rename hf targeted) argument site

/-- **A DAG that was declared again has the same graph**, or the same fault. -/
theorem build_rename {other registry : Registry} (h : other.SameDefinitions registry)
    (hf : dag.Keeps f) (policy : NeedsPolicy) :
    (dag.rename f).build other policy = dag.build registry policy :=
  build_exchange h (exchangesAlike_rename hf) policy

theorem rename_self (dag : Dag) : dag.rename (fun owner => owner) = dag := by
  have hargument : ∀ argument : Argument, argument.rename (fun owner => owner) = argument := by
    intro argument
    cases argument <;> rfl
  have htask : ∀ task : TaskDeclaration, task.rename (fun owner => owner) = task := by
    intro task
    simp [TaskDeclaration.rename, hargument]
  simp [rename, htask]

theorem build_congr {other registry : Registry} (h : other.SameDefinitions registry)
    (policy : NeedsPolicy) : dag.build other policy = dag.build registry policy := by
  have hkeeps : dag.Keeps fun owner => owner := fun _ heq => heq
  have hrename := build_rename h hkeeps policy
  rwa [rename_self] at hrename

end Dag

/-! ## Drafts -/

namespace Dag

variable {dag : Dag}

/-- The renaming that gives a DAG a new identity, and no other draft that one. -/
def newOwner (dag : Dag) (id owner : Nat) : Nat := if owner = dag.id then id else id + 1

theorem keeps_newOwner (dag : Dag) (id : Nat) : dag.Keeps (dag.newOwner id) := by
  intro owner heq
  rw [newOwner, newOwner, if_pos rfl] at heq
  by_contra hother
  rw [if_neg hother] at heq
  omega

/-- The draft of a DAG, made once more under a new identity. -/
def redraft (dag : Dag) (id : Nat) : DagDraft where
  id := id
  name := dag.definition.name
  package := dag.definition.package
  description := dag.definition.description
  inputs := dag.definition.inputs
  tasks := dag.tasks.map (·.rename (dag.newOwner id))
  outputs := dag.outputs
  grouped := dag.grouped

theorem build_redraft (hbuilt : ∃ draft : DagDraft, draft.build = .ok dag) (id : Nat) :
    (dag.redraft id).build = .ok (dag.rename (dag.newOwner id)) := by
  obtain ⟨draft, hbuild⟩ := hbuilt
  simp only [DagDraft.build, bind_eq_ok, pure_eq_ok] at hbuild ⊢
  obtain ⟨valid, hvalid, rfl⟩ := hbuild
  refine ⟨valid, hvalid, ?_⟩
  simp only [rename, newOwner, if_pos]
  rfl

end Dag

/-! ## Registries -/

/-- The same function, or a DAG that was declared again. -/
inductive Template.Redeclares : Template → Template → Prop
  | function (run : Function) : Redeclares (.function run) (.function run)
  | dag {dag : Dag} {f : Nat → Nat} (hf : dag.Keeps f) : Redeclares (.dag (dag.rename f)) (.dag dag)

theorem Template.Redeclares.definition_eq {other template : Template}
    (h : other.Redeclares template) : other.definition = template.definition := by
  cases h <;> rfl

namespace Registry

/-- A registry holds the same templates in the same order, with its DAGs declared again. -/
def Redeclares (other registry : Registry) : Prop :=
  List.Forall₂ Template.Redeclares other.templates registry.templates

variable {other registry : Registry}

/-- Under each key there is nothing, or the same template again. -/
theorem Redeclares.find? (h : other.Redeclares registry) (key : TemplateKey) :
    Option.Rel Template.Redeclares (other.find? key) (registry.find? key) := by
  unfold Registry.find?
  unfold Redeclares at h
  generalize other.templates = others at h ⊢
  generalize registry.templates = templates at h ⊢
  induction h with
  | nil => exact Option.Rel.none
  | @cons first second _ _ hfirst _ ih =>
      have hkey : first.key = second.key := by
        rw [Template.key, Template.key, hfirst.definition_eq]
      rw [List.find?_cons, List.find?_cons, hkey]
      by_cases hsecond : second.key = key
      · simpa [hsecond] using Option.Rel.some hfirst
      · simpa [hsecond] using ih

theorem Redeclares.sameDefinitions (h : other.Redeclares registry) :
    other.SameDefinitions registry := by
  intro key
  have hfind := h.find? key
  unfold Registry.definition Registry.get
  generalize other.find? key = found at hfind ⊢
  generalize registry.find? key = template at hfind ⊢
  cases hfind with
  | none => rfl
  | some hsame => exact congrArg Except.ok hsame.definition_eq

/-- Under each key there is the same fault, or the same DAG again. -/
theorem Redeclares.dag_cases (h : other.Redeclares registry) (key : TemplateKey) :
    (∃ fault, other.dag key = .error fault ∧ registry.dag key = .error fault) ∨
      ∃ dag f, dag.Keeps f ∧ other.dag key = .ok (dag.rename f) ∧ registry.dag key = .ok dag := by
  have hfind := h.find? key
  unfold Registry.dag Registry.get
  generalize other.find? key = found at hfind ⊢
  generalize registry.find? key = template at hfind ⊢
  cases hfind with
  | none => exact Or.inl ⟨_, rfl, rfl⟩
  | some hsame =>
      cases hsame with
      | function run => exact Or.inl ⟨_, rfl, rfl⟩
      | dag hf => exact Or.inr ⟨_, _, hf, rfl, rfl⟩

/-! ## Pipelines -/

variable {policy : NeedsPolicy}

theorem Redeclares.collectTasks_eq (h : other.Redeclares registry) (stack : List TemplateKey)
    (package : PackageId) (tasks : List GraphTask) (manifest : Manifest) :
    collectTasks other (fun dag => dag.build other policy) stack package tasks manifest =
      collectTasks registry (fun dag => dag.build registry policy) stack package tasks
        manifest := by
  fun_induction collectTasks registry (fun dag => dag.build registry policy) stack package tasks
    manifest with
  | case1 => rw [collectTasks]
  | case2 stack package manifest task rest hroute ih =>
      rw [collectTasks, hroute]
      exact ih
  | case3 stack package manifest task rest hroute ih =>
      rw [collectTasks, hroute]
      exact ih
  | case4 stack package manifest task rest hroute key hstack =>
      exact collectTasks_cycle hroute hstack
  | case5 stack package manifest task rest hroute key hstack hhas =>
      rename_i ih
      rw [collectTasks_known hroute hstack hhas]
      exact ih
  | case6 stack package manifest task rest hroute key hstack hhas fault hdag =>
      rcases h.dag_cases task.target.key with ⟨found, hother, hfound⟩ | ⟨dag, f, -, -, hfound⟩
      · obtain rfl := Except.error.inj (hfound.symm.trans hdag)
        exact collectTasks_fault hroute hstack hhas hother
      · cases hfound.symm.trans hdag
  | case7 stack package manifest task rest hroute key hstack hhas dag hdag _ ihinner =>
      rename_i ihrest
      -- the DAG is found again under another identity, and its graph is the same
      rcases h.dag_cases task.target.key with ⟨fault, -, hfound⟩ | ⟨found, f, hf, hother, hfound⟩
      · cases hfound.symm.trans hdag
      · obtain rfl := Except.ok.inj (hfound.symm.trans hdag)
        rw [collectTasks_nested hroute hstack hhas hother,
          Dag.build_rename h.sameDefinitions hf]
        refine bind_congr fun nested => ?_
        exact (congrArg (· >>= _) (ihinner nested)).trans (bind_congr ihrest)

/-- **A registry whose DAGs were declared again compiles to the same pipelines**, or fails alike. -/
theorem Redeclares.compile_eq (h : other.Redeclares registry) (options : Options)
    (provider : MetadataProvider) (entry : TemplateKey) (metadata : Option PackageMetadata) :
    compile other options provider entry metadata =
      compile registry options provider entry metadata := by
  simp only [compile, compileWith, ofExcept_eq]
  refine bind_congr fun _ => ?_
  rcases h.dag_cases entry with ⟨fault, hother, hfound⟩ | ⟨dag, f, hf, hother, hfound⟩
  · rw [hother, hfound]
    rfl
  · rw [hother, hfound]
    show ((dag.rename f).build other options.needsPolicy >>= _) =
      (dag.build registry options.needsPolicy >>= _)
    rw [Dag.build_rename h.sameDefinitions hf]
    refine bind_congr fun graph => ?_
    exact congrArg (· >>= _) (h.collectTasks_eq _ _ _ _)

end Registry

end Recipe
