import Recipe.Proofs.Outcome
import Recipe.Proofs.Trimming
import Recipe.Registry

/-!
# Building templates

A template is built from a draft, on which inputs, outputs and all else were declared by one call
after the other. The checks pass exactly on drafts that declare no name twice and nothing that is
invalid, and of functions on those that have a body, an output and all paths
(`FunctionDraft.build_eq_ok`, `DagDraft.build_eq_ok`). So every template that was built is well made
(`Template.Built.wellMade`).
-/

set_option autoImplicit false

namespace Recipe

/-! ## Declarations -/

/-- What can be said of an input beside its name and kind. -/
inductive InputDetail
  | default (value : Json)
  | optional
  | description (text : String)
  | path (path : String)
  | note (name : String) (value : Json)
  | schema (schema : Json)
  | extensions (extensions : List String)
  | items (kind : Kind)
  | entry (entry : Alias)

/-- The input with one more detail. -/
def Input.complete (input : Input) : InputDetail → Input
  | .default value => input.withDefault value
  | .optional => input.optional
  | .description text => { input with description := some text }
  | .path path => input.withPath path
  | .note name value => input.withAnnotation name value
  | .schema schema => { input with schema := some schema }
  | .extensions extensions => input.withExtensions extensions
  | .items kind => { input with items := some kind }
  | .entry entry => { input with aliases := input.aliases ++ [entry] }

/-- An input as it is declared: a name in any spelling, a kind, and details. -/
structure InputDeclaration where
  name : String
  kind : Kind
  details : List InputDetail := []

def InputDeclaration.input (declaration : InputDeclaration) : Input :=
  declaration.details.foldl Input.complete (.make declaration.name declaration.kind)

/-- What can be said of an output beside its name and kind. -/
inductive OutputDetail
  | optional
  | description (text : String)
  | path (path : String)
  | note (name : String) (value : Json)
  | items (kind : Kind)
  | entry (entry : Alias)

def Output.complete (output : Output) : OutputDetail → Output
  | .optional => output.optional
  | .description text => { output with description := some text }
  | .path path => output.withPath path
  | .note name value => output.withAnnotation name value
  | .items kind => { output with items := some kind }
  | .entry entry => { output with aliases := output.aliases ++ [entry] }

/-- An output as it is declared: a name in any spelling, a kind, and details. -/
structure OutputDeclaration where
  name : String
  kind : Kind
  details : List OutputDetail := []

def OutputDeclaration.output (declaration : OutputDeclaration) : Output :=
  declaration.details.foldl Output.complete (.make declaration.name declaration.kind)

/-- A name that is its own canonical name. -/
def IsCanonical (name : String) : Prop := paramName name = name

theorem isCanonical_paramName (name : String) : IsCanonical (paramName name) :=
  paramName_paramName name

/-- What no detail changes is as the input was made. -/
theorem InputDeclaration.input_keeps {α : Type} (field : Input → α)
    (hdetail : ∀ (input : Input) (detail : InputDetail),
      field (input.complete detail) = field input) (declaration : InputDeclaration) :
    field declaration.input = field (.make declaration.name declaration.kind) :=
  List.foldlRecOn declaration.details Input.complete
    (motive := fun input => field input = field (.make declaration.name declaration.kind)) rfl
    fun input h detail _ => (hdetail input detail).trans h

/-- **An input is declared under the canonical name**, whatever is said of it then. -/
theorem InputDeclaration.name_input (declaration : InputDeclaration) :
    declaration.input.name = paramName declaration.name := by
  refine declaration.input_keeps Input.name ?_
  intro input detail
  cases detail <;> rfl

/-- **An input has the kind it is declared with**, whatever is said of it then. -/
theorem InputDeclaration.kind_input (declaration : InputDeclaration) :
    declaration.input.kind = declaration.kind := by
  refine declaration.input_keeps Input.kind ?_
  intro input detail
  cases detail <;> rfl

/-- **An output is declared under the canonical name**, whatever is said of it then. -/
theorem OutputDeclaration.name_output (declaration : OutputDeclaration) :
    declaration.output.name = paramName declaration.name := by
  have hdetail : ∀ (output : Output) (detail : OutputDetail),
      (output.complete detail).name = output.name := by
    intro output detail
    cases detail <;> rfl
  have hinitial : (Output.make declaration.name declaration.kind).name =
      paramName declaration.name := rfl
  exact List.foldlRecOn declaration.details Output.complete
    (motive := fun output => output.name = paramName declaration.name) hinitial
    fun output h detail _ => (hdetail output detail).trans h

/-! ## Drafts -/

/-- A call on the draft of a function. -/
inductive FunctionCall
  | description (text : String)
  | input (declaration : InputDeclaration)
  | output (declaration : OutputDeclaration)
  | command (text : String)
  | script (text : String)

def FunctionDraft.call (draft : FunctionDraft) : FunctionCall → FunctionDraft
  | .description text => { draft with description := some text }
  | .input declaration => { draft with inputs := draft.inputs ++ [declaration.input] }
  | .output declaration => { draft with outputs := draft.outputs ++ [declaration.output] }
  | .command text => { draft with command := some text }
  | .script text => { draft with script := some text }

/-- A call on the draft of a DAG. -/
inductive DagCall
  | description (text : String)
  | input (declaration : InputDeclaration)
  | task (task : TaskDeclaration)
  | output (declaration : OutputDeclaration) (source : OutputSource)
  | grouped

def DagDraft.call (draft : DagDraft) : DagCall → DagDraft
  | .description text => { draft with description := some text }
  | .input declaration => (draft.declare declaration.input).2
  | .task task => { draft with tasks := draft.tasks ++ [task] }
  | .output declaration source =>
      { draft with outputs := draft.outputs ++ [{ spec := declaration.output, source }] }
  | .grouped => { draft with grouped := true }

def FunctionDraft.ofCalls (name : String) (package : PackageId) (calls : List FunctionCall) :
    FunctionDraft :=
  calls.foldl FunctionDraft.call (.make name package)

def DagDraft.ofCalls (id : Nat) (name : String) (package : PackageId) (calls : List DagCall) :
    DagDraft :=
  calls.foldl DagDraft.call (.make id name package)

theorem FunctionDraft.ofCalls_keeps {α : Type} (field : FunctionDraft → α)
    (hcall : ∀ (draft : FunctionDraft) (call : FunctionCall), field (draft.call call) = field draft)
    (name : String) (package : PackageId) (calls : List FunctionCall) :
    field (ofCalls name package calls) = field (make name package) :=
  List.foldlRecOn calls call (motive := fun draft => field draft = field (make name package)) rfl
    fun draft h call _ => (hcall draft call).trans h

theorem DagDraft.ofCalls_keeps {α : Type} (field : DagDraft → α)
    (hcall : ∀ (draft : DagDraft) (call : DagCall), field (draft.call call) = field draft)
    (id : Nat) (name : String) (package : PackageId) (calls : List DagCall) :
    field (ofCalls id name package calls) = field (make id name package) :=
  List.foldlRecOn calls call (motive := fun draft => field draft = field (make id name package)) rfl
    fun draft h call _ => (hcall draft call).trans h

theorem DagDraft.id_call (draft : DagDraft) (call : DagCall) : (draft.call call).id = draft.id := by
  cases call <;> rfl

/-! ## Checks -/

namespace Definition

/-- What is declared has one name each, and all of it is valid. -/
structure WellDeclared (definition : Definition) : Prop where
  inputs_distinct : (definition.inputs.map Input.name).Nodup
  inputs_valid : ∀ input ∈ definition.inputs, input.validate = .ok ()
  outputs_distinct : (definition.outputs.map Output.name).Nodup
  outputs_valid : ∀ output ∈ definition.outputs, output.validate = .ok ()

theorem checkEach_eq_ok {α : Type} {template : String} {nameOf : α → String}
    {check : α → Except Error Unit} {seen : List String} {xs : List α} :
    checkEach template nameOf check seen xs = .ok () ↔
      (xs.map nameOf).Nodup ∧ (∀ x ∈ xs, nameOf x ∉ seen) ∧ ∀ x ∈ xs, check x = .ok () := by
  induction xs generalizing seen with
  | nil => simp [checkEach, pure_eq_ok]
  | cons x rest ih =>
      rw [checkEach, check_eq_ok, bind_eq_ok, List.forall_mem_cons, List.forall_mem_cons,
        List.map_cons, List.nodup_cons]
      simp only [ih, List.mem_cons, not_or]
      constructor
      · rintro ⟨hx, _, hcheck, hrest, hseen, hvalid⟩
        refine ⟨⟨?_, hrest⟩, ⟨hx, fun y hy => (hseen y hy).2⟩, hcheck, hvalid⟩
        intro hmem
        obtain ⟨y, hy, hname⟩ := List.mem_map.mp hmem
        exact (hseen y hy).1 hname
      · rintro ⟨⟨hnew, hrest⟩, ⟨hx, hseen⟩, hcheck, hvalid⟩
        refine ⟨hx, (), hcheck, hrest, fun y hy => ⟨?_, hseen y hy⟩, hvalid⟩
        intro hname
        exact hnew (hname ▸ List.mem_map_of_mem hy)

/-- **The check of a definition passes exactly if it is well declared.** -/
theorem validate_eq_ok {definition : Definition} :
    definition.validate = .ok () ↔ definition.WellDeclared := by
  have hnew : ∀ {α : Type} (nameOf : α → String) (xs : List α), ∀ x ∈ xs, nameOf x ∉ [] :=
    fun _ _ _ _ => List.not_mem_nil
  rw [validate, bind_eq_ok]
  constructor
  · rintro ⟨⟨⟩, hinputs, houtputs⟩
    obtain ⟨hdistinct, -, hvalid⟩ := checkEach_eq_ok.mp hinputs
    obtain ⟨hdistinct', -, hvalid'⟩ := checkEach_eq_ok.mp houtputs
    exact ⟨hdistinct, hvalid, hdistinct', hvalid'⟩
  · intro h
    exact ⟨(), checkEach_eq_ok.mpr ⟨h.inputs_distinct, hnew _ _, h.inputs_valid⟩,
      checkEach_eq_ok.mpr ⟨h.outputs_distinct, hnew _ _, h.outputs_valid⟩⟩

end Definition

namespace FunctionDraft

/-- The draft has a command or a script, but not both; placeholders are renamed in either. -/
inductive Runs (draft : FunctionDraft) : FunctionBody → Prop
  | command (text : String) (hcommand : draft.command = some text) (hscript : draft.script = none) :
      Runs draft (.command (renamePlaceholders (Text.trim text)))
  | script (text : String) (hcommand : draft.command = none) (hscript : draft.script = some text) :
      Runs draft (.script (renamePlaceholders text))

/-- There are outputs, and all that is exchanged with the folder of the function has a path there. -/
structure HasPaths (inputs : List Input) (outputs : List Output) : Prop where
  nonempty : outputs ≠ []
  inputs : ∀ input ∈ inputs, input.isArtifact = true → input.path ≠ none
  outputs : ∀ output ∈ outputs, output.path ≠ none

variable {draft : FunctionDraft}

theorem body_eq_ok {body : FunctionBody} : draft.body = .ok body ↔ draft.Runs body := by
  constructor
  · intro h
    unfold FunctionDraft.body at h
    split at h
    · next text hcommand hscript =>
        rw [← pure_eq_ok.mp h]
        exact .command text hcommand hscript
    · next text hcommand hscript =>
        rw [← pure_eq_ok.mp h]
        exact .script text hcommand hscript
    · exact (throw_ne_ok.mp h).elim
    · exact (throw_ne_ok.mp h).elim
  · intro h
    cases h with
    | command text hcommand hscript => simp [FunctionDraft.body, hcommand, hscript, pure_eq_ok]
    | script text hcommand hscript => simp [FunctionDraft.body, hcommand, hscript, pure_eq_ok]

theorem checkPaths_eq_ok : draft.checkPaths = .ok () ↔ HasPaths draft.inputs draft.outputs := by
  have hinputs : (draft.inputs.find? fun input => input.isArtifact && input.path.isNone) = none ↔
      ∀ input ∈ draft.inputs, input.isArtifact = true → input.path ≠ none := by
    simp
  have houtputs : (draft.outputs.find? (·.path.isNone)) = none ↔
      ∀ output ∈ draft.outputs, output.path ≠ none := by
    simp
  unfold checkPaths
  rw [check_eq_ok]
  constructor
  · rintro ⟨hempty, h⟩
    cases hinput : draft.inputs.find? fun input => input.isArtifact && input.path.isNone with
    | some input =>
        simp only [hinput, bind_eq_ok, throw_ne_ok, false_and, exists_false] at h
    | none =>
        cases houtput : draft.outputs.find? (·.path.isNone) with
        | some output => simp only [hinput, houtput, throw_ne_ok] at h
        | none => exact ⟨by simpa using hempty, hinputs.mp hinput, houtputs.mp houtput⟩
  · intro h
    refine ⟨by simpa using h.nonempty, ?_⟩
    rw [hinputs.mpr h.inputs, houtputs.mpr h.outputs]
    rfl

/-- **A function is built exactly from a draft that has one body, all paths and is well declared.** -/
theorem build_eq_ok {function : Function} :
    draft.build = .ok function ↔
      draft.Runs function.body ∧ HasPaths draft.inputs draft.outputs ∧
        draft.definition.WellDeclared ∧ function.definition = draft.definition := by
  simp only [build, bind_eq_ok, body_eq_ok, pure_eq_ok]
  constructor
  · rintro ⟨body, hbody, _, hpaths, _, hvalid, rfl⟩
    exact ⟨hbody, checkPaths_eq_ok.mp hpaths, Definition.validate_eq_ok.mp hvalid, rfl⟩
  · rintro ⟨hbody, hpaths, hvalid, hdefinition⟩
    refine ⟨function.body, hbody, (), checkPaths_eq_ok.mpr hpaths, (),
      Definition.validate_eq_ok.mpr hvalid, ?_⟩
    rw [← hdefinition]

end FunctionDraft

/-- **A DAG is built exactly from a draft that is well declared.** -/
theorem DagDraft.build_eq_ok {draft : DagDraft} {dag : Dag} :
    draft.build = .ok dag ↔ draft.definition.WellDeclared ∧
      { id := draft.id, definition := draft.definition, tasks := draft.tasks,
        outputs := draft.outputs, grouped := draft.grouped } = dag := by
  simp only [build, bind_eq_ok, pure_eq_ok]
  constructor
  · rintro ⟨_, hvalid, hdag⟩
    exact ⟨Definition.validate_eq_ok.mp hvalid, hdag⟩
  · rintro ⟨hvalid, hdag⟩
    exact ⟨(), Definition.validate_eq_ok.mpr hvalid, hdag⟩

/-! ## Canonical names -/

/-- All inputs and outputs have canonical names. -/
structure Definition.NamesCanonical (definition : Definition) : Prop where
  inputs : ∀ input ∈ definition.inputs, IsCanonical input.name
  outputs : ∀ output ∈ definition.outputs, IsCanonical output.name

theorem Definition.NamesCanonical.append {definition larger : Definition}
    (h : definition.NamesCanonical) (inputs : List InputDeclaration)
    (outputs : List OutputDeclaration)
    (hinputs : larger.inputs = definition.inputs ++ inputs.map InputDeclaration.input)
    (houtputs : larger.outputs = definition.outputs ++ outputs.map OutputDeclaration.output) :
    larger.NamesCanonical := by
  constructor
  · intro input hinput
    rw [hinputs] at hinput
    rcases List.mem_append.mp hinput with hinput | hinput
    · exact h.inputs input hinput
    · obtain ⟨declaration, -, rfl⟩ := List.mem_map.mp hinput
      rw [declaration.name_input]
      exact isCanonical_paramName _
  · intro output houtput
    rw [houtputs] at houtput
    rcases List.mem_append.mp houtput with houtput | houtput
    · exact h.outputs output houtput
    · obtain ⟨declaration, -, rfl⟩ := List.mem_map.mp houtput
      rw [declaration.name_output]
      exact isCanonical_paramName _

theorem FunctionDraft.namesCanonical_ofCalls (name : String) (package : PackageId)
    (calls : List FunctionCall) : (ofCalls name package calls).definition.NamesCanonical := by
  have hstep : ∀ (draft : FunctionDraft) (call : FunctionCall), draft.definition.NamesCanonical →
      (draft.call call).definition.NamesCanonical := by
    intro draft call h
    cases call with
    | input declaration =>
        exact h.append [declaration] [] rfl (List.append_nil _).symm
    | output declaration =>
        exact h.append [] [declaration] (List.append_nil _).symm rfl
    | description _ => exact ⟨h.inputs, h.outputs⟩
    | command _ => exact ⟨h.inputs, h.outputs⟩
    | script _ => exact ⟨h.inputs, h.outputs⟩
  have hinitial : (FunctionDraft.make name package).definition.NamesCanonical :=
    ⟨fun _ hmem => (List.not_mem_nil hmem).elim, fun _ hmem => (List.not_mem_nil hmem).elim⟩
  exact List.foldlRecOn calls FunctionDraft.call hinitial fun draft h call _ => hstep draft call h

theorem DagDraft.namesCanonical_ofCalls (id : Nat) (name : String) (package : PackageId)
    (calls : List DagCall) : (ofCalls id name package calls).definition.NamesCanonical := by
  have hstep : ∀ (draft : DagDraft) (call : DagCall), draft.definition.NamesCanonical →
      (draft.call call).definition.NamesCanonical := by
    intro draft call h
    cases call with
    | input declaration =>
        exact h.append [declaration] [] rfl (List.append_nil _).symm
    | output declaration source =>
        refine h.append [] [declaration] (List.append_nil _).symm ?_
        simp [DagDraft.call, DagDraft.definition]
    | description _ => exact ⟨h.inputs, h.outputs⟩
    | task _ => exact ⟨h.inputs, h.outputs⟩
    | grouped => exact ⟨h.inputs, h.outputs⟩
  have hinitial : (DagDraft.make id name package).definition.NamesCanonical :=
    ⟨fun _ hmem => (List.not_mem_nil hmem).elim, fun _ hmem => (List.not_mem_nil hmem).elim⟩
  exact List.foldlRecOn calls DagDraft.call hinitial fun draft h call _ => hstep draft call h

/-! ## Templates -/

/-- The template was built from a draft, after some calls. -/
inductive Template.Built : Template → Prop
  | function {name : String} {package : PackageId} {calls : List FunctionCall} {run : Function}
      (h : (FunctionDraft.ofCalls name package calls).build = .ok run) : Built (.function run)
  | dag {id : Nat} {name : String} {package : PackageId} {calls : List DagCall} {dag : Dag}
      (h : (DagDraft.ofCalls id name package calls).build = .ok dag) : Built (.dag dag)

/-- The inputs and outputs of a template have canonical names, no two of either the same, and are
valid. A function has an output and all paths, and what it runs is the one of command and script
that it was declared with. -/
structure Template.WellMade (template : Template) : Prop where
  declared : template.definition.WellDeclared
  canonical : template.definition.NamesCanonical
  function : ∀ run, template = .function run →
    FunctionDraft.HasPaths run.definition.inputs run.definition.outputs ∧
      ∃ name package calls, (FunctionDraft.ofCalls name package calls).build = .ok run ∧
        (FunctionDraft.ofCalls name package calls).Runs run.body

/-- **Every template that was built is well made.** -/
theorem Template.Built.wellMade {template : Template} (h : template.Built) : template.WellMade := by
  cases h with
  | @function name package calls run hbuild =>
      obtain ⟨hruns, hpaths, hdeclared, hdefinition⟩ := FunctionDraft.build_eq_ok.mp hbuild
      have hcanonical := FunctionDraft.namesCanonical_ofCalls name package calls
      rw [← hdefinition] at hdeclared hcanonical
      refine ⟨hdeclared, hcanonical, ?_⟩
      rintro _ ⟨rfl⟩
      refine ⟨?_, name, package, calls, hbuild, hruns⟩
      rw [hdefinition]
      exact hpaths
  | @dag id name package calls dag hbuild =>
      obtain ⟨hdeclared, rfl⟩ := DagDraft.build_eq_ok.mp hbuild
      refine ⟨hdeclared, DagDraft.namesCanonical_ofCalls id name package calls, ?_⟩
      intro run hrun
      cases hrun

end Recipe
