import Recipe.Proofs.Building
import Recipe.Proofs.Registration

/-!
# Building and registering

Functions and DAGs are built and then registered, in any order and with any outcome, under the names
of any registries. What a registry has is what was accepted, in that order and each template under
its own key, and it keeps what it has (`enrolment_kept`). A step is one request (`Sound.perform`),
and a run is any number of them (`sound_after`).
-/

set_option autoImplicit false

namespace Recipe

namespace Enrolment

/-! ## Requests -/

/-- A workspace with all templates that were built in it, be they registered or not. -/
structure State where
  workspace : Workspace := {}
  templates : List Template := []

/-- What can be asked for: to build a function or a DAG from a draft, or to register a template,
which goes by its place in the order in which templates were built. -/
inductive Request
  | buildFunction (name : String) (package : PackageId) (calls : List FunctionCall)
  | buildDag (name : String) (package : PackageId) (calls : List DagCall)
  | register (registry : String) (place : Nat)

/-- What comes of a request. A template that there is not is not registered. -/
inductive Outcome
  | built (template : Template)
  | registered (registry : String) (template : Template)
  | failed (fault : Error)
  | absent

/-- The outcome of a request, and the state after it. -/
def Request.perform (request : Request) (state : State) : Outcome × State :=
  match request with
  | .buildFunction name package calls =>
      match (FunctionDraft.ofCalls name package calls).build with
      | .ok run =>
          (.built (.function run), { state with templates := state.templates ++ [.function run] })
      | .error fault => (.failed fault, state)
  | .buildDag name package calls =>
      let (id, workspace) := state.workspace.freshId
      match (DagDraft.ofCalls id name package calls).build with
      | .ok dag => (.built (.dag dag), { workspace, templates := state.templates ++ [.dag dag] })
      | .error fault => (.failed fault, { state with workspace })
  | .register name place =>
      match state.templates[place]? with
      | none => (.absent, state)
      | some template =>
          match state.workspace.register name template with
          | (.ok _, workspace) => (.registered name template, { state with workspace })
          | (.error fault, workspace) => (.failed fault, { state with workspace })

def run (requests : List Request) : List Outcome × State :=
  requests.foldl (fun (outcomes, state) request =>
    let (outcome, next) := request.perform state
    (outcomes ++ [outcome], next)) ([], {})

def after (requests : List Request) : State := (run requests).2

/-- The templates that a registry of a name accepted, in turn. -/
def accepted (requests : List Request) (name : String) : List Template :=
  (run requests).1.filterMap fun
    | .registered registry template => if registry = name then some template else none
    | _ => none

/-- The registry of a name, created if there is none. -/
def State.registry (state : State) (name : String) : Registry := (state.workspace.registry name).1

/-! ## One request -/

/-- The templates that an outcome adds to the registry of a name. -/
def Outcome.adds (outcome : Outcome) (name : String) : List Template :=
  match outcome with
  | .registered registry template => if registry = name then [template] else []
  | _ => []

theorem run_append_singleton (requests : List Request) (request : Request) :
    run (requests ++ [request]) =
      ((run requests).1 ++ [(request.perform (after requests)).1],
        (request.perform (after requests)).2) := by
  rw [run, List.foldl_append]
  rfl

theorem accepted_append_singleton (requests : List Request) (request : Request) (name : String) :
    accepted (requests ++ [request]) name =
      accepted requests name ++ (request.perform (after requests)).1.adds name := by
  unfold accepted
  rw [run_append_singleton, List.filterMap_append]
  cases (request.perform (after requests)).1 with
  | registered registry template =>
      by_cases hname : registry = name
      · simp [Outcome.adds, hname]
      · simp [Outcome.adds, hname]
  | built template => rfl
  | failed fault => rfl
  | absent => rfl

/-- **A registration that fails changes nothing**, since a registry whose keys are taken is there
already. -/
theorem register_eq_error {workspace next : Workspace} {name : String} {template : Template}
    {fault : Error} (h : workspace.register name template = (.error fault, next)) :
    next = workspace := by
  unfold Workspace.register Workspace.registry at h
  cases hfound : workspace.registries.lookup name with
  | some registry =>
      simp only [hfound] at h
      split at h
      · exact (Prod.mk.inj h).2.symm
      · cases h
  | none =>
      -- nothing is registered in a registry that was just created
      simp [hfound, Workspace.freshId, Registry.register, Registry.keys, pure, Except.pure] at h

/-- A registration that succeeds puts the template behind the others of its registry. -/
theorem register_eq_ok {workspace next : Workspace} {name : String} {template : Template}
    {key : TemplateKey} (h : workspace.register name template = (.ok key, next)) :
    template.key ∉ (templatesUnder workspace.registries name).map Template.key ∧
      ∀ other, templatesUnder next.registries other =
        templatesUnder workspace.registries other ++ if name = other then [template] else [] := by
  unfold Workspace.register at h
  simp only at h
  split at h
  · cases h
  · next larger hregister =>
      obtain ⟨hnew, rfl⟩ := Registry.register_eq_ok.mp hregister
      rw [Registry.keys, Workspace.templates_registry] at hnew
      refine ⟨hnew, ?_⟩
      intro other
      rw [← (Prod.mk.inj h).2, templatesUnder_insert, Workspace.templatesUnder_registry,
        Workspace.templates_registry]
      by_cases hname : name = other
      · simp [hname]
      · simp [hname, Ne.symm hname]

/-! ## What holds after every request -/

/-- **What holds of a state in which some templates were accepted**: registries have what they
accepted, under distinct keys, and all of it was built. -/
structure State.Sound (state : State) (accepted : String → List Template) : Prop where
  built : ∀ template ∈ state.templates, template.Built
  templates : ∀ name, templatesUnder state.workspace.registries name = accepted name
  distinct : ∀ name, ((accepted name).map Template.key).Nodup
  accepted_built : ∀ name, ∀ template ∈ accepted name, template.Built

theorem sound_initial : ({} : State).Sound fun _ => [] where
  built := by simp
  templates := fun _ => rfl
  distinct := by simp
  accepted_built := by simp

variable {state : State} {acceptedSo : String → List Template}

theorem State.Sound.of_registries_eq (h : state.Sound acceptedSo) {next : State} {outcome : Outcome}
    (hregistries : next.workspace.registries = state.workspace.registries)
    (hbuilt : ∀ template ∈ next.templates, template.Built) (hadds : ∀ name, outcome.adds name = []) :
    next.Sound fun name => acceptedSo name ++ outcome.adds name := by
  have hsame : (fun name => acceptedSo name ++ outcome.adds name) = acceptedSo := by
    funext name
    rw [hadds, List.append_nil]
  rw [hsame]
  exact ⟨hbuilt, fun name => by rw [hregistries, h.templates], h.distinct, h.accepted_built⟩

/-- **A registration that succeeds keeps the state sound.** -/
theorem State.Sound.registered (h : state.Sound acceptedSo) {name : String} {template : Template}
    {key : TemplateKey} {workspace : Workspace} (hbuilt : template.Built)
    (hregister : state.workspace.register name template = (.ok key, workspace)) :
    State.Sound { state with workspace } fun other =>
      acceptedSo other ++ (Outcome.registered name template).adds other := by
  obtain ⟨hnew, hunder⟩ := register_eq_ok hregister
  rw [h.templates] at hnew
  have hadds : ∀ other, (Outcome.registered name template).adds other =
      if name = other then [template] else [] := fun _ => rfl
  refine { built := h.built, templates := ?_, distinct := ?_, accepted_built := ?_ }
  · intro other
    rw [hunder, h.templates, hadds]
  · intro other
    rw [hadds]
    by_cases hname : name = other
    · subst hname
      rw [if_pos rfl, List.map_append, List.map_singleton, List.nodup_append]
      refine ⟨h.distinct name, by simp, ?_⟩
      intro key hkey other hother heq
      rw [heq, List.mem_singleton.mp hother] at hkey
      exact hnew hkey
    · rw [if_neg hname, List.append_nil]
      exact h.distinct other
  · intro other found hfound
    rw [hadds] at hfound
    rcases List.mem_append.mp hfound with hfound | hfound
    · exact h.accepted_built other found hfound
    · split at hfound
      · rw [List.mem_singleton.mp hfound]
        exact hbuilt
      · cases hfound

/-- **Each request keeps the state sound**, with what it adds. -/
theorem State.Sound.perform (h : state.Sound acceptedSo) (request : Request) :
    (request.perform state).2.Sound fun name =>
      acceptedSo name ++ (request.perform state).1.adds name := by
  have hmore : ∀ template : Template, template.Built →
      ∀ other ∈ state.templates ++ [template], other.Built := by
    intro template htemplate other hother
    rcases List.mem_append.mp hother with hother | hother
    · exact h.built other hother
    · rw [List.mem_singleton.mp hother]
      exact htemplate
  cases request with
  | buildFunction name package calls =>
      simp only [Request.perform]
      split
      · next run hrun => exact h.of_registries_eq rfl (hmore _ (.function hrun)) fun _ => rfl
      · exact h.of_registries_eq rfl h.built fun _ => rfl
  | buildDag name package calls =>
      simp only [Request.perform, Workspace.freshId]
      split
      · next dag hdag => exact h.of_registries_eq rfl (hmore _ (.dag hdag)) fun _ => rfl
      · exact h.of_registries_eq rfl h.built fun _ => rfl
  | register name place =>
      simp only [Request.perform]
      split
      · exact h.of_registries_eq rfl h.built fun _ => rfl
      · next template htemplate =>
          split
          · next key workspace hregister =>
              exact h.registered (h.built template (List.mem_of_getElem? htemplate)) hregister
          · next fault workspace hregister =>
              refine h.of_registries_eq ?_ h.built fun _ => rfl
              rw [register_eq_error hregister]

/-- **The invariant holds after all requests.** -/
theorem sound_after (requests : List Request) : (after requests).Sound (accepted requests) := by
  induction requests using List.reverseRecOn with
  | nil => exact sound_initial
  | append_singleton requests request ih =>
      have hstep := ih.perform request
      have hadds : accepted (requests ++ [request]) = fun name =>
          accepted requests name ++ (request.perform (after requests)).1.adds name :=
        funext fun name => accepted_append_singleton requests request name
      rw [after, run_append_singleton, hadds]
      exact hstep

theorem accepted_prefix (requests more : List Request) (name : String) :
    accepted requests name <+: accepted (requests ++ more) name := by
  induction more using List.reverseRecOn with
  | nil => rw [List.append_nil]
  | append_singleton more request ih =>
      rw [← List.append_assoc, accepted_append_singleton]
      exact ih.trans (List.prefix_append _ _)

/-! ## What a registry has -/

/-- A registry has what it accepted: its keys are those of the templates in the order in which they
were accepted, no two are the same, and each template is found under its own key and nothing else is
found. -/
structure Holds (registry : Registry) (accepted : List Template) : Prop where
  keys_eq : registry.keys = accepted.map Template.key
  keys_distinct : registry.keys.Nodup
  get_iff : ∀ key template, registry.get key = .ok template ↔
    template ∈ accepted ∧ template.key = key

theorem holds_of_templates {registry : Registry} {accepted : List Template}
    (htemplates : registry.templates = accepted) (hdistinct : (accepted.map Template.key).Nodup) :
    Holds registry accepted := by
  subst htemplates
  exact ⟨rfl, hdistinct, fun _ _ => Registry.get_eq_ok_of_nodup hdistinct⟩

theorem holds_after (requests : List Request) (name : String) :
    Holds ((after requests).registry name) (accepted requests name) := by
  have hsound := sound_after requests
  refine holds_of_templates ?_ (hsound.distinct name)
  rw [State.registry, Workspace.templates_registry, hsound.templates]

theorem perform_register_eq_failed {name : String} {place : Nat} {fault : Error} {next : State}
    (h : (Request.register name place).perform state = (.failed fault, next)) : next = state := by
  simp only [Request.perform] at h
  split at h
  · cases h
  · split at h
    · cases h
    · next workspace hregister =>
        rw [← (Prod.mk.inj h).2, register_eq_error hregister]

theorem State.Sound.templates_of_failed (h : state.Sound acceptedSo) {request : Request}
    {fault : Error} {next : State} (hfailed : request.perform state = (.failed fault, next))
    (name : String) : (next.registry name).templates = (state.registry name).templates := by
  have hstep := (h.perform request).templates name
  rw [hfailed] at hstep
  rw [State.registry, State.registry, Workspace.templates_registry, Workspace.templates_registry,
    hstep, h.templates]
  exact List.append_nil _

/-- **Registries keep what they accepted.** After any requests to build and register templates, those
that failed included, each registry has the templates it accepted under their own keys and in that
order, all of them well made, and it still has them after any more requests. A registration that
fails changes nothing, and neither does a build that fails change a registry. -/
theorem enrolment_kept (requests : List Request) (name : String) :
    Holds ((after requests).registry name) (accepted requests name) ∧
    (∀ template ∈ accepted requests name, template.WellMade) ∧
    (∀ more, accepted requests name <+: accepted (requests ++ more) name ∧
      ∀ key template, ((after requests).registry name).get key = .ok template →
        ((after (requests ++ more)).registry name).get key = .ok template) ∧
    (∀ place fault next,
      (Request.register name place).perform (after requests) = (.failed fault, next) →
        next = after requests) ∧
    ∀ (request : Request) fault next, request.perform (after requests) = (.failed fault, next) →
      (next.registry name).templates = ((after requests).registry name).templates := by
  have hsound := sound_after requests
  refine ⟨holds_after requests name, ?_, ?_, ?_, ?_⟩
  · exact fun template htemplate => (hsound.accepted_built name template htemplate).wellMade
  · intro more
    have hkept := accepted_prefix requests more name
    refine ⟨hkept, ?_⟩
    intro key template hget
    obtain ⟨hmem, hkey⟩ := ((holds_after requests name).get_iff key template).mp hget
    exact ((holds_after (requests ++ more) name).get_iff key template).mpr
      ⟨hkept.subset hmem, hkey⟩
  · exact fun place fault next h => perform_register_eq_failed h
  · exact fun request fault next h => hsound.templates_of_failed h name

/-- Neither is a function built that has nothing to run, nor a template registered twice. -/
example :
    let calls : List FunctionCall := [.output ⟨"text", .string, [.path "out.txt"]⟩]
    let requests : List Request :=
      [.buildFunction "Echo" ⟨"tools", "1.0.0"⟩ calls,
        .buildFunction "Echo" ⟨"tools", "1.0.0"⟩ (.command "date" :: calls),
        .register "main" 0, .register "main" 0]
    (run requests).1.map (fun
        | .failed _ => true
        | _ => false) = [true, false, false, true] ∧
      (after requests).templates.length = 1 ∧ (accepted requests "main").length = 1 := by
  decide +kernel

end Enrolment

end Recipe
