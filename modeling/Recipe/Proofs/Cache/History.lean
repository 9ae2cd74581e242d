import Recipe.Proofs.Build.Typing
import Recipe.Proofs.Cache.Census
import Recipe.Proofs.Renaming
import Recipe.Workspace

/-!
# Histories

Whatever has been done in a workspace, in any order and with any outcome, the cache agrees with
the DAGs and registries that there are. So no computation can tell that there is a cache: every
graph is the one that building its DAG anew would give, and every pipeline depends on nothing but
the templates of its registry.
-/

set_option autoImplicit false

namespace Recipe

namespace History

/-! ## Operations -/

/-- A workspace with all DAGs that were built in it, be they registered or not. -/
structure State where
  workspace : Workspace := {}
  dags : List Dag := []

/-- What can be done in a workspace. Registries go by their names, and DAGs by their places in the
order in which they were built; a draft is made with the identity that it is given. -/
inductive Operation
  | declare (make : Nat → DagDraft)
  | registerFunction (registry : String) (function : Function)
  | registerDag (registry : String) (dag : Nat)
  | clone (registry other : String)
  | graph (registry : String) (dag : Nat) (policy : NeedsPolicy)
  | collect (registry : String) (dag : Nat) (policy : NeedsPolicy)
  | compile (registry : String) (options : Options) (provider : MetadataProvider)
      (entry : TemplateKey) (metadata : Option PackageMetadata)
  | publish (registry : String) (options : Options) (provider : MetadataProvider)
      (publisher : Pipeline → String → Except Error Unit) (entry : TemplateKey)
      (description : String)
  | dryValidate (registry : String) (options : Options) (entry : TemplateKey)

namespace State

/-- The registry of a name, created if there is none. -/
def registry (state : State) (name : String) : Registry := (state.workspace.registry name).1

/-- The outcome of a computation in a registry, and the state after it. -/
def run {α : Type} (state : State) (name : String) (compute : Registry → Cached α) :
    Except Error α × State :=
  ((state.workspace.run name compute).1,
    { state with workspace := (state.workspace.run name compute).2 })

def compiled (state : State) (name : String) (options : Options) (provider : MetadataProvider)
    (entry : TemplateKey) (metadata : Option PackageMetadata) : Except Error Pipeline :=
  (state.run name fun registry => Cached.compile registry options provider entry metadata).1

/-- The state after a template was registered, if its key was free. -/
def register (state : State) (name : String) (template : Template) : State :=
  { state with workspace := (state.workspace.register name template).2 }

/-- The state after a draft was made and, if it is valid, built. -/
def declare (state : State) (make : Nat → DagDraft) : State :=
  let (id, workspace) := state.workspace.freshId
  match { make id with id }.build with
  | .error _ => { state with workspace }
  | .ok dag => { workspace, dags := state.dags ++ [dag] }

end State

/-- The state after an operation. An operation on a DAG that there is not does nothing. -/
def Operation.perform (operation : Operation) (state : State) : State :=
  match operation with
  | .declare make => state.declare make
  | .registerFunction name function => state.register name (.function function)
  | .registerDag name i =>
      match state.dags[i]? with
      | none => state
      | some dag => state.register name (.dag dag)
  | .clone name other => { state with workspace := state.workspace.clone name other }
  | .graph name i policy =>
      match state.dags[i]? with
      | none => state
      | some dag => (state.run name fun registry => Cached.graph registry policy dag).2
  | .collect name i policy =>
      match state.dags[i]? with
      | none => state
      | some dag => (state.run name fun registry => Cached.collect registry policy dag).2
  | .compile name options provider entry metadata =>
      (state.run name fun registry =>
        Cached.compile registry options provider entry metadata).2
  | .publish name options provider publisher entry description =>
      (state.run name fun registry =>
        Cached.publish registry options provider publisher entry description).2
  | .dryValidate name options entry =>
      (state.run name fun registry =>
        MonadExcept.ofExcept (Recipe.dryValidate registry options entry)).2

def after (history : List Operation) : State :=
  history.foldl (fun state operation => operation.perform state) {}

/-! ## The invariant -/

namespace State

def census (state : State) : Census where
  dags := state.dags
  registries := state.workspace.registries
  nextId := state.workspace.nextId

/-- **What holds after every history**: identities are distinct and the cache agrees. -/
structure Sound (state : State) : Prop where
  consistent : state.census.Consistent
  agrees : state.workspace.cache.Agrees state.census

variable {state : State}

theorem sound_initial : ({} : State).Sound where
  consistent :=
    { dags_built := by simp [census]
      dags_old := by simp [census]
      dags_unique := by simp [census]
      names := List.nodup_nil
      registries_old := by simp [census]
      registries_unique := by simp [census]
      drawn := by simp [census] }
  agrees :=
    { old := by simp
      graph := by simp }

/-- The state after the registry of a name was looked up. -/
def withRegistry (state : State) (name : String) : State :=
  { state with workspace := (state.workspace.registry name).2 }

theorem Sound.withRegistry (h : state.Sound) (name : String) :
    (state.withRegistry name).Sound ∧
      (name, state.registry name) ∈ (state.withRegistry name).census.registries := by
  unfold State.withRegistry State.registry Workspace.registry
  cases hfound : state.workspace.registries.lookup name with
  | some registry => exact ⟨h, Table.mem_of_lookup hfound⟩
  | none =>
      have hdraws : ({ id := state.workspace.nextId } : Registry).DrawsOn state.dags :=
        ⟨List.nodup_nil, fun _ hdag => by cases hdag⟩
      refine ⟨⟨h.consistent.place rfl hdraws name,
        Census.agrees_place h.agrees h.consistent rfl name⟩, ?_⟩
      exact (Table.mem_insert h.consistent.names).mpr (Or.inl rfl)

/-- Registering a template keeps the invariant, be its key taken or not. -/
theorem Sound.register (h : state.Sound) (name : String) {template : Template}
    (htemplate : ∀ dag, template = .dag dag → dag ∈ state.dags) :
    (state.register name template).Sound := by
  obtain ⟨hfound, hregistry⟩ := h.withRegistry name
  unfold State.register Workspace.register
  cases hregister : (state.registry name).register template with
  | error fault =>
      simp only [State.registry] at hregister
      simp only [hregister]
      exact hfound
  | ok larger =>
      have hextends := Registry.extends_of_register hregister
      obtain ⟨hnew, hlarger⟩ := Registry.register_eq_ok.mp hregister
      -- the registry grows in place: it keeps its identity, so slots that it owns still count
      have hold := hfound.consistent.drawn _ hregistry
      have hid : larger.id = (state.registry name).id := by
        rw [← hlarger]
      have hdraws : larger.DrawsOn state.dags := by
        rw [← hlarger]
        constructor
        · rw [Registry.keys, List.map_append, List.map_singleton, List.nodup_append]
          refine ⟨hold.keys, by simp, ?_⟩
          intro key hkey other hother heq
          rw [heq, List.mem_singleton.mp hother] at hkey
          exact hnew hkey
        · intro dag hdag
          rcases List.mem_append.mp hdag with hdag | hdag
          · exact hold.dags dag hdag
          · exact htemplate dag (List.mem_singleton.mp hdag).symm
      simp only [State.registry] at hregister
      simp only [hregister]
      exact ⟨hfound.consistent.grow hregistry hid hdraws,
        Census.agrees_grow hfound.agrees hfound.consistent hregistry hid hextends⟩

/-- A clone has another identity, and a cached graph is not taken for one of its own. -/
theorem Sound.clone (h : state.Sound) (name other : String) :
    State.Sound { state with workspace := state.workspace.clone name other } := by
  obtain ⟨hfound, hregistry⟩ := h.withRegistry name
  have hold := hfound.consistent.drawn _ hregistry
  have hdraws : ((state.registry name).clone (state.withRegistry name).census.nextId).DrawsOn
      state.dags := ⟨hold.keys, hold.dags⟩
  exact ⟨hfound.consistent.place rfl hdraws other,
    Census.agrees_place hfound.agrees hfound.consistent rfl other⟩

/-- A draft takes a new identity, be it valid or not. -/
theorem Sound.declare (h : state.Sound) (make : Nat → DagDraft) : (state.declare make).Sound := by
  unfold State.declare
  simp only [Workspace.freshId]
  cases hbuild : ({ make state.workspace.nextId with id := state.workspace.nextId } :
      DagDraft).build with
  | error fault => exact ⟨h.consistent.next, Census.agrees_next h.agrees⟩
  | ok dag =>
      have hid : dag.id = state.census.nextId := by
        have hparts := hbuild
        simp only [DagDraft.build, bind_eq_ok, pure_eq_ok] at hparts
        obtain ⟨-, -, rfl⟩ := hparts
        rfl
      exact ⟨h.consistent.withDag hid ⟨_, hbuild⟩, Census.agrees_withDag h.agrees hid⟩

/-- **A computation has its outcome after every history**, and keeps the invariant. -/
theorem Sound.run {α : Type} (h : state.Sound) {name : String} {compute : Registry → Cached α}
    {outcome : Except Error α}
    (hcomputes : Computes (state.withRegistry name).census (compute (state.registry name))
      outcome) :
    (state.run name compute).1 = outcome ∧ (state.run name compute).2.Sound := by
  obtain ⟨hfound, -⟩ := h.withRegistry name
  obtain ⟨houtcome, hagrees⟩ := hcomputes _ hfound.agrees
  exact ⟨houtcome, hfound.consistent, hagrees⟩

variable {name : String}

theorem Sound.mem_dags (h : state.Sound) {key : TemplateKey} {dag : Dag}
    (hdag : (state.registry name).dag key = .ok dag) : dag ∈ state.dags := by
  obtain ⟨hfound, hregistry⟩ := h.withRegistry name
  exact (hfound.consistent.drawn _ hregistry).dags dag (Registry.mem_of_dag hdag)

theorem Sound.run_graph (h : state.Sound) (name : String) {dag : Dag} (hdag : dag ∈ state.dags)
    (policy : NeedsPolicy) :
    (state.run name fun registry => Cached.graph registry policy dag).1 =
        dag.build (state.registry name) policy ∧
      (state.run name fun registry => Cached.graph registry policy dag).2.Sound := by
  obtain ⟨hfound, hregistry⟩ := h.withRegistry name
  exact h.run (.graph hfound.consistent hdag hregistry policy)

theorem Sound.run_collect (h : state.Sound) (name : String) {dag : Dag} (hdag : dag ∈ state.dags)
    (policy : NeedsPolicy) :
    (state.run name fun registry => Cached.collect registry policy dag).1 =
        (dag.build (state.registry name) policy >>=
          collect (state.registry name) fun dag => dag.build (state.registry name) policy) ∧
      (state.run name fun registry => Cached.collect registry policy dag).2.Sound := by
  obtain ⟨hfound, hregistry⟩ := h.withRegistry name
  exact h.run (hfound.consistent.computes_collect hdag hregistry policy)

theorem Sound.run_compile (h : state.Sound) (name : String) (options : Options)
    (provider : MetadataProvider) (entry : TemplateKey) (metadata : Option PackageMetadata) :
    (state.run name fun registry =>
        Cached.compile registry options provider entry metadata).1 =
        compile (state.registry name) options provider entry metadata ∧
      (state.run name fun registry =>
        Cached.compile registry options provider entry metadata).2.Sound := by
  obtain ⟨hfound, hregistry⟩ := h.withRegistry name
  exact h.run (hfound.consistent.computes_compile hregistry options provider entry metadata)

theorem Sound.compiled_eq (h : state.Sound) (name : String) (options : Options)
    (provider : MetadataProvider) (entry : TemplateKey) (metadata : Option PackageMetadata) :
    state.compiled name options provider entry metadata =
      compile (state.registry name) options provider entry metadata :=
  (h.run_compile name options provider entry metadata).1

end State

/-- **No operation breaks the invariant.** -/
theorem sound_perform {state : State} (h : state.Sound) (operation : Operation) :
    (operation.perform state).Sound := by
  cases operation with
  | declare make => exact h.declare make
  | registerFunction name function => exact h.register name (by simp)
  | registerDag name i =>
      simp only [Operation.perform]
      split
      · exact h
      · next dag hdag =>
          refine h.register name ?_
          rintro _ ⟨rfl⟩
          exact List.mem_of_getElem? hdag
  | clone name other => exact h.clone name other
  | graph name i policy =>
      simp only [Operation.perform]
      split
      · exact h
      · next dag hdag => exact (h.run_graph name (List.mem_of_getElem? hdag) policy).2
  | collect name i policy =>
      simp only [Operation.perform]
      split
      · exact h
      · next dag hdag => exact (h.run_collect name (List.mem_of_getElem? hdag) policy).2
  | compile name options provider entry metadata =>
      exact (h.run_compile name options provider entry metadata).2
  | publish name options provider publisher entry description =>
      obtain ⟨hfound, hregistry⟩ := h.withRegistry name
      exact (h.run (hfound.consistent.computes_publish hregistry options provider publisher entry
        description)).2
  | dryValidate name options entry => exact (h.run (Computes.ofExcept _)).2

/-- **The invariant holds after every history.** -/
theorem sound_after (history : List Operation) : (after history).Sound := by
  -- by induction on the history, from any state in which the invariant holds
  have hfold : ∀ state : State, state.Sound →
      (history.foldl (fun state operation => operation.perform state) state).Sound := by
    induction history with
    | nil => exact fun _ h => h
    | cons operation rest ih => exact fun state h => ih _ (sound_perform h operation)
  exact hfold {} State.sound_initial

/-! ## Starting anew -/

/-- The history that registers some templates in the same order under the name of a registry, after
declaring their DAGs again; so many DAGs were built before. -/
def anewAfter (name : String) (built : Nat) : List Template → List Operation
  | [] => []
  | .function run :: rest => .registerFunction name run :: anewAfter name built rest
  | .dag dag :: rest =>
      .declare dag.redraft :: .registerDag name built :: anewAfter name (built + 1) rest

/-- The history that does nothing but fill a registry with some templates. -/
def anew (name : String) (templates : List Template) : List Operation := anewAfter name 0 templates

namespace State

variable {state : State} {name : String}

/-- A template is registered behind the others if its key is free. -/
theorem templates_register {template : Template}
    (hnew : template.key ∉ (state.registry name).keys) :
    ((state.register name template).registry name).templates =
      (state.registry name).templates ++ [template] := by
  have hregister := Registry.register_eq_ok.mpr ⟨hnew, rfl⟩
  simp only [registry] at hregister
  simp only [registry, register, Workspace.register, hregister]
  rw [Workspace.registry, Table.lookup_insert_self]

/-- A template that stands for the first of those to come is registered behind the others, and the
keys of the rest stay free. -/
theorem register_again {next : State} {again template : Template} {rest : List Template}
    (hagain : again.Redeclares template)
    (hsame : (next.registry name).templates = (state.registry name).templates)
    (hkeys : ((state.registry name).keys ++ (template :: rest).map Template.key).Nodup) :
    ((next.register name again).registry name).templates =
        (state.registry name).templates ++ [again] ∧
      (((next.register name again).registry name).keys ++ rest.map Template.key).Nodup := by
  have hkey : again.key = template.key := by
    rw [Template.key, Template.key, hagain.definition_eq]
  have hnext : (next.registry name).keys = (state.registry name).keys := by
    rw [Registry.keys, Registry.keys, hsame]
  rw [List.map_cons, ← hkey, ← hnext] at hkeys
  have hnew : again.key ∉ (next.registry name).keys := by
    intro hmem
    exact (List.nodup_append.mp hkeys).2.2 _ hmem _ List.mem_cons_self rfl
  have htemplates := templates_register hnew
  refine ⟨by rw [htemplates, hsame], ?_⟩
  rw [Registry.keys, htemplates, List.map_append, ← Registry.keys]
  simpa using hkeys

/-- Declaring a DAG again builds it, and changes no registry. -/
theorem declare_redraft (state : State) (name : String) {dag : Dag}
    (hbuilt : ∃ draft : DagDraft, draft.build = .ok dag) :
    ((state.declare dag.redraft).registry name).templates = (state.registry name).templates ∧
      ∃ id, (state.declare dag.redraft).dags = state.dags ++ [dag.rename (dag.newOwner id)] := by
  have hbuild := Dag.build_redraft hbuilt state.workspace.nextId
  have hdraft : { dag.redraft state.workspace.nextId with id := state.workspace.nextId } =
      dag.redraft state.workspace.nextId := rfl
  simp only [declare, Workspace.freshId, hdraft, hbuild]
  refine ⟨?_, _, rfl⟩
  simp only [registry, Workspace.registry]
  cases state.workspace.registries.lookup name <;> rfl

end State

theorem exists_templates_anewAfter {templates : List Template}
    (hbuilt : ∀ dag, Template.dag dag ∈ templates → ∃ draft : DagDraft, draft.build = .ok dag)
    (name : String) (state : State)
    (hkeys : ((state.registry name).keys ++ templates.map Template.key).Nodup) :
    ∃ added, List.Forall₂ Template.Redeclares added templates ∧
      (((anewAfter name state.dags.length templates).foldl
        (fun state operation => operation.perform state) state).registry name).templates =
        (state.registry name).templates ++ added := by
  induction templates generalizing state with
  | nil => exact ⟨[], List.Forall₂.nil, by simp [anewAfter]⟩
  | cons template rest ih =>
      have hrest : ∀ dag, Template.dag dag ∈ rest → ∃ draft : DagDraft, draft.build = .ok dag :=
        fun dag hdag => hbuilt dag (List.mem_cons_of_mem _ hdag)
      -- the same step for functions and DAGs: `again` is registered in place of the template
      have hstep : ∀ (next : State) (again : Template), again.Redeclares template →
          (next.registry name).templates = (state.registry name).templates →
          ∃ added, List.Forall₂ Template.Redeclares added (template :: rest) ∧
            (((anewAfter name (next.register name again).dags.length rest).foldl
              (fun state operation => operation.perform state)
              (next.register name again)).registry name).templates =
                (state.registry name).templates ++ added := by
        intro next again hagain hsame
        obtain ⟨htemplates, hfree⟩ := State.register_again hagain hsame hkeys
        obtain ⟨added, hadded, hresult⟩ := ih hrest _ hfree
        refine ⟨again :: added, List.Forall₂.cons hagain hadded, ?_⟩
        rw [hresult, htemplates, List.append_assoc]
        rfl
      cases template with
      | function run => exact hstep state _ (.function run) rfl
      | dag dag =>
          obtain ⟨hsame, id, hdags⟩ :=
            State.declare_redraft state name (hbuilt dag List.mem_cons_self)
          have hlookup : (state.declare dag.redraft).dags[state.dags.length]? =
              some (dag.rename (dag.newOwner id)) := by
            rw [hdags, List.getElem?_concat_length]
          have hlength : state.dags.length + 1 =
              ((state.declare dag.redraft).register name
                (.dag (dag.rename (dag.newOwner id)))).dags.length := by
            rw [State.register, hdags]
            simp
          rw [anewAfter, List.foldl_cons, List.foldl_cons]
          simp only [Operation.perform, hlookup, hlength]
          exact hstep _ _ (.dag (dag.keeps_newOwner id)) hsame

/-- **A registry can be filled anew** with what another has, its DAGs declared again. -/
theorem redeclares_anew (history : List Operation) (name fresh : String) :
    ((after (anew fresh ((after history).registry name).templates)).registry fresh).Redeclares
      ((after history).registry name) := by
  obtain ⟨hfound, hregistry⟩ := (sound_after history).withRegistry name
  have hdraws := hfound.consistent.drawn _ hregistry
  have hbuilt : ∀ dag, Template.dag dag ∈ ((after history).registry name).templates →
      ∃ draft : DagDraft, draft.build = .ok dag :=
    fun dag hdag => hfound.consistent.dags_built dag (hdraws.dags dag hdag)
  obtain ⟨added, hadded, hresult⟩ :=
    exists_templates_anewAfter hbuilt fresh {} hdraws.keys
  rw [Registry.Redeclares]
  have hanew : ((after (anew fresh ((after history).registry name).templates)).registry
      fresh).templates = added := hresult
  rw [hanew]
  exact hadded

/-! ## The cache -/

/-- **No computation can tell that there is a cache.** After every history, the graph of each DAG in
each registry is what building it anew in that registry gives, and a pipeline is what compiling it
with all graphs built anew gives. So it is the same after any other history in a registry that holds
the same templates, its DAGs declared again. -/
theorem cache_invisible (history : List Operation) (name : String) :
    (∀ dag ∈ (after history).dags, ∀ policy,
      ((after history).run name fun registry => Cached.graph registry policy dag).1 =
        dag.build ((after history).registry name) policy) ∧
    ∀ options provider entry metadata,
      ((after history).run name fun registry =>
          Cached.compile registry options provider entry metadata).1 =
        compile ((after history).registry name) options provider entry metadata ∧
      ∀ other fresh, ((after other).registry fresh).Redeclares ((after history).registry name) →
        ((after history).run name fun registry =>
            Cached.compile registry options provider entry metadata).1 =
          ((after other).run fresh fun registry =>
            Cached.compile registry options provider entry metadata).1 := by
  have h := sound_after history
  refine ⟨fun dag hdag policy => (h.run_graph name hdag policy).1, ?_⟩
  intro options provider entry metadata
  have hcompile := (h.run_compile name options provider entry metadata).1
  refine ⟨hcompile, ?_⟩
  intro other fresh hredeclares
  -- both sides are what compiling without a cache gives, and that does not depend on identities
  calc ((after history).run name fun registry =>
        Cached.compile registry options provider entry metadata).1
      = compile ((after history).registry name) options provider entry metadata := hcompile
    _ = compile ((after other).registry fresh) options provider entry metadata :=
        (hredeclares.compile_eq options provider entry metadata).symm
    _ = ((after other).run fresh fun registry =>
          Cached.compile registry options provider entry metadata).1 :=
        ((sound_after other).run_compile fresh options provider entry metadata).1.symm

/-! ## An example -/

/-- A DAG with a nested one of the same package: it shouts all lines of a letter and splits them. -/
def readLetter : Dag where
  id := 3
  definition :=
    { name := "read-letter"
      kind := .dag
      package := ⟨"daylight", "0.1.0"⟩
      inputs := [{ name := "letter", kind := .file }] }
  tasks :=
    [{ name := "shout"
       template := ⟨"daylight", "shout-all"⟩
       arguments := [("text", .input ⟨3, 0⟩)] },
     { name := "split"
       template := ⟨"text-tools", "split"⟩
       arguments := [("text", .output "shout" "lines")] }]
  outputs := []
  grouped := false

/-- A history in which a DAG is built too early, then in time, and once more in a clone. -/
def letterHistory : List Operation :=
  [.declare shoutAll.redraft,
   .registerDag "main" 0,
   .graph "main" 0 .infer,
   .registerFunction "main" splitText,
   .registerFunction "main" shoutLine,
   .graph "main" 0 .infer,
   .clone "main" "copy",
   .declare readLetter.redraft,
   .registerDag "copy" 1,
   .graph "copy" 0 .infer]

theorem letterHistory_cache_invisible :
    (∃ dag ∈ (after letterHistory).dags,
      ((after letterHistory).run "copy" fun registry => Cached.graph registry .infer dag).1 =
        dag.build ((after letterHistory).registry "copy") .infer) ∧
    ((after letterHistory).run "copy" fun registry =>
        Cached.compile registry {} (MetadataProvider.ofList []) readLetter.key none).1 =
      ((after (anew "main" ((after letterHistory).registry "copy").templates)).run "main"
        fun registry =>
          Cached.compile registry {} (MetadataProvider.ofList []) readLetter.key none).1 := by
  have hlength : 0 < (after letterHistory).dags.length := by cbv
  obtain ⟨dag, hdag⟩ := List.exists_mem_of_length_pos hlength
  obtain ⟨hgraph, hcompile⟩ := cache_invisible letterHistory "copy"
  refine ⟨⟨dag, hdag, hgraph dag hdag .infer⟩, ?_⟩
  exact (hcompile {} (MetadataProvider.ofList []) readLetter.key none).2 _ "main"
    (redeclares_anew letterHistory "copy" "main")

end History

end Recipe
