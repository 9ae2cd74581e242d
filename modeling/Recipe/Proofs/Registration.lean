import Recipe.Proofs.NeedsPolicy

/-!
# Registering more

What succeeded in a registry succeeds with the same result in each registry that has the same
templates and more: a template that is not registered is never anything but a fault. So a result
does not change while a recipe grows, as registries only grow unless a clone takes their name
(`extends_after_append`).
-/

set_option autoImplicit false

namespace Recipe

/-! ## Larger registries -/

namespace Registry

variable {registry larger : Registry}

theorem Extends.dag (h : larger.Extends registry) {key : TemplateKey} {dag : Dag}
    (hdag : registry.dag key = .ok dag) : larger.dag key = .ok dag :=
  dag_eq_ok.mpr (h key _ (dag_eq_ok.mp hdag))

theorem extends_of_prefix (h : registry.templates <+: larger.templates) :
    larger.Extends registry := by
  obtain ⟨more, hmore⟩ := h
  intro key template htemplate
  rw [get_eq_ok, find?] at htemplate ⊢
  rw [← hmore, List.find?_append, htemplate]
  rfl

end Registry

variable {registry larger : Registry}

theorem collect_of_extends (hextends : larger.Extends registry) {policy : NeedsPolicy}
    {graph : Graph} {manifest : Manifest}
    (h : collect registry (fun dag => dag.build registry policy) graph = .ok manifest) :
    collect larger (fun dag => dag.build larger policy) graph = .ok manifest :=
  collectTasks_mono (fun _ _ => hextends.dag) (fun _ _ => Dag.build_of_extends hextends) h

/-- **A pipeline stays the same when the registry grows.** -/
theorem compile_of_extends (hextends : larger.Extends registry) {options : Options}
    {provider : MetadataProvider} {entry : TemplateKey} {metadata : Option PackageMetadata}
    {pipeline : Pipeline} (h : compile registry options provider entry metadata = .ok pipeline) :
    compile larger options provider entry metadata = .ok pipeline :=
  compileWith_mono (fun _ _ => hextends.dag) (fun _ _ => Dag.build_of_extends hextends) h

/-! ## Registries in a workspace -/

/-- The templates of the registry that has a name, none if there is no such registry. -/
def templatesUnder (registries : Table Registry) (name : String) : List Template :=
  ((registries.lookup name).map (·.templates)).getD []

theorem templatesUnder_insert (registries : Table Registry) (name other : String)
    (registry : Registry) : templatesUnder (registries.insert other registry) name =
      if name = other then registry.templates else templatesUnder registries name := by
  unfold templatesUnder
  split
  · next hname => rw [hname, Table.lookup_insert_self, Option.map_some, Option.getD_some]
  · next hname => rw [Table.lookup_insert_of_ne hname]

namespace Workspace

variable (workspace : Workspace) (name other : String)

theorem templates_registry :
    (workspace.registry name).1.templates = templatesUnder workspace.registries name := by
  unfold registry templatesUnder
  cases workspace.registries.lookup name <;> rfl

theorem templatesUnder_registry :
    templatesUnder (workspace.registry other).2.registries name =
      templatesUnder workspace.registries name := by
  unfold registry
  cases hother : workspace.registries.lookup other with
  | some found => rfl
  | none =>
      simp only [freshId, templatesUnder_insert]
      split
      · next hname =>
          rw [hname, templatesUnder, hother]
          rfl
      · rfl

/-- Registering a template puts it behind the others, or changes nothing. -/
theorem templatesUnder_register (template : Template) :
    templatesUnder workspace.registries name <+:
      templatesUnder (workspace.register other template).2.registries name := by
  rw [← workspace.templatesUnder_registry name other]
  unfold register
  simp only
  split
  · exact List.prefix_rfl
  · next larger hregister =>
      obtain ⟨-, rfl⟩ := Registry.register_eq_ok.mp hregister
      rw [templatesUnder_insert]
      split
      · next hname =>
          rw [hname, templatesUnder_registry, ← templates_registry]
          exact List.prefix_append _ _
      · exact List.prefix_rfl

/-- A clone takes the place of the registry that had its name, and of no other. -/
theorem templatesUnder_clone {name other : String} (hname : name ≠ other) (source : String) :
    templatesUnder (workspace.clone source other).registries name =
      templatesUnder workspace.registries name := by
  unfold clone
  simp only [freshId]
  rw [templatesUnder_insert, if_neg hname, templatesUnder_registry]

end Workspace

/-! ## After every history -/

namespace History

/-- The operation puts a clone in the place of the registry of a name. -/
def Operation.Replaces (operation : Operation) (name : String) : Prop :=
  match operation with
  | .clone _ other => other = name
  | _ => False

variable {name : String}

/-- **No operation takes a template from a registry**, unless a clone takes its name. -/
theorem prefix_perform (state : State) {operation : Operation} (h : ¬ operation.Replaces name) :
    templatesUnder state.workspace.registries name <+:
      templatesUnder (operation.perform state).workspace.registries name := by
  have hrun : ∀ {α : Type} (other : String) (compute : Registry → Cached α),
      templatesUnder state.workspace.registries name <+:
        templatesUnder (state.run other compute).2.workspace.registries name := by
    intro α other compute
    rw [← state.workspace.templatesUnder_registry name other]
    exact List.prefix_rfl
  cases operation with
  | declare make =>
      simp only [Operation.perform, State.declare, Workspace.freshId]
      split <;> exact List.prefix_rfl
  | registerFunction other function => exact state.workspace.templatesUnder_register name other _
  | registerDag other i =>
      simp only [Operation.perform]
      split
      · exact List.prefix_rfl
      · exact state.workspace.templatesUnder_register name other _
  | clone source other =>
      simp only [Operation.perform]
      rw [state.workspace.templatesUnder_clone (Ne.symm h)]
  | graph other i policy =>
      simp only [Operation.perform]
      split
      · exact List.prefix_rfl
      · exact hrun other _
  | collect other i policy =>
      simp only [Operation.perform]
      split
      · exact List.prefix_rfl
      · exact hrun other _
  | compile other options provider entry metadata => exact hrun other _
  | publish other options provider publisher entry description => exact hrun other _
  | dryValidate other options entry => exact hrun other _

/-- **Registries only grow**, whatever is done. -/
theorem extends_after_append (history : List Operation) {more : List Operation}
    (h : ∀ operation ∈ more, ¬ operation.Replaces name) :
    ((after (history ++ more)).registry name).Extends ((after history).registry name) := by
  -- by induction on what is done, from any state
  have hfold : ∀ state : State, templatesUnder state.workspace.registries name <+:
      templatesUnder (more.foldl (fun state operation => operation.perform state)
        state).workspace.registries name := by
    induction more with
    | nil => exact fun _ => List.prefix_rfl
    | cons operation rest ih =>
        intro state
        rw [List.forall_mem_cons] at h
        exact (prefix_perform state h.1).trans (ih h.2 _)
  refine Registry.extends_of_prefix ?_
  rw [State.registry, State.registry, Workspace.templates_registry, Workspace.templates_registry]
  have happend : after (history ++ more) =
      more.foldl (fun state operation => operation.perform state) (after history) :=
    List.foldl_append
  rw [happend]
  exact hfold _

theorem State.Sound.run_collect_graph {state : State} (h : state.Sound) (name : String)
    (policy : NeedsPolicy) (graph : Graph) :
    (state.run name fun registry => collect registry (Cached.graph registry policy) graph).1 =
      collect (state.registry name) (fun dag => dag.build (state.registry name) policy) graph := by
  obtain ⟨hfound, hregistry⟩ := h.withRegistry name
  have hgraph := hfound.consistent.computes_graph hregistry policy
  exact (h.run (Computes.collectTasks hgraph _ _ _ _)).1

/-- **Registering more never changes a result that there was.** If one registry has under each key
what another has under it, be they two at one time or one at two times, then what is compiled,
collected, resolved or built in the smaller one has the same outcome in the larger one. -/
theorem results_kept (past present : List Operation) {name other : String}
    (hextends : ((after present).registry other).Extends ((after past).registry name)) :
    (∀ options provider entry metadata pipeline,
      (after past).compiled name options provider entry metadata = .ok pipeline →
        (after present).compiled other options provider entry metadata = .ok pipeline) ∧
    (∀ policy graph manifest,
      ((after past).run name fun registry =>
          collect registry (Cached.graph registry policy) graph).1 = .ok manifest →
        ((after present).run other fun registry =>
          collect registry (Cached.graph registry policy) graph).1 = .ok manifest) ∧
    ∀ dag policy graph,
      (dag.resolve ((after past).registry name) policy = .ok graph →
        dag.resolve ((after present).registry other) policy = .ok graph) ∧
      (dag ∈ (after past).dags → dag ∈ (after present).dags →
        ((after past).run name fun registry => Cached.graph registry policy dag).1 = .ok graph →
          ((after present).run other fun registry => Cached.graph registry policy dag).1 =
            .ok graph) := by
  have hpast := sound_after past
  have hpresent := sound_after present
  refine ⟨?_, ?_, ?_⟩
  · intro options provider entry metadata pipeline h
    rw [hpast.compiled_eq] at h
    rw [hpresent.compiled_eq]
    exact compile_of_extends hextends h
  · intro policy graph manifest h
    rw [hpast.run_collect_graph] at h
    rw [hpresent.run_collect_graph]
    exact collect_of_extends hextends h
  · intro dag policy graph
    refine ⟨Dag.resolve_of_extends hextends, ?_⟩
    intro hdag hstill h
    rw [(hpast.run_graph name hdag policy).1] at h
    rw [(hpresent.run_graph other hstill policy).1]
    exact Dag.build_of_extends hextends h

/-- The history in which a DAG is registered that runs one which was there before. -/
def letterAfterTurn : List Operation :=
  turnHistory ++ [.declare readLetter.redraft, .registerDag "main" 1]

theorem letterAfterTurn_results_kept :
    ((after letterAfterTurn).registry "main").Extends ((after turnHistory).registry "main") ∧
    ((after turnHistory).compiled "main" {} (MetadataProvider.ofList []) readLetter.key
      none).isOk = false ∧
    ((after letterAfterTurn).compiled "main" {} (MetadataProvider.ofList []) readLetter.key
      none).isOk = true ∧
    ∃ pipeline,
      (after turnHistory).compiled "main" {} (MetadataProvider.ofList []) shoutAll.key none =
          .ok pipeline ∧
        (after letterAfterTurn).compiled "main" {} (MetadataProvider.ofList []) shoutAll.key none =
          .ok pipeline := by
  have hextends : ((after letterAfterTurn).registry "main").Extends
      ((after turnHistory).registry "main") :=
    extends_after_append turnHistory (by simp [Operation.Replaces])
  have hok : ((after turnHistory).compiled "main" {} (MetadataProvider.ofList []) shoutAll.key
      none).isOk = true := by cbv
  refine ⟨hextends, by cbv, by cbv, ?_⟩
  obtain ⟨pipeline, hpipeline⟩ := exists_of_isOk hok
  refine ⟨pipeline, hpipeline, ?_⟩
  exact (results_kept turnHistory letterAfterTurn hextends).1 {} (MetadataProvider.ofList [])
    shoutAll.key none pipeline hpipeline

end History

end Recipe
