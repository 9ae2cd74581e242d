import Recipe.Proofs.Compilable

/-!
# Dry validation

Dry validation resolves an entry DAG and lists all that is wrong with its graph; a compilation
builds the graph, from the cache if it is there, and stops at the first fault. Both come to the same
verdict (`dryValidate_agrees`): a compilation fails with what keeps the entry from being resolved,
or else with the first fault in the list, and if there is none, with nothing that is wrong with the
entry itself.
-/

set_option autoImplicit false

namespace Recipe

variable {registry : Registry} {options : Options} {provider : MetadataProvider}
  {entry : TemplateKey} {metadata : Option PackageMetadata} {policy : NeedsPolicy} {dag : Dag}
  {graph : Graph} {manifest : Manifest} {fault : Error}

/-! ## Faults of a graph -/

/-- A graph cannot be built if it cannot be resolved, or for the first of its faults. -/
theorem Dag.build_eq_error :
    dag.build registry policy = .error fault ↔
      dag.resolve registry policy = .error fault ∨
        ∃ graph, dag.resolve registry policy = .ok graph ∧
          ∃ rest, graph.faults dag.grouped = fault :: rest := by
  rw [build, bind_eq_error]
  refine or_congr_right (exists_congr fun graph => and_congr_right fun _ => ?_)
  cases graph.faults dag.grouped with
  | nil => simp [pure_ne_error]
  | cons first rest => simp [throw_eq_error]

theorem dryValidate_eq_ok {faults : List Error} :
    dryValidate registry options entry = .ok faults ↔
      ∃ dag, registry.dag entry = .ok dag ∧
        ∃ graph, dag.resolve registry options.needsPolicy = .ok graph ∧
          graph.faults dag.grouped = faults := by
  simp only [dryValidate, bind_eq_ok, pure_eq_ok]

theorem dryValidate_eq_error :
    dryValidate registry options entry = .error fault ↔
      registry.dag entry = .error fault ∨
        ∃ dag, registry.dag entry = .ok dag ∧
          dag.resolve registry options.needsPolicy = .error fault := by
  simp only [dryValidate, bind_eq_error, pure_ne_error, and_false, exists_false, or_false]

/-- **A dry validation finds nothing exactly if the entry can be built.** -/
theorem dryValidate_eq_nil :
    dryValidate registry options entry = .ok [] ↔
      ∃ graph, registry.Builds options.needsPolicy entry graph := by
  simp only [dryValidate_eq_ok, Registry.Builds, Dag.build_eq_ok]
  constructor
  · rintro ⟨dag, hdag, graph, hresolve, hfaults⟩
    exact ⟨graph, dag, hdag, hresolve, hfaults⟩
  · rintro ⟨graph, dag, hdag, hresolve, hfaults⟩
    exact ⟨dag, hdag, graph, hresolve, hfaults⟩

/-! ## Faults of a compilation -/

/-- With valid options a compilation fails in one of its steps: the entry is not there, its graph
cannot be built, what it depends on cannot be collected, or no pipeline can be made of both. -/
theorem compile_eq_error (hoptions : options.validate = .ok ()) :
    compile registry options provider entry metadata = .error fault ↔
      registry.dag entry = .error fault ∨ ∃ dag, registry.dag entry = .ok dag ∧
        (dag.build registry options.needsPolicy = .error fault ∨
          ∃ graph, dag.build registry options.needsPolicy = .ok graph ∧
            (collect registry (fun dag => dag.build registry options.needsPolicy) graph =
                .error fault ∨
              ∃ manifest, collect registry (fun dag => dag.build registry options.needsPolicy)
                  graph = .ok manifest ∧
                closedPipeline options provider dag.definition.package metadata graph manifest =
                  .error fault)) := by
  simp only [compile, compileWith, ofExcept_eq, hoptions, bind_eq_error, reduceCtorEq, false_or,
    true_and, exists_const]

theorem pipelineMetadata_eq_error {package : PackageId} :
    pipelineMetadata provider package metadata = .error fault ↔
      metadata = none ∧ provider package = .error fault := by
  cases metadata with
  | none =>
      simp only [pipelineMetadata, bind_eq_error, pure_ne_error, and_false, exists_false, or_false,
        true_and]
  | some given => simp [pipelineMetadata, pure_ne_error]

namespace Pipeline

theorem dependencyOn_eq_error {kind : DependencyKind} {package : PackageId} :
    dependencyOn options provider kind package = .error fault ↔ provider package = .error fault := by
  simp only [dependencyOn, bind_eq_error, pure_ne_error, and_false, exists_false, or_false]

/-- Nothing can be assembled if a name clashes or the provider fails. -/
theorem of_assemble_eq_error {found : PackageMetadata}
    (h : assemble options provider graph manifest found = .error fault) :
    (options.entryPoint ∈ manifest.dags.names ∧
        fault = .invalidTemplate options.entryPoint (.sharesEntryPoint options.entryPoint)) ∨
      ∃ package, (package ∈ manifest.plugins ∨ package ∈ manifest.recipes) ∧
        provider package = .error fault := by
  unfold assemble at h
  split at h
  · next hclash =>
      have hfault := throw_eq_error.mp h
      exact Or.inl ⟨Table.has_eq_true.mp hclash, hfault.symm⟩
  · simp only [bind_eq_error, pure_ne_error, and_false, exists_false, or_false] at h
    -- the provider is asked about the plugins first, and then about the recipes
    rcases h with hplugins | ⟨-, -, hrecipes⟩
    · obtain ⟨package, hmem, hfault⟩ := exists_of_mapM_eq_error hplugins
      exact Or.inr ⟨package, Or.inl hmem, dependencyOn_eq_error.mp hfault⟩
    · obtain ⟨package, hmem, hfault⟩ := exists_of_mapM_eq_error hrecipes
      exact Or.inr ⟨package, Or.inr hmem, dependencyOn_eq_error.mp hfault⟩

end Pipeline

/-- **What can be wrong with a compilation whose entry graph was built.** None of it is a fault of
the entry graph. -/
inductive LateFault (registry : Registry) (options : Options) (provider : MetadataProvider)
    (entry : TemplateKey) (metadata : Option PackageMetadata) (dag : Dag) (graph : Graph) :
    Error → Prop
  /-- A DAG that the entry reaches is not there, cannot be built or nests itself. -/
  | nested {fault : Error}
      (collecting : collect registry (fun dag => dag.build registry options.needsPolicy) graph =
        .error fault)
      (search : SearchFault registry options.needsPolicy id entry fault) :
      LateFault registry options provider entry metadata dag graph fault
  /-- No metadata is given, and the provider fails on the package of the entry. -/
  | metadata {fault : Error} (missing : metadata = none)
      (asked : provider dag.definition.package = .error fault) :
      LateFault registry options provider entry metadata dag graph fault
  /-- The provider fails on the package of a dependency. -/
  | dependency {manifest : Manifest} {package : PackageId} {fault : Error}
      (collected : collect registry (fun dag => dag.build registry options.needsPolicy) graph =
        .ok manifest)
      (depends : package ∈ manifest.plugins ∨ package ∈ manifest.recipes)
      (asked : provider package = .error fault) :
      LateFault registry options provider entry metadata dag graph fault
  /-- A nested DAG has the name of the entry point. -/
  | entryPoint {manifest : Manifest}
      (collected : collect registry (fun dag => dag.build registry options.needsPolicy) graph =
        .ok manifest)
      (clash : options.entryPoint ∈ manifest.dags.names) :
      LateFault registry options provider entry metadata dag graph
        (.invalidTemplate options.entryPoint (.sharesEntryPoint options.entryPoint))

/-- A collected graph makes no pipeline only for a late fault; the check of the finished pipeline
never fails. -/
theorem lateFault_of_closedPipeline (hdag : registry.dag entry = .ok dag)
    (hbuild : dag.build registry options.needsPolicy = .ok graph)
    (hcollect : collect registry (fun dag => dag.build registry options.needsPolicy) graph =
      .ok manifest)
    (h : closedPipeline options provider dag.definition.package metadata graph manifest =
      .error fault) :
    LateFault registry options provider entry metadata dag graph fault := by
  simp only [closedPipeline, bind_eq_error, pure_ne_error, and_false, exists_false, or_false] at h
  rcases h with hmetadata | ⟨found, -, hassemble | ⟨pipeline, hassemble, hclosed⟩⟩
  · obtain ⟨hmissing, hasked⟩ := pipelineMetadata_eq_error.mp hmetadata
    exact .metadata hmissing hasked
  · rcases Pipeline.of_assemble_eq_error hassemble with ⟨hclash, rfl⟩ | ⟨package, hmem, hasked⟩
    · exact .entryPoint hcollect hclash
    · exact .dependency hcollect hmem hasked
  · have hassembles := Pipeline.assembles_of_collect ⟨dag, hdag, hbuild⟩ hcollect hassemble
    rw [hassembles.ensureClosed] at hclosed
    cases hclosed

/-- **Once the entry graph is built, only a late fault is left.** -/
theorem lateFault_of_compile (hoptions : options.validate = .ok ())
    (hdag : registry.dag entry = .ok dag)
    (hbuild : dag.build registry options.needsPolicy = .ok graph)
    (h : compile registry options provider entry metadata = .error fault) :
    LateFault registry options provider entry metadata dag graph fault := by
  rw [compile_eq_error hoptions] at h
  rcases h with hmissing | ⟨found, hfound, h⟩
  · cases hmissing.symm.trans hdag
  obtain rfl := Except.ok.inj (hfound.symm.trans hdag)
  rcases h with hfails | ⟨built, hbuilt, h⟩
  · cases hfails.symm.trans hbuild
  obtain rfl := Except.ok.inj (hbuilt.symm.trans hbuild)
  rcases h with hcollect | ⟨manifest, hcollect, hclosed⟩
  · have hsearch : SearchFault registry options.needsPolicy id entry fault :=
      searchFault_of_collect ⟨found, hdag, hbuild⟩ (by simpa only [mapError_id] using hcollect)
    exact .nested hcollect hsearch
  · exact lateFault_of_closedPipeline hdag hbuild hcollect hclosed

/-! ## After every history -/

namespace History

namespace State

def validated (state : State) (name : String) (options : Options) (entry : TemplateKey) :
    Except Error (List Error) :=
  (state.run name fun registry =>
    MonadExcept.ofExcept (Recipe.dryValidate registry options entry)).1

/-- The verdict of a dry validation is that of a compilation. -/
structure Agrees (state : State) (name : String) (options : Options) (provider : MetadataProvider)
    (entry : TemplateKey) (metadata : Option PackageMetadata) : Prop where
  /-- What cannot be resolved cannot be compiled, for the same reason. -/
  unresolved : ∀ fault, state.validated name options entry = .error fault →
    state.compiled name options provider entry metadata = .error fault
  /-- Of several faults the first one is reported. -/
  first : ∀ fault rest, state.validated name options entry = .ok (fault :: rest) →
    state.compiled name options provider entry metadata = .error fault
  /-- Without faults the graph of the entry is there, and no fault is one of it. -/
  passed : state.validated name options entry = .ok [] →
    ∃ dag graph, (state.registry name).dag entry = .ok dag ∧
      (state.run name fun registry => Cached.graph registry options.needsPolicy dag).1 =
        .ok graph ∧
      ∀ fault, state.compiled name options provider entry metadata = .error fault →
        LateFault (state.registry name) options provider entry metadata dag graph fault

variable {state : State}

theorem Sound.validated_eq (h : state.Sound) (name : String) (options : Options)
    (entry : TemplateKey) :
    state.validated name options entry = dryValidate (state.registry name) options entry :=
  (h.run (Computes.ofExcept _)).1

theorem Sound.run_graph_of_dag (h : state.Sound) (name : String)
    (hdag : (state.registry name).dag entry = .ok dag) (policy : NeedsPolicy) :
    (state.run name fun registry => Cached.graph registry policy dag).1 =
      dag.build (state.registry name) policy := by
  exact (h.run_graph name (h.mem_dags hdag) policy).1

end State

/-- **Dry validation and compilation agree**, whatever was built, cached or compiled before. -/
theorem dryValidate_agrees (history : List Operation) (name : String) {options : Options}
    (hoptions : options.validate = .ok ()) (provider : MetadataProvider) (entry : TemplateKey)
    (metadata : Option PackageMetadata) :
    (after history).Agrees name options provider entry metadata := by
  have hsound := sound_after history
  refine { unresolved := ?_, first := ?_, passed := ?_ }
  · intro fault hfault
    rw [hsound.validated_eq, dryValidate_eq_error] at hfault
    rw [hsound.compiled_eq, compile_eq_error hoptions]
    rcases hfault with hmissing | ⟨dag, hdag, hresolve⟩
    · exact Or.inl hmissing
    · exact Or.inr ⟨dag, hdag, Or.inl (Dag.build_eq_error.mpr (Or.inl hresolve))⟩
  · intro fault rest hfaults
    rw [hsound.validated_eq, dryValidate_eq_ok] at hfaults
    obtain ⟨dag, hdag, graph, hresolve, hfirst⟩ := hfaults
    have hbuild := Dag.build_eq_error.mpr (Or.inr ⟨graph, hresolve, rest, hfirst⟩)
    rw [hsound.compiled_eq, compile_eq_error hoptions]
    exact Or.inr ⟨dag, hdag, Or.inl hbuild⟩
  · intro hnone
    rw [hsound.validated_eq, dryValidate_eq_nil] at hnone
    obtain ⟨graph, dag, hdag, hbuild⟩ := hnone
    refine ⟨dag, graph, hdag, ?_, ?_⟩
    · rw [hsound.run_graph_of_dag name hdag]
      exact hbuild
    · intro fault hfault
      rw [hsound.compiled_eq] at hfault
      exact lateFault_of_compile hoptions hdag hbuild hfault

/-- A provider that cannot be reached. -/
def unreachable : MetadataProvider := fun _ => .error (.execution "unreachable")

/-- A function of the boats that cannot run without an input. -/
def chore (name input : String) : Function where
  definition := { setSail.definition with name, inputs := [.make input .string] }
  body := .command "sail"

/-- A history with a DAG that binds no inputs, though two of its tasks cannot run without. -/
def mooringHistory : List Operation :=
  ferryHistory ++
    [.registerFunction "main" (chore "tie-up" "rope"),
     .registerFunction "main" (chore "refuel" "fuel"),
     .declare (leg ⟨"journeys", "moor"⟩
       [(chore "tie-up" "rope").key, setSail.key, (chore "refuel" "fuel").key]),
     .registerDag "main" 4]

/-- Nothing is wrong with the graph of the first entry, but without the provider it does not compile.
A function is no entry, and both say so. Two tasks of the last entry have unbound inputs, and the
compilation stops at the first of them. -/
theorem ferryHistory_agrees :
    ((after ferryHistory).validated "main" {} ⟨"journeys", "leave"⟩).toOption.map List.length =
      some 0 ∧
    ((after ferryHistory).compiled "main" {} unreachable ⟨"journeys", "leave"⟩ none).isOk =
      false ∧
    (after ferryHistory).Agrees "main" {} unreachable ⟨"journeys", "leave"⟩ none ∧
    ((after ferryHistory).validated "main" {} setSail.key).isOk = false ∧
    (after ferryHistory).Agrees "main" {} unreachable setSail.key none ∧
    (after mooringHistory).validated "main" {} ⟨"journeys", "moor"⟩ =
      .ok [.missingArgument "tie-up" "tie-up" ["rope"],
        .missingArgument "refuel" "refuel" ["fuel"]] ∧
    (after mooringHistory).compiled "main" {} unreachable ⟨"journeys", "moor"⟩ none =
      .error (.missingArgument "tie-up" "tie-up" ["rope"]) ∧
    (after mooringHistory).Agrees "main" {} unreachable ⟨"journeys", "moor"⟩ none := by
  have hoptions : ({} : Options).validate = .ok () := by cbv
  have hmoor : (after mooringHistory).Agrees "main" {} unreachable ⟨"journeys", "moor"⟩ none :=
    dryValidate_agrees mooringHistory "main" hoptions unreachable ⟨"journeys", "moor"⟩ none
  have hfaults : (after mooringHistory).validated "main" {} ⟨"journeys", "moor"⟩ =
      .ok [.missingArgument "tie-up" "tie-up" ["rope"],
        .missingArgument "refuel" "refuel" ["fuel"]] := by cbv
  refine ⟨by cbv, by cbv, ?_, by cbv, ?_, hfaults, hmoor.first _ _ hfaults, hmoor⟩
  · exact dryValidate_agrees ferryHistory "main" hoptions unreachable ⟨"journeys", "leave"⟩ none
  · exact dryValidate_agrees ferryHistory "main" hoptions unreachable setSail.key none

end History

end Recipe
