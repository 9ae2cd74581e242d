import Recipe.GraphCache
import Recipe.Proofs.Collection

/-!
# Computing with a cache

A cache agrees with some DAGs and registries if each graph in it is what building the DAG anew in
the registry would give. Fetching a graph from such a cache gives just that, and leaves a cache
that agrees again. So does every computation that uses the cache only to fetch graphs.
-/

set_option autoImplicit false

namespace Recipe

/-! ## Agreement -/

/-- The DAGs and the named registries there are, and the next identity to give out. -/
structure Census where
  dags : List Dag := []
  registries : Table Registry := []
  nextId : Nat := 1

/-- The templates of a registry have distinct keys, and its DAGs are among some that there are. -/
structure Registry.DrawsOn (registry : Registry) (dags : List Dag) : Prop where
  keys : registry.keys.Nodup
  dags : ∀ dag, Template.dag dag ∈ registry.templates → dag ∈ dags

/-- No identity was given out twice, each DAG was built from a draft, and only DAGs there are have
been registered. -/
structure Census.Consistent (census : Census) : Prop where
  dags_built : ∀ dag ∈ census.dags, ∃ draft : DagDraft, draft.build = .ok dag
  dags_old : ∀ dag ∈ census.dags, dag.id < census.nextId
  dags_unique : ∀ dag ∈ census.dags, ∀ other ∈ census.dags, dag.id = other.id → dag = other
  names : census.registries.names.Nodup
  registries_old : ∀ entry ∈ census.registries, entry.2.id < census.nextId
  registries_unique : ∀ entry ∈ census.registries, ∀ other ∈ census.registries,
    entry.2.id = other.2.id → entry = other
  drawn : ∀ entry ∈ census.registries, entry.2.DrawsOn census.dags

/-- **Each graph in a cache is that of its DAG in its registry**, as far as there still are both. -/
structure GraphCache.Agrees (cache : GraphCache) (census : Census) : Prop where
  old : ∀ key slot, (key, slot) ∈ cache.slots →
    key.dag < census.nextId ∧ slot.owner < census.nextId
  graph : ∀ key slot, (key, slot) ∈ cache.slots → ∀ dag ∈ census.dags, dag.id = key.dag →
    ∀ entry ∈ census.registries, entry.2.id = slot.owner →
      dag.build entry.2 key.policy = .ok slot.built.graph

namespace GraphCache.Agrees

variable {cache : GraphCache} {census : Census} {dag : Dag} {name : String} {registry : Registry}

/-- The number of builds is no matter of agreement. -/
theorem count (h : cache.Agrees census) (builds : Nat) :
    ({ cache with builds } : GraphCache).Agrees census :=
  ⟨h.old, h.graph⟩

theorem insert (h : cache.Agrees census) (hconsistent : census.Consistent)
    (hdag : dag ∈ census.dags) (hregistry : (name, registry) ∈ census.registries)
    {policy : NeedsPolicy} {built : BuiltGraph}
    (hbuild : dag.build registry policy = .ok built.graph) :
    ({ cache with slots := (⟨dag.id, policy⟩, ⟨registry.id, built⟩) :: cache.slots } :
      GraphCache).Agrees census where
  old := by
    intro key slot hmem
    rcases List.mem_cons.mp hmem with heq | hmem
    · obtain ⟨rfl, rfl⟩ := Prod.mk.inj heq
      exact ⟨hconsistent.dags_old dag hdag, hconsistent.registries_old _ hregistry⟩
    · exact h.old key slot hmem
  graph := by
    intro key slot hmem other hother hid entry hentry howner
    rcases List.mem_cons.mp hmem with heq | hmem
    -- identities are distinct, so the new slot speaks of this DAG and this registry only
    · obtain ⟨rfl, rfl⟩ := Prod.mk.inj heq
      have hsame := hconsistent.registries_unique entry hentry _ hregistry howner
      rw [hconsistent.dags_unique other hother dag hdag hid, hsame]
      exact hbuild
    · exact h.graph key slot hmem other hother hid entry hentry howner

/-- **Fetching the graph of a DAG gives what building it anew gives**, and keeps the agreement. -/
theorem fetch (h : cache.Agrees census) (hconsistent : census.Consistent) (hdag : dag ∈ census.dags)
    (hregistry : (name, registry) ∈ census.registries) (policy : NeedsPolicy) :
    BuiltGraph.graph <$> (cache.fetch registry policy dag).1 = dag.build registry policy ∧
      (cache.fetch registry policy dag).2.Agrees census := by
  simp only [GraphCache.fetch]
  split
  · next slot hslot =>
      split
      · next howner =>
          -- a slot counts only if this registry owns it, and then agreement says what it holds
          have hmem := Table.mem_of_lookup hslot
          rw [h.graph _ _ hmem dag hdag rfl _ hregistry howner.symm]
          exact ⟨rfl, h⟩
      -- a slot that another registry owns is passed by, and is not overwritten
      · refine ⟨?_, h.count _⟩
        cases dag.build registry policy <;> rfl
  · cases hbuild : dag.build registry policy with
    | error fault => exact ⟨rfl, h⟩
    | ok graph => exact ⟨rfl, (h.insert hconsistent hdag hregistry hbuild).count _⟩

end GraphCache.Agrees

/-! ## Computations -/

/-- A computation has an outcome with every cache that agrees, and the cache agrees afterwards. -/
def Computes {α : Type} (census : Census) (computation : Cached α) (outcome : Except Error α) :
    Prop :=
  ∀ cache : GraphCache, cache.Agrees census →
    (computation.run cache).1 = outcome ∧ (computation.run cache).2.Agrees census

namespace Computes

variable {α β : Type} {census : Census}

theorem pure (a : α) : Computes census (Pure.pure a) (Pure.pure a) :=
  fun _ h => ⟨rfl, h⟩

theorem throw (fault : Error) :
    Computes census (MonadExcept.throw fault : Cached α) (.error fault) :=
  fun _ h => ⟨rfl, h⟩

theorem ofExcept (outcome : Except Error α) :
    Computes census (MonadExcept.ofExcept outcome) outcome := by
  cases outcome with
  | error fault => exact throw fault
  | ok a => exact pure a

theorem bind {first : Cached α} {outcome : Except Error α} {next : α → Cached β}
    {following : α → Except Error β} (hfirst : Computes census first outcome)
    (hnext : ∀ a, outcome = .ok a → Computes census (next a) (following a)) :
    Computes census (first >>= next) (outcome >>= following) := by
  intro cache h
  obtain ⟨houtcome, hagrees⟩ := hfirst cache h
  -- the cache is handed on even when the first computation fails
  have hrun : (first >>= next).run cache =
      ExceptT.bindCont next (first.run cache).1 (first.run cache).2 := rfl
  rw [hrun, houtcome]
  cases outcome with
  | error fault => exact ⟨rfl, hagrees⟩
  | ok a => exact hnext a rfl _ hagrees

theorem graph (hconsistent : census.Consistent) {dag : Dag} (hdag : dag ∈ census.dags)
    {name : String} {registry : Registry} (hregistry : (name, registry) ∈ census.registries)
    (policy : NeedsPolicy) :
    Computes census (Cached.graph registry policy dag) (dag.build registry policy) := by
  intro cache h
  obtain ⟨hgraph, hagrees⟩ := h.fetch hconsistent hdag hregistry policy
  rw [← hgraph]
  have hrun : (Cached.graph registry policy dag).run cache =
      (BuiltGraph.graph <$> (cache.fetch registry policy dag).1,
        (cache.fetch registry policy dag).2) := by
    rw [Cached.graph, ExceptT.run_map]
    rfl
  rw [hrun]
  exact ⟨rfl, hagrees⟩

variable {registry : Registry} {policy : NeedsPolicy}

/-- **What tasks depend on is collected alike, however the graphs of nested DAGs are computed.** -/
theorem collectTasks (hgraph : ∀ key dag, registry.dag key = .ok dag →
      Computes census (Cached.graph registry policy dag) (dag.build registry policy))
    (stack : List TemplateKey) (package : PackageId) (tasks : List GraphTask)
    (manifest : Manifest) :
    Computes census
      (Recipe.collectTasks registry (Cached.graph registry policy) stack package tasks manifest)
      (Recipe.collectTasks registry (fun dag => dag.build registry policy) stack package tasks
        manifest) := by
  fun_induction Recipe.collectTasks registry (fun dag => dag.build registry policy) stack package
    tasks manifest with
  | case1 stack package manifest =>
      rw [Recipe.collectTasks]
      exact pure manifest
  | case2 stack package manifest task rest hroute ih =>
      rw [Recipe.collectTasks, hroute]
      exact ih
  | case3 stack package manifest task rest hroute ih =>
      rw [Recipe.collectTasks, hroute]
      exact ih
  | case4 stack package manifest task rest hroute key hstack =>
      rw [collectTasks_cycle hroute hstack]
      exact throw _
  | case5 stack package manifest task rest hroute key hstack hhas =>
      rename_i ih
      rw [collectTasks_known hroute hstack hhas]
      exact ih
  | case6 stack package manifest task rest hroute key hstack hhas fault hdag =>
      rw [collectTasks_fault hroute hstack hhas hdag]
      exact throw fault
  | case7 stack package manifest task rest hroute key hstack hhas dag hdag _ ihinner =>
      rename_i ihrest
      rw [collectTasks_nested hroute hstack hhas hdag]
      refine (hgraph _ dag hdag).bind fun nested _ => ?_
      exact (ihinner nested).bind fun manifest _ => ihrest manifest

end Computes

/-! ## Computations in a registry -/

namespace Census.Consistent

variable {census : Census} {name : String} {registry : Registry}

theorem computes_graph (hconsistent : census.Consistent)
    (hregistry : (name, registry) ∈ census.registries) (policy : NeedsPolicy) (key : TemplateKey)
    (dag : Dag) (hdag : registry.dag key = .ok dag) :
    Computes census (Cached.graph registry policy dag) (dag.build registry policy) :=
  .graph hconsistent ((hconsistent.drawn _ hregistry).dags dag (Registry.mem_of_dag hdag))
    hregistry policy

/-- What a DAG depends on is collected alike, with the cache or without. -/
theorem computes_collect (hconsistent : census.Consistent) {dag : Dag} (hdag : dag ∈ census.dags)
    (hregistry : (name, registry) ∈ census.registries) (policy : NeedsPolicy) :
    Computes census (Cached.collect registry policy dag)
      (dag.build registry policy >>= collect registry fun dag => dag.build registry policy) := by
  have hgraph := hconsistent.computes_graph hregistry policy
  refine (Computes.graph hconsistent hdag hregistry policy).bind fun graph _ => ?_
  exact .collectTasks hgraph _ _ _ _

/-- **A pipeline is compiled alike, with the cache or with every graph built anew.** -/
theorem computes_compile (hconsistent : census.Consistent)
    (hregistry : (name, registry) ∈ census.registries) (options : Options)
    (provider : MetadataProvider) (entry : TemplateKey) (metadata : Option PackageMetadata) :
    Computes census (Cached.compile registry options provider entry metadata)
      (compile registry options provider entry metadata) := by
  have hgraph := hconsistent.computes_graph hregistry options.needsPolicy
  simp only [Cached.compile, compile, compileWith, ofExcept_eq]
  refine (Computes.ofExcept _).bind fun _ _ => ?_
  refine (Computes.ofExcept _).bind fun dag hdag => ?_
  refine (hgraph entry dag hdag).bind fun graph _ => ?_
  refine (Computes.collectTasks hgraph _ _ _ _).bind fun manifest _ => ?_
  exact Computes.ofExcept _

theorem computes_publish (hconsistent : census.Consistent)
    (hregistry : (name, registry) ∈ census.registries) (options : Options)
    (provider : MetadataProvider) (publisher : Pipeline → String → Except Error Unit)
    (entry : TemplateKey) (description : String) :
    Computes census (Cached.publish registry options provider publisher entry description) (do
      let pipeline ← compile registry options provider entry none
      publisher pipeline description
      return pipeline) := by
  refine (hconsistent.computes_compile hregistry options provider entry none).bind
    fun pipeline _ => ?_
  exact (Computes.ofExcept _).bind fun _ _ => .pure pipeline

end Census.Consistent

end Recipe
