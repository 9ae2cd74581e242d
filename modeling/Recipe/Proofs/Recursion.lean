import Recipe.Proofs.Nesting
import Recipe.Proofs.TaskGraph.Cycle
import Mathlib.Data.List.Perm.Subperm

/-!
# Recursion among DAGs

DAGs may run each other in any pattern, themselves included. The search for what a graph depends on
comes to an end all the same, and its stack has never more DAGs than are registered. It fails at a
DAG that runs itself through others, and what it reports then is a cycle that there is.
-/

set_option autoImplicit false

namespace Recipe

open Relation

/-! ## Depth -/

def Registry.dags (registry : Registry) : List Dag :=
  registry.templates.filterMap fun
    | .dag dag => some dag
    | .function _ => none

theorem Registry.mem_dags {registry : Registry} {dag : Dag} :
    dag ∈ registry.dags ↔ Template.dag dag ∈ registry.templates := by
  rw [dags, List.mem_filterMap]
  constructor
  · rintro ⟨template, htemplate, h⟩
    cases template with
    | function run => cases h
    | dag found =>
        obtain rfl := Option.some.inj h
        exact htemplate
  · intro h
    exact ⟨.dag dag, h, rfl⟩

theorem Registry.key_of_dag {registry : Registry} {key : TemplateKey} {dag : Dag}
    (h : registry.dag key = .ok dag) : dag.key = key :=
  key_of_get (dag_eq_ok.mp h)

theorem room_append_lt {limit : Nat} {stack : List TemplateKey} {key : TemplateKey}
    (h : stack.length < limit) : limit - (stack ++ [key]).length < limit - stack.length := by
  rw [List.length_append, List.length_singleton]
  omega

section Within

variable {m : Type → Type} [Monad m] [MonadExcept Error m]

/-- The search with room for only so many DAGs on its stack: instead of putting one more there it
gives up, with `full`. -/
def collectTasksWithin (limit : Nat) (full : m Manifest) (registry : Registry)
    (graphOf : Dag → m Graph) (stack : List TemplateKey) (package : PackageId)
    (tasks : List GraphTask) (manifest : Manifest) : m Manifest :=
  match tasks with
  | [] => pure manifest
  | task :: rest =>
      match task.target.route package with
      | .plugin =>
          collectTasksWithin limit full registry graphOf stack package rest
            (manifest.withPlugin task.target.package)
      | .recipe =>
          collectTasksWithin limit full registry graphOf stack package rest
            (manifest.withRecipe task.target.package)
      | .nested =>
          let key := task.target.key
          if key ∈ stack then throw (Error.cyclicDependency (cycleOn stack key))
          else if manifest.dags.has key.name then
            collectTasksWithin limit full registry graphOf stack package rest manifest
          else
            match registry.dag key with
            | .error fault => throw fault
            | .ok dag =>
                if hroom : stack.length < limit then do
                  have : limit - (stack ++ [key]).length < limit - stack.length :=
                    room_append_lt hroom
                  let nested ← graphOf dag
                  let manifest ← collectTasksWithin limit full registry graphOf (stack ++ [key])
                    nested.package nested.tasks (manifest.withDag key.name nested)
                  collectTasksWithin limit full registry graphOf stack package rest manifest
                else full
termination_by (limit - stack.length, tasks.length)
decreasing_by
  · exact Prod.Lex.right _ (by simp)
  · exact Prod.Lex.right _ (by simp)
  · exact Prod.Lex.right _ (by simp)
  · exact Prod.Lex.left _ _ this
  · exact Prod.Lex.right _ (by simp)

/-- What a graph depends on, with room for only so many DAGs on the stack. -/
def collectWithin (limit : Nat) (full : m Manifest) (registry : Registry)
    (graphOf : Dag → m Graph) (graph : Graph) : m Manifest :=
  collectTasksWithin limit full registry graphOf [graph.key] graph.package graph.tasks {}

/-- Distinct keys of registered DAGs are not more than there are DAGs. -/
theorem Registry.length_le_dags {registry : Registry} {keys : List TemplateKey}
    (hdistinct : keys.Nodup) (hdags : ∀ key ∈ keys, ∃ dag, registry.dag key = .ok dag) :
    keys.length ≤ registry.dags.length := by
  have hsubset : keys ⊆ registry.dags.map Dag.key := by
    intro key hkey
    obtain ⟨dag, hdag⟩ := hdags key hkey
    exact List.mem_map.mpr ⟨dag, mem_dags.mpr (mem_of_dag hdag), key_of_dag hdag⟩
  have hle := (List.subperm_of_subset hdistinct hsubset).length_le
  rwa [List.length_map] at hle

/-- **The stack of the search has room enough with a place for each registered DAG.** -/
theorem collectTasksWithin_eq {registry : Registry} {graphOf : Dag → m Graph}
    {stack : List TemplateKey} {package : PackageId} {tasks : List GraphTask} {manifest : Manifest}
    (full : m Manifest) (hdistinct : stack.Nodup)
    (hdags : ∀ key ∈ stack, ∃ dag, registry.dag key = .ok dag) :
    collectTasksWithin registry.dags.length full registry graphOf stack package tasks manifest =
      collectTasks registry graphOf stack package tasks manifest := by
  fun_induction collectTasks registry graphOf stack package tasks manifest with
  | case1 => rw [collectTasksWithin]
  | case2 stack package manifest task rest hroute ih =>
      rw [collectTasksWithin, hroute]
      exact ih hdistinct hdags
  | case3 stack package manifest task rest hroute ih =>
      rw [collectTasksWithin, hroute]
      exact ih hdistinct hdags
  | case4 stack package manifest task rest hroute key hstack =>
      rw [collectTasksWithin, hroute]
      exact if_pos hstack
  | case5 stack package manifest task rest hroute key hstack hhas =>
      rename_i ih
      rw [collectTasksWithin, hroute]
      simp only [key] at hstack hhas
      simp only [if_neg hstack, if_pos hhas]
      exact ih hdistinct hdags
  | case6 stack package manifest task rest hroute key hstack hhas fault hdag =>
      rw [collectTasksWithin, hroute]
      simp only [key] at hstack hhas hdag
      simp only [if_neg hstack, if_neg hhas, hdag]
  | case7 stack package manifest task rest hroute key hstack hhas dag hdag _ ihinner =>
      rename_i ihrest
      -- the DAG that is put on the stack is registered and not yet there, so there was room for it
      have hpushed : (stack ++ [key]).Nodup := List.concat_eq_append ▸ hdistinct.concat hstack
      have hregistered : ∀ other ∈ stack ++ [key], ∃ dag, registry.dag other = .ok dag := by
        intro other hother
        rcases List.mem_append.mp hother with hother | hother
        · exact hdags other hother
        · exact ⟨dag, List.mem_singleton.mp hother ▸ hdag⟩
      have hroom : stack.length < registry.dags.length := by
        have hle := Registry.length_le_dags hpushed hregistered
        rw [List.length_append, List.length_singleton] at hle
        omega
      rw [collectTasksWithin, hroute]
      simp only [key] at hstack hhas hdag
      simp only [if_neg hstack, if_neg hhas, hdag, dif_pos hroom]
      refine congrArg (graphOf dag >>= ·) (funext fun nested => ?_)
      rw [ihinner nested hpushed hregistered]
      exact congrArg (_ >>= ·) (funext fun manifest => ihrest manifest hdistinct hdags)

theorem collectWithin_eq {registry : Registry} {graphOf : Dag → m Graph} {graph : Graph}
    (full : m Manifest) (hdag : ∃ dag, registry.dag graph.key = .ok dag) :
    collectWithin registry.dags.length full registry graphOf graph =
      collect registry graphOf graph := by
  refine collectTasksWithin_eq full (List.nodup_singleton _) ?_
  intro key hkey
  rw [List.mem_singleton.mp hkey]
  exact hdag

end Within

/-! ## Cycles -/

variable {registry : Registry} {policy : NeedsPolicy} {start key : TemplateKey}

/-- The names of DAGs that nest each other in a cycle which is reached from a DAG. -/
structure NestingCycle (registry : Registry) (policy : NeedsPolicy) (start : TemplateKey)
    (path : List String) : Prop where
  /-- Each DAG nests the next one. -/
  chain : path.IsChain fun name next =>
    registry.Nests policy ⟨start.package, name⟩ ⟨start.package, next⟩
  /-- The last one is the first one again, and no other is there twice. -/
  closed : ∃ first inner, path = first :: inner ++ [first] ∧ (first :: inner).Nodup
  /-- All of them are reached. -/
  reached : ∀ name ∈ path, ReflTransGen (registry.Nests policy) start ⟨start.package, name⟩

theorem NestingCycle.exists_transGen {path : List String}
    (h : NestingCycle registry policy start path) :
    ∃ other, ReflTransGen (registry.Nests policy) start other ∧
      TransGen (registry.Nests policy) other other := by
  obtain ⟨first, inner, rfl, -⟩ := h.closed
  refine ⟨⟨start.package, first⟩, h.reached first (by simp), ?_⟩
  have hcycle := TaskGraph.transGen_of_isChain h.chain
  exact TransGen.lift (fun name => (⟨start.package, name⟩ : TemplateKey)) (fun _ _ hnests => hnests)
    _ _ hcycle

/-- The stack of a search that has come from one DAG to another: each of its DAGs nests the next
one, and none is there twice. -/
structure Searching (registry : Registry) (policy : NeedsPolicy) (start : TemplateKey)
    (stack : List TemplateKey) (current : TemplateKey) : Prop where
  chain : stack.IsChain (registry.Nests policy)
  distinct : stack.Nodup
  last : stack.getLast? = some current
  reached : ∀ key ∈ stack, ReflTransGen (registry.Nests policy) start key

namespace Searching

variable {stack : List TemplateKey} {current : TemplateKey}

theorem initial (start : TemplateKey) : Searching registry policy start [start] start where
  chain := List.isChain_singleton start
  distinct := List.nodup_singleton start
  last := rfl
  reached := by
    intro key hkey
    rw [List.mem_singleton.mp hkey]

/-- The search goes on to the DAGs that the last one nests. -/
theorem isChain_append (h : Searching registry policy start stack current)
    (hnests : registry.Nests policy current key) :
    (stack ++ [key]).IsChain (registry.Nests policy) := by
  rw [List.isChain_append]
  refine ⟨h.chain, List.isChain_singleton key, ?_⟩
  rintro last hlast _ ⟨rfl⟩
  obtain rfl := Option.some.inj (h.last.symm.trans hlast)
  exact hnests

theorem reaches (h : Searching registry policy start stack current)
    (hnests : registry.Nests policy current key) :
    TransGen (registry.Nests policy) start key :=
  TransGen.tail' (h.reached current (List.mem_of_getLast? h.last)) hnests

theorem reached_append (h : Searching registry policy start stack current)
    (hnests : registry.Nests policy current key) :
    ∀ other ∈ stack ++ [key], ReflTransGen (registry.Nests policy) start other := by
  intro other hother
  rcases List.mem_append.mp hother with hother | hother
  · exact h.reached other hother
  · rw [List.mem_singleton.mp hother]
    exact (h.reaches hnests).to_reflTransGen

theorem push (h : Searching registry policy start stack current)
    (hnests : registry.Nests policy current key) (hnew : key ∉ stack) :
    Searching registry policy start (stack ++ [key]) key where
  chain := h.isChain_append hnests
  distinct := List.concat_eq_append ▸ h.distinct.concat hnew
  last := List.getLast?_concat
  reached := h.reached_append hnests

end Searching

theorem key_eq_of_reaches (h : ReflTransGen (registry.Nests policy) start key) :
    (⟨start.package, key.name⟩ : TemplateKey) = key := by
  rw [← Registry.key_package_of_reaches h]

/-- The cycle that is reported is the part of the stack from the place of the key on. -/
theorem cycleOn_append {before rest : List TemplateKey} (h : key ∉ before) :
    cycleOn (before ++ key :: rest) key = (key :: rest ++ [key]).map (·.name) := by
  have hbefore : ∀ other ∈ before, decide (other ≠ key) = true := by
    intro other hother
    rw [decide_eq_true_eq]
    rintro rfl
    exact h hother
  rw [cycleOn, List.dropWhile_append_of_pos hbefore, List.dropWhile_cons_of_neg (by simp),
    List.map_append, List.map_singleton]

/-- **What is reported as a cycle is one.** -/
theorem Searching.nestingCycle {stack : List TemplateKey} {current : TemplateKey}
    (h : Searching registry policy start stack current)
    (hnests : registry.Nests policy current key) (hmem : key ∈ stack) :
    NestingCycle registry policy start (cycleOn stack key) := by
  have hchain := h.isChain_append hnests
  have hreached := h.reached_append hnests
  obtain ⟨before, rest, rfl, hbefore⟩ := List.eq_append_cons_of_mem hmem
  have hdistinct := (List.nodup_append.mp h.distinct).2.1
  rw [List.append_assoc] at hchain hreached
  have hpart : ∀ other ∈ key :: rest ++ [key], ReflTransGen (registry.Nests policy) start other :=
    fun other hother => hreached other (List.mem_append_right before hother)
  rw [cycleOn_append hbefore]
  refine ⟨?_, ⟨key.name, rest.map (·.name), by simp, ?_⟩, ?_⟩
  · rw [List.isChain_map]
    refine hchain.right_of_append.imp_of_mem_imp fun first second hfirst hsecond hstep => ?_
    rw [key_eq_of_reaches (hpart first hfirst), key_eq_of_reaches (hpart second hsecond)]
    exact hstep
  -- keys of one package are told apart by their names
  · refine List.Nodup.map_on (l := key :: rest) ?_ hdistinct
    intro first hfirst second hsecond hname
    rw [← key_eq_of_reaches (hpart first (List.mem_append_left _ hfirst)),
      ← key_eq_of_reaches (hpart second (List.mem_append_left _ hsecond)), hname]
  · intro name hname
    obtain ⟨other, hother, rfl⟩ := List.mem_map.mp hname
    rw [key_eq_of_reaches (hpart other hother)]
    exact hpart other hother

/-! ## Faults -/

theorem Registry.dag_ne_cyclicDependency {path : List String}
    (h : registry.dag key = .error (.cyclicDependency path)) : False := by
  unfold Registry.dag Registry.get at h
  cases hfind : registry.find? key with
  | none =>
      rw [hfind] at h
      cases h
  | some template =>
      rw [hfind] at h
      cases template <;> cases h

/-- Where a fault of a search comes from whose builds have their faults marked. -/
inductive SearchFault (registry : Registry) (policy : NeedsPolicy) (mark : Error → Error)
    (start : TemplateKey) : Error → Prop
  /-- A DAG that is reached is not there. -/
  | lookup {key : TemplateKey} {fault : Error}
      (reached : TransGen (registry.Nests policy) start key)
      (missing : registry.dag key = .error fault) : SearchFault registry policy mark start fault
  /-- A DAG that is reached cannot be built. -/
  | build {key : TemplateKey} {dag : Dag} {cause : Error}
      (reached : TransGen (registry.Nests policy) start key) (found : registry.dag key = .ok dag)
      (fails : dag.build registry policy = .error cause) :
      SearchFault registry policy mark start (mark cause)
  /-- DAGs that are reached nest each other in a cycle. -/
  | cycle {path : List String} (nests : NestingCycle registry policy start path) :
      SearchFault registry policy mark start (.cyclicDependency path)

/-- Only a cycle and the fault of a build are reported as a cycle. -/
theorem SearchFault.cycle_or_build {mark : Error → Error} {path : List String}
    (h : SearchFault registry policy mark start (.cyclicDependency path)) :
    NestingCycle registry policy start path ∨
      ∃ other dag cause, TransGen (registry.Nests policy) start other ∧
        registry.dag other = .ok dag ∧ dag.build registry policy = .error cause ∧
        mark cause = .cyclicDependency path := by
  generalize hfault : Error.cyclicDependency path = fault at h
  cases h with
  | lookup _ hmissing =>
      subst hfault
      exact (Registry.dag_ne_cyclicDependency hmissing).elim
  | build hreaches hdag hfails => exact Or.inr ⟨_, _, _, hreaches, hdag, hfails, rfl⟩
  | cycle hnests =>
      obtain rfl := Error.cyclicDependency.inj hfault
      exact Or.inl hnests

/-- **The search fails only for a reason.** -/
theorem searchFault_of_collectTasks {mark : Error → Error} {current : TemplateKey}
    {stack : List TemplateKey} {package : PackageId} {tasks : List GraphTask} {manifest : Manifest}
    {fault : Error} (htasks : TasksOf registry policy current package tasks)
    (hsearching : Searching registry policy start stack current)
    (h : collectTasks registry (fun dag => (dag.build registry policy).mapError mark) stack package
      tasks manifest = .error fault) : SearchFault registry policy mark start fault := by
  fun_induction collectTasks registry (fun dag => (dag.build registry policy).mapError mark) stack
    package tasks manifest generalizing current with
  | case1 => exact (pure_ne_error.mp h).elim
  | case2 stack package manifest task rest hroute ih => exact ih htasks.tail hsearching h
  | case3 stack package manifest task rest hroute ih => exact ih htasks.tail hsearching h
  | case4 stack package manifest task rest hroute inner =>
      rename_i hstack
      obtain rfl := throw_eq_error.mp h
      exact .cycle (hsearching.nestingCycle (htasks.nests hroute) hstack)
  | case5 stack package manifest task rest hroute inner hstack hhas =>
      rename_i ih
      exact ih htasks.tail hsearching h
  | case6 stack package manifest task rest hroute inner hstack hhas found =>
      rename_i hdag
      obtain rfl := throw_eq_error.mp h
      exact .lookup (hsearching.reaches (htasks.nests hroute)) hdag
  | case7 stack package manifest task rest hroute inner hstack hhas dag hdag _ ihinner =>
      rename_i ihrest
      have hnests := htasks.nests hroute
      simp only [bind_eq_error, mapError_eq_ok, mapError_eq_error] at h
      rcases h with ⟨cause, hbuild, rfl⟩ | ⟨graph, hbuild, hinner | ⟨middle, -, hrest⟩⟩
      · exact .build (hsearching.reaches hnests) hdag hbuild
      · exact ihinner graph (.of_builds ⟨dag, hdag, hbuild⟩) (hsearching.push hnests hstack) hinner
      · exact ihrest middle htasks.tail hsearching hrest

variable {graph : Graph}

theorem searchFault_of_collect {mark : Error → Error} {fault : Error}
    (hbuild : registry.Builds policy key graph)
    (h : collect registry (fun dag => (dag.build registry policy).mapError mark) graph =
      .error fault) : SearchFault registry policy mark key fault := by
  refine searchFault_of_collectTasks (.of_builds hbuild) ?_ h
  rw [hbuild.key_eq]
  exact .initial key

/-! ## Success -/

/-- No way along nested DAGs that leads out of a DAG goes on forever. -/
def Grounded (registry : Registry) (policy : NeedsPolicy) (key : TemplateKey) : Prop :=
  Acc (fun other key => registry.Nests policy key other) key

theorem Grounded.not_transGen (h : Grounded registry policy key) :
    ¬ TransGen (registry.Nests policy) key key := by
  induction h with
  | intro key _ ih =>
      intro hcycle
      -- the cycle goes through the next DAG too, which is grounded before this one
      obtain ⟨next, hnests, hback⟩ := TransGen.head'_iff.mp hcycle
      exact ih next hnests (TransGen.tail' hback hnests)

theorem Grounded.of_reaches {other : TemplateKey} (h : Grounded registry policy key)
    (hreaches : ReflTransGen (registry.Nests policy) key other) :
    Grounded registry policy other := by
  induction hreaches with
  | refl => exact h
  | tail _ hnests ih => exact ih.inv hnests

/-- A DAG is grounded if those are that its tasks run. -/
theorem grounded_of_builds (hbuild : registry.Builds policy key graph)
    (h : ∀ task ∈ graph.tasks, task.target.route graph.package = .nested →
      Grounded registry policy task.target.key) : Grounded registry policy key := by
  refine Acc.intro key ?_
  rintro _ ⟨found, hfound, _, ⟨task, htask, rfl⟩, hkind, hpackage, rfl⟩
  obtain rfl := hbuild.unique hfound
  exact h task htask (Definition.route_eq_nested.mpr ⟨hkind, hpackage⟩)

/-- Each DAG in a manifest is still being searched or is grounded. -/
def Manifest.Settled (manifest : Manifest) (registry : Registry) (policy : NeedsPolicy)
    (package : PackageId) (stack : List TemplateKey) : Prop :=
  ∀ name ∈ manifest.dags.names,
    (⟨package.name, name⟩ : TemplateKey) ∈ stack ∨ Grounded registry policy ⟨package.name, name⟩

/-- **A search that succeeds grounds all that it goes through.** A DAG that it passes by, because it
is in the manifest, is not on the stack and so has been grounded before. -/
theorem grounded_of_collectTasks {current : TemplateKey} {stack : List TemplateKey}
    {package : PackageId} {tasks : List GraphTask} {manifest result : Manifest}
    (htasks : TasksOf registry policy current package tasks)
    (hsettled : manifest.Settled registry policy package stack)
    (h : collectTasks registry (fun dag => dag.build registry policy) stack package tasks manifest =
      .ok result) :
    result.Settled registry policy package stack ∧
      ∀ task ∈ tasks, task.target.route package = .nested →
        Grounded registry policy task.target.key := by
  fun_induction collectTasks registry (fun dag => dag.build registry policy) stack package tasks
    manifest generalizing result current with
  | case1 stack package manifest =>
      rw [pure_eq_ok] at h
      subst h
      exact ⟨hsettled, by simp⟩
  | case2 stack package manifest task rest hroute ih =>
      obtain ⟨hresult, hrest⟩ := ih htasks.tail hsettled h
      refine ⟨hresult, List.forall_mem_cons.mpr ⟨fun hnested => ?_, hrest⟩⟩
      cases hroute.symm.trans hnested
  | case3 stack package manifest task rest hroute ih =>
      obtain ⟨hresult, hrest⟩ := ih htasks.tail hsettled h
      refine ⟨hresult, List.forall_mem_cons.mpr ⟨fun hnested => ?_, hrest⟩⟩
      cases hroute.symm.trans hnested
  | case4 => exact (throw_ne_ok.mp h).elim
  | case5 stack package manifest task rest hroute inner hstack hhas =>
      rename_i ih
      obtain ⟨hresult, hrest⟩ := ih htasks.tail hsettled h
      refine ⟨hresult, List.forall_mem_cons.mpr ⟨fun _ => ?_, hrest⟩⟩
      have hknown := hsettled inner.name (Table.has_eq_true.mp hhas)
      rw [← TasksOf.key_eq hroute] at hknown
      exact hknown.resolve_left hstack
  | case6 => exact (throw_ne_ok.mp h).elim
  | case7 stack package manifest task rest hroute inner hstack hhas dag hdag _ ihinner =>
      rename_i ihrest
      simp only [bind_eq_ok] at h
      obtain ⟨graph, hbuild, middle, hinner, hrest⟩ := h
      have hbuilds : registry.Builds policy inner graph := ⟨dag, hdag, hbuild⟩
      have hpackage := htasks.nested_package hroute hbuilds
      -- while the nested DAG is searched it is on the stack; afterwards all that it nests is
      -- grounded, and so it is itself
      have hpushed : (manifest.withDag inner.name graph).Settled registry policy graph.package
          (stack ++ [inner]) := by
        intro name hname
        have hnew : inner.name ∉ manifest.dags.names := fun hmem =>
          hhas (Table.has_eq_true.mpr hmem)
        rw [hpackage]
        rcases (Manifest.mem_names_withDag hnew).mp hname with hname | rfl
        · exact (hsettled name hname).imp_left (List.mem_append_left _)
        · rw [← TasksOf.key_eq hroute]
          exact Or.inl List.mem_concat_self
      obtain ⟨hmiddle, hnested⟩ := ihinner graph (.of_builds hbuilds) hpushed hinner
      have hgrounded := grounded_of_builds hbuilds hnested
      have hpopped : middle.Settled registry policy package stack := by
        intro name hname
        rw [← hpackage]
        rcases hmiddle name hname with hmem | hname
        · rcases List.mem_append.mp hmem with hmem | hmem
          · exact Or.inl hmem
          · rw [List.mem_singleton.mp hmem]
            exact Or.inr hgrounded
        · exact Or.inr hname
      obtain ⟨hresult, hrest⟩ := ihrest middle htasks.tail hpopped hrest
      exact ⟨hresult, List.forall_mem_cons.mpr ⟨fun _ => hgrounded, hrest⟩⟩

/-- **A graph is collected exactly if all DAGs that it reaches can be built and none of them is
reached from itself.** -/
theorem exists_collect_iff (hbuild : registry.Builds policy key graph) :
    (∃ manifest, collect registry (fun dag => dag.build registry policy) graph = .ok manifest) ↔
      (∀ other, TransGen (registry.Nests policy) key other →
        ∃ nested, registry.Builds policy other nested) ∧
      ∀ other, ReflTransGen (registry.Nests policy) key other →
        ¬ TransGen (registry.Nests policy) other other := by
  constructor
  · rintro ⟨manifest, hcollect⟩
    constructor
    · intro other hreaches
      obtain ⟨nested, -, hnested⟩ := exists_mem_of_reaches hbuild hcollect hreaches
      exact ⟨nested, hnested⟩
    · intro other hreaches
      have hempty : ({} : Manifest).Settled registry policy graph.package [graph.key] := by
        intro name hname
        cases hname
      have hnested := (grounded_of_collectTasks (.of_builds hbuild) hempty hcollect).2
      exact ((grounded_of_builds hbuild hnested).of_reaches hreaches).not_transGen
  · rintro ⟨hbuilds, hacyclic⟩
    cases hcollect : collect registry (fun dag => dag.build registry policy) graph with
    | ok manifest => exact ⟨manifest, rfl⟩
    | error fault =>
        exfalso
        have hfault : SearchFault registry policy id key fault :=
          searchFault_of_collect hbuild (by simpa only [mapError_id] using hcollect)
        cases hfault with
        | lookup hreaches hmissing =>
            obtain ⟨nested, dag, hdag, -⟩ := hbuilds _ hreaches
            cases hmissing.symm.trans hdag
        | build hreaches hdag hfails =>
            obtain ⟨nested, found, hfound, hnested⟩ := hbuilds _ hreaches
            obtain rfl := Except.ok.inj (hdag.symm.trans hfound)
            cases hfails.symm.trans hnested
        | cycle hcycle =>
            obtain ⟨other, hreaches, hback⟩ := hcycle.exists_transGen
            exact hacyclic other hreaches hback

/-! ## After every history -/

/-- **What collecting the graph of a DAG comes to, however DAGs run each other.** -/
structure RecursionCaught (registry : Registry) (policy : NeedsPolicy) (key : TemplateKey)
    (graph : Graph) (outcome : Except Error Manifest) : Prop where
  /-- The search never wants to put more DAGs on its stack than are registered, in whatever way
  graphs are computed: it goes on the same whatever would be done then. -/
  bounded : ∀ {m : Type → Type} [Monad m] [MonadExcept Error m] (graphOf : Dag → m Graph)
    (full : m Manifest), collectWithin registry.dags.length full registry graphOf graph =
      collect registry graphOf graph
  /-- It succeeds exactly if all DAGs that are reached can be built and no cycle is. -/
  succeeds : (∃ manifest, outcome = .ok manifest) ↔
    (∀ other, TransGen (registry.Nests policy) key other →
      ∃ nested, registry.Builds policy other nested) ∧
    ∀ other, ReflTransGen (registry.Nests policy) key other →
      ¬ TransGen (registry.Nests policy) other other
  /-- A cycle that it reports is one of DAGs that nest each other, unless it is a fault of building
  a DAG. -/
  reported : ∀ path, outcome = .error (.cyclicDependency path) →
    NestingCycle registry policy key path ∨
      ∃ other dag, TransGen (registry.Nests policy) key other ∧ registry.dag other = .ok dag ∧
        dag.build registry policy = .error (.cyclicDependency path)
  /-- If the faults of building DAGs are replaced by others, a cycle that is reported can be none of
  them, and is one of DAGs that nest each other. -/
  truthful : ∀ (mark : Error → Error) path, (∀ cause, mark cause ≠ .cyclicDependency path) →
    collect registry (fun dag => (dag.build registry policy).mapError mark) graph =
      .error (.cyclicDependency path) → NestingCycle registry policy key path

namespace History

/-- **Recursion among DAGs is always caught, and reported as it is**, after any history and from
every registered DAG that can be built. -/
theorem recursion_caught (history : List Operation) (name : String) {policy : NeedsPolicy}
    {key : TemplateKey} {dag : Dag} {graph : Graph}
    (hdag : ((after history).registry name).dag key = .ok dag)
    (hbuild : dag.build ((after history).registry name) policy = .ok graph) :
    RecursionCaught ((after history).registry name) policy key graph
      ((after history).run name fun registry => Cached.collect registry policy dag).1 := by
  have hbuilds : ((after history).registry name).Builds policy key graph := ⟨dag, hdag, hbuild⟩
  rw [run_collect_eq history name hdag hbuild]
  refine
    { bounded := ?_
      succeeds := exists_collect_iff hbuilds
      reported := ?_
      truthful := ?_ }
  · intro m _ _ graphOf full
    refine collectWithin_eq full ⟨dag, ?_⟩
    rw [hbuilds.key_eq]
    exact hdag
  · intro path h
    have hfault : SearchFault ((after history).registry name) policy id key
        (.cyclicDependency path) :=
      searchFault_of_collect hbuilds (by simpa only [mapError_id] using h)
    rcases hfault.cycle_or_build with hcycle | ⟨other, found, _, hreaches, hfound, hfails, rfl⟩
    · exact Or.inl hcycle
    · exact Or.inr ⟨other, found, hreaches, hfound, hfails⟩
  · intro mark path hmark h
    rcases (searchFault_of_collect hbuilds h).cycle_or_build with
      hcycle | ⟨_, _, cause, -, -, -, hcause⟩
    · exact hcycle
    · exact (hmark cause hcause).elim

/-- The draft of a DAG under a key that runs some templates, in tasks with their names. -/
def leg (key : TemplateKey) (next : List TemplateKey) (id : Nat) : DagDraft :=
  { id
    name := key.name
    package := ⟨key.package, "1.0.0"⟩
    tasks := next.map fun other => .make other.name other }

/-- A history in which three DAGs are registered, of which the last two run each other. -/
def journeyHistory : List Operation :=
  [.declare (leg ⟨"journeys", "leave"⟩ [⟨"journeys", "there"⟩]),
   .declare (leg ⟨"journeys", "there"⟩ [⟨"journeys", "back"⟩]),
   .declare (leg ⟨"journeys", "back"⟩ [⟨"journeys", "there"⟩]),
   .registerDag "main" 0, .registerDag "main" 1, .registerDag "main" 2]

theorem journeyHistory_recursion_caught :
    ∃ dag graph, ((after journeyHistory).registry "main").dag ⟨"journeys", "leave"⟩ = .ok dag ∧
      dag.build ((after journeyHistory).registry "main") .infer = .ok graph ∧
      RecursionCaught ((after journeyHistory).registry "main") .infer ⟨"journeys", "leave"⟩ graph
        ((after journeyHistory).run "main" fun registry =>
          Cached.collect registry .infer dag).1 ∧
      NestingCycle ((after journeyHistory).registry "main") .infer ⟨"journeys", "leave"⟩
        ["there", "back", "there"] := by
  have hrun : (((after journeyHistory).registry "main").dag ⟨"journeys", "leave"⟩ >>= fun dag =>
      dag.build ((after journeyHistory).registry "main") .infer >>=
        collect ((after journeyHistory).registry "main") fun dag =>
          (dag.build ((after journeyHistory).registry "main") .infer).mapError
            fun _ => .configuration .blankEntryPoint) =
      .error (.cyclicDependency ["there", "back", "there"]) := by cbv
  have hbuilt : (((after journeyHistory).registry "main").dag ⟨"journeys", "leave"⟩ >>= fun dag =>
      dag.build ((after journeyHistory).registry "main") .infer).isOk = true := by cbv
  obtain ⟨graph, hgraph⟩ := exists_of_isOk hbuilt
  obtain ⟨dag, hdag, hbuild⟩ := bind_eq_ok.mp hgraph
  have hcaught := recursion_caught journeyHistory "main" hdag hbuild
  refine ⟨dag, graph, hdag, hbuild, hcaught, ?_⟩
  refine hcaught.truthful (fun _ => .configuration .blankEntryPoint) _ (by simp) ?_
  rw [hdag] at hrun
  replace hrun : (dag.build ((after journeyHistory).registry "main") .infer >>= _) = _ := hrun
  rw [hbuild] at hrun
  exact hrun

end History

end Recipe
