import Recipe.Proofs.Reachability

/-!
# Visiting nested DAGs again

The search for what a graph depends on passes by a DAG that is in the manifest already. A plainer
search visits a nested DAG again at every task that runs it, and unites what it finds in the order
of the tasks; only the DAGs that lead to a task keep it from going round in a cycle. Both come to
the same manifest, or to the same fault (`collect_eq_gather`).

A DAG that is passed by is in the manifest with all that it depends on, and is on no cycle. So the
plainer search comes back from it without a fault (`exists_gatherTasks`), and with nothing new.
-/

set_option autoImplicit false

namespace Recipe

open Relation

/-! ## Unions -/

section AppendNew

variable {α κ : Type} [DecidableEq κ] {key : α → κ} {xs ys zs : List α}

/-- A list and, behind it, the members of another that have new keys. -/
def appendNew (key : α → κ) (xs ys : List α) : List α :=
  xs ++ ys.filter fun y => key y ∉ xs.map key

theorem mem_map_appendNew {k : κ} :
    k ∈ (appendNew key xs ys).map key ↔ k ∈ xs.map key ∨ k ∈ ys.map key := by
  rw [appendNew, List.map_append, List.mem_append]
  constructor
  · rintro (hk | hk)
    · exact Or.inl hk
    · obtain ⟨y, hy, rfl⟩ := List.mem_map.mp hk
      exact Or.inr (List.mem_map_of_mem (List.mem_of_mem_filter hy))
  · rintro (hk | hk)
    · exact Or.inl hk
    · by_cases hold : k ∈ xs.map key
      · exact Or.inl hold
      · obtain ⟨y, hy, rfl⟩ := List.mem_map.mp hk
        exact Or.inr (List.mem_map_of_mem (List.mem_filter.mpr ⟨hy, decide_eq_true hold⟩))

theorem mem_appendNew_id {x : κ} {xs ys : List κ} : x ∈ appendNew id xs ys ↔ x ∈ xs ∨ x ∈ ys := by
  have hmem : x ∈ (appendNew id xs ys).map id ↔ x ∈ xs.map id ∨ x ∈ ys.map id := mem_map_appendNew
  simpa only [List.map_id] using hmem

theorem appendNew_assoc :
    appendNew key (appendNew key xs ys) zs = appendNew key xs (appendNew key ys zs) := by
  -- of the third list those stay that are new to both others, in whatever order these are asked
  have hboth : ∀ z, decide (key z ∉ (appendNew key xs ys).map key) =
      (decide (key z ∉ xs.map key) && decide (key z ∉ ys.map key)) := by
    intro z
    rw [← Bool.decide_and, decide_eq_decide, mem_map_appendNew, not_or]
  rw [appendNew, List.filter_congr fun z _ => hboth z, appendNew, appendNew, appendNew,
    List.filter_append, List.filter_filter, List.append_assoc]

theorem appendNew_eq_self (h : ∀ y ∈ ys, key y ∈ xs.map key) : appendNew key xs ys = xs := by
  rw [appendNew, List.filter_eq_nil_iff.mpr, List.append_nil]
  intro y hy
  simpa using h y hy

theorem appendNew_singleton {y : α} (h : key y ∉ xs.map key) :
    appendNew key xs [y] = xs ++ [y] := by
  rw [appendNew, List.filter_singleton, decide_eq_true h, cond_true]

end AppendNew

namespace Manifest

/-- Two manifests in one, in which what only the second has comes behind what the first has. -/
def union (first second : Manifest) : Manifest where
  plugins := appendNew id first.plugins second.plugins
  recipes := appendNew id first.recipes second.recipes
  dags := appendNew Prod.fst first.dags second.dags

variable {first second third manifest : Manifest} {requirement : Requirement}

theorem meets_union :
    (first.union second).Meets requirement ↔
      first.Meets requirement ∨ second.Meets requirement := by
  cases requirement with
  | plugin package => exact mem_appendNew_id
  | recipe package => exact mem_appendNew_id
  | dag name => exact mem_map_appendNew

/-- Whether a manifest has all that another has. -/
def Includes (manifest other : Manifest) : Prop :=
  ∀ requirement, other.Meets requirement → manifest.Meets requirement

theorem includes_empty : manifest.Includes {} := by
  intro requirement hmet
  cases requirement <;> cases hmet

theorem includes_union (hfirst : manifest.Includes first) (hsecond : manifest.Includes second) :
    manifest.Includes (first.union second) := by
  intro requirement hmet
  exact (meets_union.mp hmet).elim (hfirst requirement) (hsecond requirement)

theorem includes_withPlugin {package : PackageId} (h : manifest.Meets (.plugin package)) :
    manifest.Includes (({} : Manifest).withPlugin package) := by
  intro requirement hmet
  rcases meets_withPlugin.mp hmet with hmet | rfl
  · exact includes_empty requirement hmet
  · exact h

theorem includes_withRecipe {package : PackageId} (h : manifest.Meets (.recipe package)) :
    manifest.Includes (({} : Manifest).withRecipe package) := by
  intro requirement hmet
  rcases meets_withRecipe.mp hmet with hmet | rfl
  · exact includes_empty requirement hmet
  · exact h

theorem includes_withDag {name : String} {graph : Graph} (h : manifest.Meets (.dag name)) :
    manifest.Includes (({} : Manifest).withDag name graph) := by
  intro requirement hmet
  rcases (meets_withDag List.not_mem_nil).mp hmet with hmet | rfl
  · exact includes_empty requirement hmet
  · exact h

theorem union_assoc : (first.union second).union third = first.union (second.union third) := by
  simp only [union, appendNew_assoc]

theorem union_map_union {x : Except Error Manifest} :
    first.union <$> second.union <$> x = (first.union second).union <$> x := by
  rw [Functor.map_map]
  exact congrArg (· <$> x) (funext fun _ => union_assoc.symm)

theorem empty_union : ({} : Manifest).union manifest = manifest := by
  simp [union, appendNew]

theorem union_eq_self (h : first.Includes second) : first.union second = first := by
  have hplugins : appendNew id first.plugins second.plugins = first.plugins := by
    refine appendNew_eq_self fun package hmem => ?_
    rw [List.map_id]
    exact h (.plugin package) hmem
  have hrecipes : appendNew id first.recipes second.recipes = first.recipes := by
    refine appendNew_eq_self fun package hmem => ?_
    rw [List.map_id]
    exact h (.recipe package) hmem
  have hdags : appendNew Prod.fst first.dags second.dags = first.dags :=
    appendNew_eq_self fun entry hmem => h (.dag entry.1) (List.mem_map_of_mem hmem)
  rw [union, hplugins, hrecipes, hdags]

theorem union_withPlugin {package : PackageId} :
    manifest.union (({} : Manifest).withPlugin package) = manifest.withPlugin package := by
  by_cases hpackage : package ∈ manifest.plugins <;>
    simp [union, withPlugin, addNew, appendNew, hpackage]

theorem union_withRecipe {package : PackageId} :
    manifest.union (({} : Manifest).withRecipe package) = manifest.withRecipe package := by
  by_cases hpackage : package ∈ manifest.recipes <;>
    simp [union, withRecipe, addNew, appendNew, hpackage]

theorem union_withDag {name : String} {graph : Graph} (hnew : name ∉ manifest.dags.names) :
    manifest.union (({} : Manifest).withDag name graph) = manifest.withDag name graph := by
  have hdags : appendNew Prod.fst manifest.dags [(name, graph)] =
      manifest.dags.insert name graph := by
    rw [Table.insert_of_not_mem hnew]
    exact appendNew_singleton hnew
  simp [union, withDag, appendNew_eq_self, Table.insert, hdags]

end Manifest

/-! ## The plainer search -/

section Gather

variable {registry : Registry} {graphOf : Dag → Except Error Graph} {stack : List TemplateKey}
  {package : PackageId} {task : GraphTask} {rest : List GraphTask}

/-- What the tasks of a graph depend on, where each nested DAG is visited again at every task that
runs it. The stack holds the keys of the DAGs that lead to the graph, outermost first. -/
def gatherTasks (registry : Registry) (graphOf : Dag → Except Error Graph)
    (stack : List TemplateKey) (package : PackageId) (tasks : List GraphTask) :
    Except Error Manifest :=
  match tasks with
  | [] => pure {}
  | task :: rest =>
      match task.target.route package with
      | .plugin => do
          let others ← gatherTasks registry graphOf stack package rest
          return (({} : Manifest).withPlugin task.target.package).union others
      | .recipe => do
          let others ← gatherTasks registry graphOf stack package rest
          return (({} : Manifest).withRecipe task.target.package).union others
      | .nested =>
          let key := task.target.key
          if hstack : key ∈ stack then throw (Error.cyclicDependency (cycleOn stack key))
          else
            match hdag : registry.dag key with
            | .error fault => throw fault
            | .ok dag => do
                have : unseen registry.keys (stack ++ [key]) < unseen registry.keys stack :=
                  unseen_append_lt (Registry.mem_keys_of_dag hdag) hstack
                let nested ← graphOf dag
                let inner ← gatherTasks registry graphOf (stack ++ [key]) nested.package
                  nested.tasks
                let others ← gatherTasks registry graphOf stack package rest
                return ((({} : Manifest).withDag key.name nested).union inner).union others
termination_by (unseen registry.keys stack, tasks.length)
decreasing_by
  · exact Prod.Lex.right _ (by simp)
  · exact Prod.Lex.right _ (by simp)
  · exact Prod.Lex.left _ _ this
  · exact Prod.Lex.right _ (by simp)

/-- What a graph depends on, by the plainer search. -/
def gather (registry : Registry) (graphOf : Dag → Except Error Graph) (graph : Graph) :
    Except Error Manifest :=
  gatherTasks registry graphOf [graph.key] graph.package graph.tasks

theorem gatherTasks_cycle (hroute : task.target.route package = .nested)
    (hstack : task.target.key ∈ stack) :
    gatherTasks registry graphOf stack package (task :: rest) =
      throw (Error.cyclicDependency (cycleOn stack task.target.key)) := by
  rw [gatherTasks, hroute]
  simp only [dif_pos hstack]

theorem gatherTasks_fault (hroute : task.target.route package = .nested)
    (hstack : task.target.key ∉ stack) {fault : Error}
    (hdag : registry.dag task.target.key = .error fault) :
    gatherTasks registry graphOf stack package (task :: rest) = throw fault := by
  rw [gatherTasks, hroute]
  simp only [dif_neg hstack]
  split
  · next found hfound =>
      rw [hdag, Except.error.injEq] at hfound
      rw [hfound]
  · next dag hfound =>
      rw [hdag] at hfound
      cases hfound

/-- The plainer search goes through every nested DAG. -/
theorem gatherTasks_nested (hroute : task.target.route package = .nested)
    (hstack : task.target.key ∉ stack) {dag : Dag}
    (hdag : registry.dag task.target.key = .ok dag) :
    gatherTasks registry graphOf stack package (task :: rest) = (do
      let nested ← graphOf dag
      let inner ← gatherTasks registry graphOf (stack ++ [task.target.key]) nested.package
        nested.tasks
      let others ← gatherTasks registry graphOf stack package rest
      return ((({} : Manifest).withDag task.target.key.name nested).union inner).union others) := by
  rw [gatherTasks, hroute]
  simp only [dif_neg hstack]
  split
  · next fault hfound =>
      rw [hdag] at hfound
      cases hfound
  · next found hfound =>
      rw [hdag, Except.ok.injEq] at hfound
      rw [hfound]

/-- What it finds there is united with what it finds behind. -/
theorem gatherTasks_built (hroute : task.target.route package = .nested)
    (hstack : task.target.key ∉ stack) {dag : Dag} {nested : Graph}
    (hdag : registry.dag task.target.key = .ok dag) (hgraph : graphOf dag = .ok nested) :
    gatherTasks registry graphOf stack package (task :: rest) =
      gatherTasks registry graphOf (stack ++ [task.target.key]) nested.package nested.tasks >>=
        fun inner => ((({} : Manifest).withDag task.target.key.name nested).union inner).union <$>
          gatherTasks registry graphOf stack package rest := by
  rw [gatherTasks_nested hroute hstack hdag, hgraph]
  simp only [bind_pure_comp]
  rfl

end Gather

/-! ## DAGs that are passed by -/

variable {registry : Registry} {policy : NeedsPolicy} {key current : TemplateKey}
  {package : PackageId} {stack : List TemplateKey} {task : GraphTask} {tasks : List GraphTask}
  {manifest result : Manifest}

/-- A manifest has a DAG with all that it depends on, and the DAG is on no cycle. -/
structure Manifest.Has (manifest : Manifest) (registry : Registry) (policy : NeedsPolicy)
    (package : PackageId) (entry : String × Graph) : Prop where
  grounded : Grounded registry policy ⟨package.name, entry.1⟩
  nested : Nested registry policy package entry
  covers : manifest.Covers package entry.2.tasks

/-- Each DAG in a manifest is still being searched, or is there with all that it depends on. -/
def Manifest.Complete (manifest : Manifest) (registry : Registry) (policy : NeedsPolicy)
    (package : PackageId) (stack : List TemplateKey) : Prop :=
  ∀ entry ∈ manifest.dags, (⟨package.name, entry.1⟩ : TemplateKey) ∈ stack ∨
    manifest.Has registry policy package entry

theorem Manifest.Has.mono {entry : String × Graph} (h : manifest.Has registry policy package entry)
    (hincludes : result.Includes manifest) : result.Has registry policy package entry where
  grounded := h.grounded
  nested := h.nested
  covers := fun task htask => hincludes _ (h.covers task htask)

theorem TasksOf.head {rest : List GraphTask}
    (h : TasksOf registry policy current package (task :: rest)) :
    TasksOf registry policy current package [task] := by
  obtain ⟨graph, hbuild, hpackage, htasks⟩ := h
  refine ⟨graph, hbuild, hpackage, fun found hfound => htasks found ?_⟩
  rw [List.mem_singleton.mp hfound]
  exact List.mem_cons_self

namespace Manifest.Complete

theorem mono (h : manifest.Complete registry policy package stack)
    (hdags : result.dags = manifest.dags) (hincludes : result.Includes manifest) :
    result.Complete registry policy package stack := by
  intro entry hentry
  rw [hdags] at hentry
  exact (h entry hentry).imp_right fun hdone => hdone.mono hincludes

theorem withDag (h : manifest.Complete registry policy package stack) {graph : Graph}
    (hroute : task.target.route package = .nested) (hnew : task.target.name ∉ manifest.dags.names) :
    (manifest.withDag task.target.name graph).Complete registry policy package
      (stack ++ [task.target.key]) := by
  intro entry hentry
  rw [Manifest.dags_withDag hnew] at hentry
  rcases List.mem_append.mp hentry with hentry | hentry
  · refine (h entry hentry).imp (List.mem_append_left _) fun hdone => hdone.mono ?_
    exact fun requirement hmet => (Manifest.meets_withDag hnew).mpr (Or.inl hmet)
  · have hkey : task.target.key = ⟨package.name, task.target.name⟩ := TasksOf.key_eq hroute
    rw [List.mem_singleton.mp hentry, hkey]
    exact Or.inl List.mem_concat_self

/-- A DAG in the manifest that is not being searched is there with all that it depends on. -/
theorem exists_has (h : manifest.Complete registry policy package stack)
    (hroute : task.target.route package = .nested) (hnew : task.target.key ∉ stack)
    (hmem : task.target.name ∈ manifest.dags.names) :
    ∃ nested, Grounded registry policy task.target.key ∧
      registry.Builds policy task.target.key nested ∧ nested.package = package ∧
      manifest.Covers package nested.tasks := by
  obtain ⟨⟨name, nested⟩, hentry, rfl : name = task.target.name⟩ := List.mem_map.mp hmem
  have hkey : task.target.key = ⟨package.name, task.target.name⟩ := TasksOf.key_eq hroute
  obtain ⟨hgrounded, hnested, hcovers⟩ := (h _ hentry).resolve_left (hkey ▸ hnew)
  rw [hkey]
  exact ⟨nested, hgrounded, hnested.built, hnested.package, hcovers⟩

/-- **The search leaves the DAGs that it has gone through with all that they depend on.** -/
theorem of_collectTasks (h : manifest.Complete registry policy package stack)
    (htasks : TasksOf registry policy current package tasks)
    (hcollect : collectTasks registry (fun dag => dag.build registry policy) stack package tasks
      manifest = .ok result) : result.Complete registry policy package stack := by
  have hregistered : Registered registry tasks := by
    obtain ⟨graph, ⟨dag, -, hbuild⟩, -, hmem⟩ := htasks
    exact fun task htask => Dag.registered_of_build hbuild task (hmem task htask)
  have hcollects := collects_of_collectTasks hregistered hcollect
  have hsettled : manifest.Settled registry policy package stack := by
    intro name hname
    obtain ⟨entry, hentry, rfl⟩ := List.mem_map.mp hname
    exact (h entry hentry).imp_right fun hdone => hdone.grounded
  intro entry hentry
  rcases hcollects.nested entry hentry with hentry | ⟨hnested, hcovers⟩
  · exact (h entry hentry).imp_right fun hdone => hdone.mono hcollects.keeps
  · have hname := (grounded_of_collectTasks htasks hsettled hcollect).1 entry.1
      (List.mem_map_of_mem hentry)
    refine hname.imp_right fun hgrounded => ⟨hgrounded, hnested, ?_⟩
    rw [← hnested.package]
    exact hcovers

/-- So it does while it goes through one nested DAG. -/
theorem of_nested (h : manifest.Complete registry policy package stack) {rest : List GraphTask}
    (htasks : TasksOf registry policy current package (task :: rest))
    (hroute : task.target.route package = .nested) (hstack : task.target.key ∉ stack)
    (hhas : ¬ manifest.dags.has task.target.key.name = true) {dag : Dag} {nested : Graph}
    (hdag : registry.dag task.target.key = .ok dag)
    (hbuild : dag.build registry policy = .ok nested)
    (hcollect : collectTasks registry (fun dag => dag.build registry policy)
      (stack ++ [task.target.key]) nested.package nested.tasks
      (manifest.withDag task.target.key.name nested) = .ok result) :
    result.Complete registry policy package stack := by
  have hone : collectTasks registry (fun dag => dag.build registry policy) stack package [task]
      manifest = .ok result := by
    rw [collectTasks_nested hroute hstack hhas hdag]
    simp only [bind_eq_ok]
    exact ⟨nested, hbuild, result, hcollect, by rw [collectTasks]; rfl⟩
  exact h.of_collectTasks htasks.head hone

end Manifest.Complete

/-- A way along other DAGs to one that is on no cycle does not lead past those that it nests. -/
theorem Grounded.not_mem {path : List TemplateKey} {other : TemplateKey}
    (hgrounded : Grounded registry policy key) (hnests : registry.Nests policy key other)
    (hpath : ∀ step ∈ path, ReflTransGen (registry.Nests policy) step key) : other ∉ path := by
  intro hmem
  exact hgrounded.not_transGen (TransGen.head' hnests (hpath other hmem))

theorem reaches_append {path : List TemplateKey} {other : TemplateKey}
    (hnests : registry.Nests policy key other)
    (hpath : ∀ step ∈ path, ReflTransGen (registry.Nests policy) step key) :
    ∀ step ∈ path ++ [other], ReflTransGen (registry.Nests policy) step other := by
  intro step hstep
  rcases List.mem_append.mp hstep with hstep | hstep
  · exact (hpath step hstep).tail hnests
  · rw [List.mem_singleton.mp hstep]

/-- **Visiting a DAG again finds no fault and nothing new**, if the manifest has it with all that it
depends on and it is on no cycle. -/
theorem exists_gatherTasks (hcomplete : manifest.Complete registry policy package stack)
    (hgrounded : Grounded registry policy key) {graph : Graph} {path : List TemplateKey}
    (hbuilds : registry.Builds policy key graph) (hpackage : graph.package = package)
    (hcovers : manifest.Covers package graph.tasks) (hstack : stack ⊆ path)
    (hpath : ∀ step ∈ path, ReflTransGen (registry.Nests policy) step key) :
    ∃ found, gatherTasks registry (fun dag => dag.build registry policy) path graph.package
      graph.tasks = .ok found ∧ manifest.Includes found := by
  -- by induction on the way down, which comes to an end, and then on the tasks
  induction hgrounded generalizing graph path with
  | intro key hacc ih =>
      have hgrounded : Grounded registry policy key := Acc.intro key hacc
      have htasks : TasksOf registry policy key package graph.tasks :=
        hpackage ▸ TasksOf.of_builds hbuilds
      rw [hpackage]
      generalize graph.tasks = tasks at htasks hcovers
      induction tasks with
      | nil => exact ⟨{}, by rw [gatherTasks]; rfl, Manifest.includes_empty⟩
      | cons task rest ihrest =>
          obtain ⟨others, hothers, hincludes⟩ := ihrest htasks.tail
            fun found hfound => hcovers found (List.mem_cons_of_mem _ hfound)
          have hmet := hcovers task List.mem_cons_self
          rw [Definition.requirement] at hmet
          cases hroute : task.target.route package with
          | plugin =>
              rw [hroute] at hmet
              rw [gatherTasks, hroute]
              exact ⟨_, bind_eq_ok.mpr ⟨others, hothers, rfl⟩,
                Manifest.includes_union (Manifest.includes_withPlugin hmet) hincludes⟩
          | recipe =>
              rw [hroute] at hmet
              rw [gatherTasks, hroute]
              exact ⟨_, bind_eq_ok.mpr ⟨others, hothers, rfl⟩,
                Manifest.includes_union (Manifest.includes_withRecipe hmet) hincludes⟩
          | nested =>
              rw [hroute] at hmet
              have hnests := htasks.nests hroute
              -- the DAG does not lead here, so it is not being searched
              have hnew := hgrounded.not_mem hnests hpath
              obtain ⟨nested, -, hnested, hsame, hinnerCovers⟩ :=
                hcomplete.exists_has hroute (fun hmem => hnew (hstack hmem)) hmet
              obtain ⟨inner, hinner, hinnerIncludes⟩ := ih _ hnests hnested hsame hinnerCovers
                (List.Subset.trans hstack (List.subset_append_left path [task.target.key]))
                (reaches_append hnests hpath)
              obtain ⟨dag, hdag, hbuild⟩ := hnested
              rw [gatherTasks_built hroute hnew hdag hbuild]
              refine ⟨_, bind_eq_ok.mpr ⟨inner, hinner, map_eq_ok.mpr ⟨others, hothers, rfl⟩⟩, ?_⟩
              exact Manifest.includes_union
                (Manifest.includes_union (Manifest.includes_withDag hmet) hinnerIncludes) hincludes

/-! ## Both searches -/

/-- **Searching on from a manifest adds to it what the plainer search finds.** The DAGs on the stack
lead to the tasks. -/
theorem collectTasks_eq_union (htasks : TasksOf registry policy current package tasks)
    (hstack : ∀ step ∈ stack, ReflTransGen (registry.Nests policy) step current)
    (hcomplete : manifest.Complete registry policy package stack) :
    collectTasks registry (fun dag => dag.build registry policy) stack package tasks manifest =
      manifest.union <$>
        gatherTasks registry (fun dag => dag.build registry policy) stack package tasks := by
  fun_induction collectTasks registry (fun dag => dag.build registry policy) stack package tasks
    manifest generalizing current with
  | case1 stack package manifest =>
      rw [gatherTasks]
      exact congrArg Except.ok (Manifest.union_eq_self Manifest.includes_empty).symm
  | case2 stack package manifest task rest hroute ih =>
      have hmore : (manifest.withPlugin task.target.package).Complete registry policy package stack :=
        hcomplete.mono rfl fun _ hmet => Manifest.meets_withPlugin.mpr (Or.inl hmet)
      rw [ih htasks.tail hstack hmore, gatherTasks, hroute]
      simp only [map_bind, map_pure, ← Manifest.union_assoc, Manifest.union_withPlugin]
      rfl
  | case3 stack package manifest task rest hroute ih =>
      have hmore : (manifest.withRecipe task.target.package).Complete registry policy package stack :=
        hcomplete.mono rfl fun _ hmet => Manifest.meets_withRecipe.mpr (Or.inl hmet)
      rw [ih htasks.tail hstack hmore, gatherTasks, hroute]
      simp only [map_bind, map_pure, ← Manifest.union_assoc, Manifest.union_withRecipe]
      rfl
  | case4 stack package manifest task rest hroute inner =>
      rename_i hmem
      rw [gatherTasks_cycle hroute hmem]
      rfl
  | case5 stack package manifest task rest hroute inner hnew hhas =>
      rename_i ih
      have hmem : task.target.name ∈ manifest.dags.names := Table.has_eq_true.mp hhas
      obtain ⟨nested, hgrounded, hnested, hsame, hcovers⟩ := hcomplete.exists_has hroute hnew hmem
      obtain ⟨found, hfound, hincludes⟩ := exists_gatherTasks hcomplete hgrounded hnested hsame
        hcovers (List.subset_append_left stack [task.target.key])
        (reaches_append (htasks.nests hroute) hstack)
      obtain ⟨dag, hdag, hbuild⟩ := hnested
      -- the DAG is visited once more by the plainer search, which changes nothing
      have hself : manifest.union ((({} : Manifest).withDag task.target.key.name nested).union
          found) = manifest :=
        Manifest.union_eq_self (Manifest.includes_union (Manifest.includes_withDag hmem) hincludes)
      rw [ih htasks.tail hstack hcomplete, gatherTasks_built hroute hnew hdag hbuild, hfound]
      change _ = manifest.union <$> (Manifest.union _ found).union <$> _
      rw [Manifest.union_map_union, hself]
  | case6 stack package manifest task rest hroute inner hnew hhas fault =>
      rename_i hdag
      rw [gatherTasks_fault hroute hnew hdag]
      rfl
  | case7 stack package manifest task rest hroute inner hnew hhas dag hdag _ ihinner =>
      rename_i ihrest
      have hnests := htasks.nests hroute
      have hnewName : task.target.name ∉ manifest.dags.names := fun hmem =>
        hhas (Table.has_eq_true.mpr hmem)
      cases hbuild : dag.build registry policy with
      | error fault =>
          rw [gatherTasks_nested hroute hnew hdag, hbuild]
          rfl
      | ok nested =>
          have hnested : registry.Builds policy task.target.key nested := ⟨dag, hdag, hbuild⟩
          have hsame : nested.package = package := htasks.nested_package hroute hnested
          have hinner := ihinner nested (.of_builds hnested) (reaches_append hnests hstack)
            (hsame ▸ hcomplete.withDag hroute hnewName)
          rw [gatherTasks_built hroute hnew hdag hbuild, map_bind]
          change collectTasks registry (fun dag => dag.build registry policy) _ nested.package
            nested.tasks _ >>= _ = _
          rw [hinner]
          cases hfound : gatherTasks registry (fun dag => dag.build registry policy)
              (stack ++ [inner]) nested.package nested.tasks with
          | error fault => rfl
          | ok found =>
              rw [hfound] at hinner
              -- what is found there completes the manifest, with the DAG off the stack again
              have hmiddle := hcomplete.of_nested htasks hroute hnew hhas hdag hbuild hinner
              have hadded : manifest.union (({} : Manifest).withDag task.target.key.name nested) =
                  manifest.withDag inner.name nested := Manifest.union_withDag hnewName
              change collectTasks registry _ stack package rest (Manifest.union _ found) =
                manifest.union <$> (Manifest.union _ found).union <$> _
              rw [Manifest.union_map_union, ← Manifest.union_assoc, hadded]
              exact ihrest _ htasks.tail hstack hmiddle

/-- **Passing by the DAGs that are in the manifest changes nothing**: neither what is collected, nor
in which order, nor the fault. -/
theorem collect_eq_gather {graph : Graph} (hbuild : registry.Builds policy key graph) :
    collect registry (fun dag => dag.build registry policy) graph =
      gather registry (fun dag => dag.build registry policy) graph := by
  have hstack : ∀ step ∈ [graph.key], ReflTransGen (registry.Nests policy) step key := by
    intro step hstep
    rw [List.mem_singleton.mp hstep, hbuild.key_eq]
  have hempty : ({} : Manifest).Complete registry policy graph.package [graph.key] := by
    intro entry hentry
    cases hentry
  rw [collect, collectTasks_eq_union (.of_builds hbuild) hstack hempty]
  calc ({} : Manifest).union <$> gather registry (fun dag => dag.build registry policy) graph
    _ = id <$> gather registry (fun dag => dag.build registry policy) graph :=
        congrArg (· <$> _) (funext fun _ => Manifest.empty_union)
    _ = gather registry (fun dag => dag.build registry policy) graph := id_map _

/-! ## After every history -/

namespace History

/-- **What a graph depends on is what the plainer search finds**, after any history and for every
registered DAG that can be built: the same plugins, recipes and nested DAGs in the same order, or
the same fault. -/
theorem run_collect_eq_gather (history : List Operation) (name : String) {policy : NeedsPolicy}
    {key : TemplateKey} {dag : Dag} {graph : Graph}
    (hdag : ((after history).registry name).dag key = .ok dag)
    (hbuild : dag.build ((after history).registry name) policy = .ok graph) :
    ((after history).run name fun registry => Cached.collect registry policy dag).1 =
      gather ((after history).registry name)
        (fun dag => dag.build ((after history).registry name) policy) graph := by
  rw [run_collect_eq history name hdag hbuild]
  exact collect_eq_gather ⟨dag, hdag, hbuild⟩

/-- A history with a DAG that is run from three others, one of which runs another on its way. -/
def roundTripHistory : List Operation :=
  [.declare (leg ⟨"journeys", "leave"⟩
     [⟨"journeys", "back"⟩, ⟨"journeys", "harbour"⟩, ⟨"journeys", "there"⟩]),
   .declare (leg ⟨"journeys", "there"⟩ [⟨"journeys", "harbour"⟩]),
   .declare (leg ⟨"journeys", "back"⟩ [⟨"journeys", "there"⟩, ⟨"journeys", "harbour"⟩]),
   .declare (leg ⟨"journeys", "harbour"⟩ [setSail.key]),
   .registerFunction "main" setSail,
   .registerDag "main" 0, .registerDag "main" 1, .registerDag "main" 2, .registerDag "main" 3]

theorem roundTripHistory_collect_eq_gather :
    ∃ dag graph manifest,
      ((after roundTripHistory).registry "main").dag ⟨"journeys", "leave"⟩ = .ok dag ∧
      dag.build ((after roundTripHistory).registry "main") .infer = .ok graph ∧
      ((after roundTripHistory).run "main" fun registry =>
        Cached.collect registry .infer dag).1 = .ok manifest ∧
      gather ((after roundTripHistory).registry "main")
        (fun dag => dag.build ((after roundTripHistory).registry "main") .infer) graph =
        .ok manifest ∧
      manifest.dags.names = ["back", "there", "harbour"] ∧
      manifest.plugins = [⟨"boats", "1.0.0"⟩] := by
  have hbuilt : (((after roundTripHistory).registry "main").dag ⟨"journeys", "leave"⟩ >>= fun dag =>
      dag.build ((after roundTripHistory).registry "main") .infer).isOk = true := by cbv
  have hrun : (((after roundTripHistory).registry "main").dag ⟨"journeys", "leave"⟩ >>= fun dag =>
      (fun manifest : Manifest => (manifest.dags.names, manifest.plugins)) <$>
        ((after roundTripHistory).run "main" fun registry => Cached.collect registry .infer dag).1) =
      .ok (["back", "there", "harbour"], [⟨"boats", "1.0.0"⟩]) := by cbv
  obtain ⟨graph, hgraph⟩ := exists_of_isOk hbuilt
  obtain ⟨dag, hdag, hbuild⟩ := bind_eq_ok.mp hgraph
  obtain ⟨found, hfound, hmap⟩ := bind_eq_ok.mp hrun
  obtain rfl := Except.ok.inj (hdag.symm.trans hfound)
  obtain ⟨manifest, hcollect, hparts⟩ := map_eq_ok.mp hmap
  simp only [Prod.mk.injEq] at hparts
  have hsame := run_collect_eq_gather roundTripHistory "main" hdag hbuild
  exact ⟨dag, graph, manifest, hdag, hbuild, hcollect, hsame.symm.trans hcollect, hparts⟩

end History

end Recipe
