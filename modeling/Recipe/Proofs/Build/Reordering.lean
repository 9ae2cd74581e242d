import Recipe.Proofs.Build.Typing
import Recipe.Proofs.Renaming

/-!
# Declarations in another order

The tasks of a DAG may be declared in any order. What a task may refer to, what it is resolved to
and whether the graph is valid are the same for each of them; only the tasks of the graph are in the
order in which they were declared.
-/

set_option autoImplicit false

namespace Recipe

/-! ## Lists -/

/-- Members in another order have the same counterparts, in that order. -/
theorem exists_forall₂_of_perm {α β γ : Type} {R : α → β → Prop} {S : β → γ → Prop}
    {others xs : List α} {ys : List β} {zs : List γ} (hperm : others.Perm xs)
    (hR : List.Forall₂ R xs ys) (hS : List.Forall₂ S ys zs) :
    ∃ ys' zs', List.Forall₂ R others ys' ∧ List.Forall₂ S ys' zs' ∧
      (others.zip zs').Perm (xs.zip zs) := by
  induction hperm generalizing ys zs with
  | nil =>
      cases hR
      cases hS
      exact ⟨[], [], .nil, .nil, .nil⟩
  | cons x _ ih =>
      cases hR with
      | cons hx hR =>
          cases hS with
          | cons hy hS =>
              obtain ⟨ys', zs', hR', hS', hzip⟩ := ih hR hS
              exact ⟨_, _, .cons hx hR', .cons hy hS', hzip.cons _⟩
  | swap x x' rest =>
      rcases hR with _ | ⟨hx, _ | ⟨hx', hR⟩⟩
      rcases hS with _ | ⟨hy, _ | ⟨hy', hS⟩⟩
      exact ⟨_, _, .cons hx' (.cons hx hR), .cons hy' (.cons hy hS), .swap _ _ _⟩
  | trans _ _ ihfirst ihsecond =>
      obtain ⟨ys', zs', hR', hS', hzip⟩ := ihsecond hR hS
      obtain ⟨ys'', zs'', hR'', hS'', hzip'⟩ := ihfirst hR' hS'
      exact ⟨ys'', zs'', hR'', hS'', hzip'.trans hzip⟩

theorem find?_eq_of_perm {α : Type} {p : α → Bool} {others xs : List α} (hperm : others.Perm xs)
    (hone : (xs.filter p).length ≤ 1) : others.find? p = xs.find? p := by
  have hpicked : (others.filter p).Perm (xs.filter p) := hperm.filter p
  have hsame : others.filter p = xs.filter p := by
    match hxs : xs.filter p with
    | [] =>
        rw [hxs] at hpicked
        exact hpicked.eq_nil
    | [x] =>
        rw [hxs] at hpicked
        exact List.perm_singleton.mp hpicked
    | x :: y :: rest =>
        rw [hxs] at hone
        simp at hone
  rw [← List.head?_filter, ← List.head?_filter, hsame]

/-! ## Scopes -/

/-- The same can be referred to in two scopes. -/
structure Scope.Alike (other scope : Scope) : Prop where
  input : ∀ handle, other.input? handle = scope.input? handle
  task : ∀ name, other.task? name = scope.task? name
  names : ∀ name, name ∈ other.tasks.names ↔ name ∈ scope.tasks.names

section Alike

variable {other scope : Scope} {entry : TargetedTask}

theorem Scope.Denotes.alike {argument : Argument} {reference : Reference}
    (h : scope.Denotes argument reference) (halike : other.Alike scope) :
    other.Denotes argument reference := by
  cases h with
  | literal value => exact .literal value
  | input hinput => exact .input ((halike.input _).trans hinput)
  | output htask hspec => exact .output ((halike.task _).trans htask) hspec
  | item field => exact .item field

theorem TargetedTask.Binds.alike {declared : String × Argument} {bound : BoundArgument}
    (h : entry.Binds scope declared bound) (halike : other.Alike scope) :
    entry.Binds other declared bound := by
  obtain ⟨hname, ⟨parameter, reference, hinput, hdenotes, htakes⟩, hpath⟩ := h
  exact ⟨hname, ⟨parameter, reference, hinput, hdenotes.alike halike, htakes⟩, hpath⟩

theorem TargetedTask.LoopsOver.alike {argument : Argument} {source : Reference}
    (h : LoopsOver scope argument source) (halike : other.Alike scope) :
    LoopsOver other argument source := by
  obtain ⟨⟨reference, hdenotes, hsource⟩, hparameter, hitem, hlist⟩ := h
  exact ⟨⟨reference, hdenotes.alike halike, hsource⟩, hparameter, hitem, hlist⟩

theorem TargetedTask.Resolves.alike {policy : NeedsPolicy} {package : PackageId} {task : GraphTask}
    (h : entry.Resolves scope policy package task) (halike : other.Alike scope) :
    entry.Resolves other policy package task :=
  { h with
    arguments := h.arguments.imp fun _ _ hbinds => hbinds.alike halike
    loop := optionRel_mono (fun _ _ hloops => hloops.alike halike) h.loop
    needs_declared := fun need hneed => (halike.names need).mpr (h.needs_declared need hneed) }

theorem DagOutput.Resolves.alike {output : DagOutput} {resolved : GraphOutput}
    (h : output.Resolves scope resolved) (halike : other.Alike scope) :
    output.Resolves other resolved := by
  cases h with
  | path hpath => exact .path hpath
  | output hsource hdenotes hsort => exact .output hsource (hdenotes.alike halike) hsort

end Alike

/-! ## Graphs -/

/-- A graph has the tasks of another in some order, and all else alike. -/
structure Graph.Reorders (other graph : Graph) : Prop where
  name : other.name = graph.name
  package : other.package = graph.package
  inputs : other.inputs = graph.inputs
  outputs : other.outputs = graph.outputs
  annotations : other.annotations = graph.annotations
  tasks : other.tasks.Perm graph.tasks

/-- The tasks of a graph stand where some declarations do, as those of another graph stand where the
declarations do in another order. -/
structure Graph.Follows (other graph : Graph) (others declared : List TaskDeclaration) : Prop
    extends other.Reorders graph where
  length : other.tasks.length = others.length
  places : (others.zip other.tasks).Perm (declared.zip graph.tasks)

namespace Graph.Reorders

variable {other graph : Graph} {grouped : Bool}

theorem perm_taskNames (h : other.Reorders graph) : other.taskNames.Perm graph.taskNames :=
  h.tasks.map _

theorem valid (h : other.Reorders graph) (hvalid : graph.Valid grouped) : other.Valid grouped where
  names_distinct := h.perm_taskNames.nodup_iff.mpr hvalid.names_distinct
  tasks := fun task htask => hvalid.tasks task (h.tasks.mem_iff.mp htask)
  references := by
    intro task htask
    obtain ⟨harguments, hloop, hneeds⟩ := hvalid.references task (h.tasks.mem_iff.mp htask)
    exact
      { arguments := fun argument hargument producer hreads =>
          h.perm_taskNames.mem_iff.mpr (harguments argument hargument producer hreads)
        loop := fun source hsource producer hreads =>
          h.perm_taskNames.mem_iff.mpr (hloop source hsource producer hreads)
        needs := fun need hneed => h.perm_taskNames.mem_iff.mpr (hneeds need hneed) }
  outputs := by
    rw [h.outputs]
    intro output houtput producer hreads
    exact h.perm_taskNames.mem_iff.mpr (hvalid.outputs output houtput producer hreads)
  grouped := by
    intro hgrouped
    obtain ⟨hloops, hreturns, hmain⟩ := hvalid.grouped hgrouped
    exact
      { loops := fun task htask => hloops task (h.tasks.mem_iff.mp htask)
        returns := fun task htask => hreturns task (h.tasks.mem_iff.mp htask)
        main := (h.tasks.pairwise_iff fun hnone hboth => hnone hboth.symm).mpr hmain }

theorem exists_executionOrder (h : other.Reorders graph)
    (horder : ∃ order, graph.executionOrder = .ok order) :
    ∃ order, other.executionOrder = .ok order := by
  rw [Graph.exists_executionOrder] at horder ⊢
  have hnodes : other.nodes.Perm graph.nodes := h.tasks.map _
  have hnames : (other.nodes.map (·.name)).Perm (graph.nodes.map (·.name)) := hnodes.map _
  have hprecedes : TaskGraph.Precedes other.nodes = TaskGraph.Precedes graph.nodes := by
    funext need name
    simp only [TaskGraph.Precedes, hnodes.mem_iff]
  obtain ⟨⟨hnodup, hneeds⟩, hacyclic⟩ := horder
  rw [hprecedes]
  exact ⟨⟨hnames.nodup_iff.mpr hnodup, fun node hnode need hneed =>
    hnames.mem_iff.mpr (hneeds node (hnodes.mem_iff.mp hnode) need hneed)⟩, hacyclic⟩

end Graph.Reorders

/-- A group has the same main task in any order of its tasks, if there is one only. -/
theorem groupAnnotations_of_perm {others tasks : List GraphTask} (hperm : others.Perm tasks)
    (hone : tasks.Pairwise fun task other => ¬ (task.MarkedMain ∧ other.MarkedMain)) :
    groupAnnotations others = groupAnnotations tasks := by
  rw [groupAnnotations, groupAnnotations,
    find?_eq_of_perm hperm (Graph.length_mains_le_one.mpr hone)]

/-! ## DAGs -/

namespace Dag

/-- The DAG with its tasks declared in another order. -/
def reordered (dag : Dag) (tasks : List TaskDeclaration) : Dag := { dag with tasks }

variable {dag : Dag} {registry : Registry} {policy : NeedsPolicy} {tasks : List TaskDeclaration}
  {targeted others : List TargetedTask} {graph : Graph}

theorem runs_reordered (hperm : tasks.Perm dag.tasks) {name : String} {target : Definition} :
    (dag.reordered tasks).Runs registry name target ↔ dag.Runs registry name target := by
  simp only [Runs, reordered, hperm.mem_iff]

theorem Targeted.alike (h : dag.Targeted registry targeted) (hperm : tasks.Perm dag.tasks)
    (hothers : (dag.reordered tasks).Targeted registry others) :
    ((dag.reordered tasks).scope others).Alike (dag.scope targeted) where
  input := by
    intro handle
    rw [scope_input?, scope_input?]
    rfl
  task := by
    intro name
    refine Option.ext fun target => ?_
    rw [hothers.task?_eq_some, h.task?_eq_some, runs_reordered hperm]
  names := by
    intro name
    rw [hothers.names_eq, h.names_eq]
    exact (hperm.map TaskDeclaration.name).mem_iff

/-- A DAG with its tasks in another order is resolved to the same, with the tasks in that order. If
it is grouped, not more than one of them may be the main one. -/
theorem Resolves.reordered (h : dag.Resolves registry policy targeted graph)
    (hperm : tasks.Perm dag.tasks) (hgroup : dag.grouped = true → graph.Groupable) :
    ∃ others other, (dag.reordered tasks).Resolves registry policy others other ∧
      other.Follows graph tasks dag.tasks := by
  obtain ⟨others, resolved, htargets, hresolves, hplaces⟩ :=
    exists_forall₂_of_perm hperm h.lookup.targets h.tasks
  have hlookup : (dag.reordered tasks).Targeted registry others :=
    ⟨(hperm.map TaskDeclaration.name).nodup_iff.mpr h.lookup.names_distinct, htargets⟩
  have halike := h.lookup.alike hperm hlookup
  have hlength : resolved.length = tasks.length :=
    (htargets.length_eq.trans hresolves.length_eq).symm
  have hlength' : graph.tasks.length = dag.tasks.length :=
    (h.lookup.targets.length_eq.trans h.tasks.length_eq).symm
  have hresolved : resolved.Perm graph.tasks := by
    have hsnd := hplaces.map Prod.snd
    rwa [List.map_snd_zip hlength.le, List.map_snd_zip hlength'.le] at hsnd
  let other : Graph := { graph with tasks := resolved }
  have hreorders : other.Reorders graph := ⟨rfl, rfl, rfl, rfl, rfl, hresolved⟩
  refine ⟨others, other, ?_, hreorders, hlength, hplaces⟩
  exact
    { lookup := hlookup
      tasks := hresolves.imp fun _ _ hresolved => hresolved.alike halike
      name := h.name
      package := h.package
      inputs := h.inputs
      outputs := h.outputs.imp fun _ _ houtput => houtput.alike halike
      ordered := hreorders.exists_executionOrder h.ordered
      annotations := by
        show graph.annotations = if dag.grouped = true then groupAnnotations resolved else []
        rw [h.annotations]
        cases hgrouped : dag.grouped with
        | false => rfl
        | true =>
            rw [groupAnnotations_of_perm hresolved (hgroup hgrouped).main] }

/-- So a DAG that has a graph has one with its tasks in any other order. -/
theorem exists_build_reordered (hperm : tasks.Perm dag.tasks)
    (hbuild : dag.build registry policy = .ok graph) :
    ∃ other, (dag.reordered tasks).build registry policy = .ok other ∧
      other.Follows graph tasks dag.tasks := by
  obtain ⟨hresolve, hfaults⟩ := build_eq_ok.mp hbuild
  obtain ⟨targeted, h⟩ := resolve_eq_ok.mp hresolve
  have hvalid : graph.Valid dag.grouped := Graph.faults_eq_nil.mp hfaults
  obtain ⟨others, other, hother, hfollows⟩ := h.reordered hperm hvalid.grouped
  refine ⟨other, build_eq_ok.mpr ⟨resolve_eq_ok.mpr ⟨others, hother⟩, ?_⟩, hfollows⟩
  exact Graph.faults_eq_nil.mpr (hfollows.valid hvalid)

/-- **The order in which tasks are declared does not matter.** A DAG with its tasks in another order,
which may have been declared apart, has a graph exactly if the DAG has, and then it is the same graph
with its tasks in that order. -/
theorem build_reordered (registry : Registry) (policy : NeedsPolicy) {f : Nat → Nat}
    (hkeeps : dag.Keeps f) (hperm : tasks.Perm dag.tasks) :
    ((∃ other, ((dag.reordered tasks).rename f).build registry policy = .ok other) ↔
      ∃ graph, dag.build registry policy = .ok graph) ∧
    ∀ graph other, dag.build registry policy = .ok graph →
      ((dag.reordered tasks).rename f).build registry policy = .ok other →
      other.Follows graph tasks dag.tasks := by
  have hother : (dag.reordered tasks).Keeps f := hkeeps
  rw [build_rename (fun _ => rfl) hother]
  refine ⟨⟨?_, ?_⟩, ?_⟩
  -- the DAG is the other one with its own order
  · rintro ⟨other, hother⟩
    obtain ⟨graph, hbuild, -⟩ :=
      exists_build_reordered (show dag.tasks.Perm (dag.reordered tasks).tasks from hperm.symm) hother
    exact ⟨graph, hbuild⟩
  · rintro ⟨graph, hbuild⟩
    obtain ⟨other, hother, -⟩ := exists_build_reordered hperm hbuild
    exact ⟨other, hother⟩
  · intro graph other hbuild hother
    obtain ⟨found, hfound, hfollows⟩ := exists_build_reordered hperm hbuild
    obtain rfl := Except.ok.inj (hfound.symm.trans hother)
    exact hfollows

/-- Shouting all lines of a text, with the text split first and declared apart. -/
theorem shoutAll_reversed :
    ∃ graph other, shoutAll.build textTools .infer = .ok graph ∧
      ((shoutAll.reordered shoutAll.tasks.reverse).rename (shoutAll.newOwner 7)).build textTools
        .infer = .ok other ∧
      other.Follows graph shoutAll.tasks.reverse shoutAll.tasks ∧
      graph.taskNames = ["shout", "split"] ∧ other.taskNames = ["split", "shout"] := by
  have hnames : Graph.taskNames <$> shoutAll.build textTools .infer = .ok ["shout", "split"] := by
    cbv
  have hreversed : Graph.taskNames <$> ((shoutAll.reordered shoutAll.tasks.reverse).rename
      (shoutAll.newOwner 7)).build textTools .infer = .ok ["split", "shout"] := by
    cbv
  obtain ⟨graph, hbuild, htasks⟩ := map_eq_ok.mp hnames
  obtain ⟨other, hother, hothers⟩ := map_eq_ok.mp hreversed
  have hfollows := (build_reordered textTools .infer (shoutAll.keeps_newOwner 7)
    (List.reverse_perm shoutAll.tasks)).2 graph other hbuild hother
  exact ⟨graph, other, hbuild, hother, hfollows, htasks, hothers⟩

end Dag

end Recipe
