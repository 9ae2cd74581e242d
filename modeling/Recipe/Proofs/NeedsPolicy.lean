import Recipe.Proofs.Build.Needs
import Recipe.Proofs.Cache.History

/-!
# Needs policies

The strict policy builds fewer graphs than the one that infers needs, and never other ones: it
builds those whose tasks list all that they read (`Dag.build_strict`). So what is compiled under the
strict policy is compiled to the same pipeline when needs are inferred (`strict_restricts_infer`).
-/

set_option autoImplicit false

namespace Recipe

/-! ## Tasks -/

namespace TargetedTask

variable {entry : TargetedTask} {scope : Scope} {package : PackageId} {task : GraphTask}

/-- **A task is resolved under the strict policy exactly if inferring adds no need to it.** -/
theorem resolves_strict :
    entry.Resolves scope .strict package task ↔
      entry.Resolves scope .infer package task ∧ task.needs = distinct entry.task.needs := by
  constructor
  · intro h
    refine ⟨{ h with reads_declared := ?_ }, h.hasNeedsOf.strict rfl⟩
    intro hinfer
    cases hinfer
  · rintro ⟨h, hneeds⟩
    refine { h with reads_declared := ?_ }
    intro _ producer hproducer
    -- the producers were merged into the needs, and all of them were there
    rw [h.needs, foldl_addNew_eq_self] at hneeds
    exact mem_distinct.mp (hneeds producer hproducer)

end TargetedTask

/-! ## Graphs -/

/-- The tasks of a graph need nothing but what the declared ones list. -/
def Dag.ListsNeeds (dag : Dag) (tasks : List GraphTask) : Prop :=
  List.Forall₂ (fun declared task => task.needs = distinct declared.needs) dag.tasks tasks

namespace Dag

variable {dag : Dag} {registry : Registry} {targeted : List TargetedTask}
  {tasks : List GraphTask} {graph : Graph}

theorem Targeted.listsNeeds_iff (h : dag.Targeted registry targeted) :
    dag.ListsNeeds tasks ↔
      List.Forall₂ (fun entry task => task.needs = distinct entry.task.needs) targeted tasks := by
  constructor
  · intro hneeds
    have hflip : List.Forall₂ (fun (entry : TargetedTask) task => entry.Targets registry task)
        targeted dag.tasks := List.Forall₂.flip h.targets
    refine forall₂_comp ?_ hflip hneeds
    intro entry declared task htargets htask
    rw [htargets.declaration, htask]
  · intro hneeds
    refine forall₂_comp ?_ h.targets hneeds
    intro declared entry task htargets htask
    rw [← htargets.declaration, htask]

theorem resolvesTasks_strict :
    dag.ResolvesTasks registry .strict targeted tasks ↔
      dag.ResolvesTasks registry .infer targeted tasks ∧ dag.ListsNeeds tasks := by
  constructor
  · rintro ⟨hlookup, htasks⟩
    simp only [TargetedTask.resolves_strict, forall₂_and] at htasks
    exact ⟨⟨hlookup, htasks.1⟩, hlookup.listsNeeds_iff.mpr htasks.2⟩
  · rintro ⟨⟨hlookup, htasks⟩, hneeds⟩
    refine ⟨hlookup, ?_⟩
    simp only [TargetedTask.resolves_strict, forall₂_and]
    exact ⟨htasks, hlookup.listsNeeds_iff.mp hneeds⟩

theorem resolves_strict :
    dag.Resolves registry .strict targeted graph ↔
      dag.Resolves registry .infer targeted graph ∧ dag.ListsNeeds graph.tasks := by
  constructor
  · intro h
    obtain ⟨htasks, hneeds⟩ := resolvesTasks_strict.mp h.toResolvesTasks
    exact ⟨{ h with toResolvesTasks := htasks }, hneeds⟩
  · rintro ⟨h, hneeds⟩
    exact { h with toResolvesTasks := resolvesTasks_strict.mpr ⟨h.toResolvesTasks, hneeds⟩ }

/-- **A graph is built under the strict policy exactly if it is built when needs are inferred, and
its tasks need nothing but what is listed.** -/
theorem build_strict :
    dag.build registry .strict = .ok graph ↔
      dag.build registry .infer = .ok graph ∧ dag.ListsNeeds graph.tasks := by
  simp only [build_eq_ok, resolve_eq_ok, resolves_strict]
  constructor
  · rintro ⟨⟨targeted, h, hneeds⟩, hfaults⟩
    exact ⟨⟨⟨targeted, h⟩, hfaults⟩, hneeds⟩
  · rintro ⟨⟨⟨targeted, h⟩, hfaults⟩, hneeds⟩
    exact ⟨⟨targeted, h, hneeds⟩, hfaults⟩

end Dag

/-! ## Pipelines -/

/-- Under a policy a pipeline is compiled from the graphs that are built under it, and of the
options it depends on no other. -/
theorem compile_withPolicy (registry : Registry) (options : Options) (provider : MetadataProvider)
    (entry : TemplateKey) (metadata : Option PackageMetadata) (policy : NeedsPolicy) :
    compile registry { options with needsPolicy := policy } provider entry metadata =
      compileWith (·.build registry policy) registry options provider entry metadata :=
  rfl

/-- **What compiles under the strict policy compiles to the same when needs are inferred.** -/
theorem compile_infer_of_strict {registry : Registry} {options : Options}
    {provider : MetadataProvider} {entry : TemplateKey} {metadata : Option PackageMetadata}
    {pipeline : Pipeline}
    (h : compile registry { options with needsPolicy := .strict } provider entry metadata =
      .ok pipeline) :
    compile registry { options with needsPolicy := .infer } provider entry metadata =
      .ok pipeline := by
  rw [compile_withPolicy] at h ⊢
  refine compileWith_mono (fun _ _ hdag => hdag) ?_ h
  intro dag graph hbuild
  exact (Dag.build_strict.mp hbuild).1

/-! ## After every history -/

namespace History

/-- **The strict policy restricts the one that infers needs.** It builds exactly those graphs in
which each task needs what is listed for it, each once, and nothing more; and whatever was built
before, a pipeline that is compiled under it is the one that is compiled when needs are inferred,
its nested DAGs included. -/
theorem strict_restricts_infer :
    (∀ (registry : Registry) (dag : Dag) (graph : Graph),
      dag.build registry .strict = .ok graph ↔
        dag.build registry .infer = .ok graph ∧
          List.Forall₂ (fun declared task => task.needs = distinct declared.needs)
            dag.tasks graph.tasks) ∧
    ∀ (history : List Operation) (name : String) (options : Options) (provider : MetadataProvider)
      (entry : TemplateKey) (metadata : Option PackageMetadata) (pipeline : Pipeline),
      (after history).compiled name { options with needsPolicy := .strict } provider entry
          metadata = .ok pipeline →
        (after history).compiled name { options with needsPolicy := .infer } provider entry
          metadata = .ok pipeline := by
  refine ⟨fun registry dag graph => Dag.build_strict, ?_⟩
  intro history name options provider entry metadata pipeline h
  rw [(sound_after history).compiled_eq] at h ⊢
  exact compile_infer_of_strict h

/-- The DAG that shouts all lines of a text, with the need listed. -/
def shoutInTurn : Dag :=
  { shoutAll with
    tasks := shoutAll.tasks.map fun task =>
      if task.name = "shout" then task.need "split" else task }

/-- A history in which a DAG lists what another reads without listing it. -/
def turnHistory : List Operation :=
  [.declare shoutInTurn.redraft, .registerFunction "main" splitText,
   .registerFunction "main" shoutLine, .registerDag "main" 0, .graph "main" 0 .infer]

theorem turnHistory_strict_restricts_infer :
    (shoutAll.build textTools .strict).isOk = false ∧
    (shoutAll.build textTools .infer).isOk = true ∧
    ∃ pipeline,
      (after turnHistory).compiled "main" { needsPolicy := .strict } (MetadataProvider.ofList [])
          shoutAll.key none = .ok pipeline ∧
        (after turnHistory).compiled "main" { needsPolicy := .infer } (MetadataProvider.ofList [])
          shoutAll.key none = .ok pipeline := by
  have hstrict : ((after turnHistory).compiled "main" { needsPolicy := .strict }
      (MetadataProvider.ofList []) shoutAll.key none).isOk = true := by cbv
  refine ⟨by cbv, by cbv, ?_⟩
  obtain ⟨pipeline, hpipeline⟩ := exists_of_isOk hstrict
  refine ⟨pipeline, hpipeline, ?_⟩
  exact strict_restricts_infer.2 turnHistory "main" {} (MetadataProvider.ofList []) shoutAll.key
    none pipeline hpipeline

end History

end Recipe
