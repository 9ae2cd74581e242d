import Mathlib.Control.Basic
import Recipe.Build

/-!
# Exchanged arguments

A graph is built from what arguments resolve to, not from how they are declared. When all arguments
of a DAG are exchanged for ones that resolve as they do, the graph is the same, or the fault is
(`Dag.build_exchange`).
-/

set_option autoImplicit false

namespace Recipe

/-! ## Exchange -/

/-- The task with all arguments exchanged, and that of its loop. -/
def TaskDeclaration.exchange (g : Argument → Argument) (task : TaskDeclaration) :
    TaskDeclaration :=
  { task with
    arguments := task.arguments.map fun argument => (argument.1, g argument.2)
    loop := task.loop.map g }

def TargetedTask.exchange (g : Argument → Argument) (entry : TargetedTask) : TargetedTask :=
  { entry with task := entry.task.exchange g }

/-- The DAG with another identity, and with the arguments of its tasks exchanged. -/
def Dag.exchange (f : Nat → Nat) (g : Argument → Argument) (dag : Dag) : Dag :=
  { dag with
    id := f dag.id
    tasks := dag.tasks.map (·.exchange g) }

/-- A scope resolves what arguments are exchanged for as another resolves the arguments. -/
structure Scope.Exchanges (other scope : Scope) (g : Argument → Argument) : Prop where
  graph : other.graph = scope.graph
  tasks : other.tasks = scope.tasks
  resolve : ∀ argument site, other.resolve (g argument) site = scope.resolve argument site

/-! ## Tasks -/

section Tasks

variable {g : Argument → Argument} {other scope : Scope} {entry : TargetedTask}

theorem TargetedTask.boundArguments_exchange (h : other.Exchanges scope g)
    (arguments : List (String × Argument)) (bound : List String) :
    (entry.exchange g).boundArguments other bound
        (arguments.map fun argument => (argument.1, g argument.2)) =
      entry.boundArguments scope bound arguments := by
  induction arguments generalizing bound with
  | nil => rfl
  | cons first rest ih =>
      obtain ⟨name, argument⟩ := first
      have hfirst : (entry.exchange g).boundArgument other bound name (g argument) =
          entry.boundArgument scope bound name argument := by
        unfold boundArgument
        simp only [h.resolve]
        rfl
      rw [List.map_cons, boundArguments, boundArguments, ih, hfirst]

theorem TargetedTask.loopSource_exchange (h : other.Exchanges scope g) (argument : Argument) :
    (entry.exchange g).loopSource other (g argument) = entry.loopSource scope argument := by
  unfold loopSource
  simp only [h.resolve]
  rfl

theorem TargetedTask.withProducers_exchange (policy : NeedsPolicy)
    (needs producers : List String) :
    (entry.exchange g).withProducers policy needs producers =
      entry.withProducers policy needs producers := by
  induction producers generalizing needs with
  | nil => rfl
  | cons producer rest ih =>
      -- the task is part of a fault only, and there by its name, which stays
      rw [withProducers.eq_def, withProducers.eq_def entry]
      simp only [ih]
      rfl

/-- A task with exchanged arguments is resolved alike. -/
theorem TargetedTask.resolve_exchange (h : other.Exchanges scope g) (policy : NeedsPolicy)
    (package : PackageId) :
    (entry.exchange g).resolve other policy package = entry.resolve scope policy package := by
  have harguments : (entry.exchange g).boundArguments other [] (entry.exchange g).task.arguments =
      entry.boundArguments scope [] entry.task.arguments :=
    boundArguments_exchange h entry.task.arguments []
  -- only arguments and the loop are exchanged; each other part is the same function of the same
  -- fields
  have hloop : (entry.exchange g).task.loop.mapM ((entry.exchange g).loopSource other) =
      entry.task.loop.mapM (entry.loopSource scope) := by
    show (entry.task.loop.map g).mapM _ = _
    cases entry.task.loop with
    | none => rfl
    | some argument =>
        rw [Option.map_some, Option.mapM_some, Option.mapM_some, loopSource_exchange h]
  have hneeds : (entry.exchange g).declaredNeeds other = entry.declaredNeeds scope := by
    unfold declaredNeeds
    rw [h.tasks, h.graph]
    rfl
  unfold resolve
  simp only [harguments, hloop, hneeds, withProducers_exchange]
  rfl

theorem DagOutput.resolve_exchange (h : other.Exchanges scope g) (output : DagOutput) :
    output.resolve other = output.resolve scope := by
  have houtput : ∀ task name site, other.output task name site = scope.output task name site := by
    intro task name site
    simp only [Scope.output, Scope.task?, h.tasks, h.graph]
  unfold DagOutput.resolve
  simp only [houtput, h.graph]

end Tasks

/-! ## DAGs -/

theorem targetedTasks_exchange {other registry : Registry}
    (h : ∀ key, other.definition key = registry.definition key) (g : Argument → Argument)
    (graph : String) (seen : List String) (tasks : List TaskDeclaration) :
    targetedTasks other graph seen (tasks.map (·.exchange g)) =
      List.map (TargetedTask.exchange g) <$> targetedTasks registry graph seen tasks := by
  induction tasks generalizing seen with
  | nil => rfl
  | cons task rest ih =>
      have hname : (task.exchange g).name = task.name := rfl
      have htemplate : (task.exchange g).template = task.template := rfl
      rw [List.map_cons, targetedTasks, targetedTasks, hname, htemplate, h, ih]
      cases registry.definition task.template with
      | error fault => rfl
      | ok target =>
          by_cases hseen : task.name ∈ seen
          · simp only [if_pos hseen]
            rfl
          · simp only [if_neg hseen]
            cases targetedTasks registry graph (task.name :: seen) rest <;> rfl

namespace Dag

variable {dag : Dag} {f : Nat → Nat} {g : Argument → Argument}

/-- All arguments resolve alike in the DAG after the exchange, whatever its tasks run. -/
def ExchangesAlike (dag : Dag) (f : Nat → Nat) (g : Argument → Argument) : Prop :=
  ∀ targeted argument site, ((dag.exchange f g).scope targeted).resolve (g argument) site =
    (dag.scope targeted).resolve argument site

theorem ExchangesAlike.scope (hg : dag.ExchangesAlike f g) (targeted : List TargetedTask) :
    ((dag.exchange f g).scope (targeted.map (·.exchange g))).Exchanges (dag.scope targeted) g := by
  have hscope : (dag.exchange f g).scope (targeted.map (·.exchange g)) =
      (dag.exchange f g).scope targeted := by
    simp only [Dag.scope, List.map_map]
    rfl
  rw [hscope]
  exact { graph := rfl, tasks := rfl, resolve := hg targeted }

theorem resolve_exchange {other registry : Registry}
    (h : ∀ key, other.definition key = registry.definition key) (hg : dag.ExchangesAlike f g)
    (policy : NeedsPolicy) :
    (dag.exchange f g).resolve other policy = dag.resolve registry policy := by
  have htargeted : targetedTasks other (dag.exchange f g).definition.name []
      (dag.exchange f g).tasks = List.map (TargetedTask.exchange g) <$>
        targetedTasks registry dag.definition.name [] dag.tasks :=
    targetedTasks_exchange h g dag.definition.name [] dag.tasks
  simp only [resolve]
  -- both sides go through the same steps with the same results, so they fail alike
  rw [htargeted, bind_map_left]
  refine bind_congr fun targeted => ?_
  have hscope := hg.scope targeted
  have htasks : (targeted.map (·.exchange g)).mapM (fun entry => entry.resolve
      ((dag.exchange f g).scope (targeted.map (·.exchange g))) policy dag.definition.package) =
      targeted.mapM fun entry => entry.resolve (dag.scope targeted) policy
        dag.definition.package := by
    rw [List.mapM_map]
    simp only [Function.comp_def, TargetedTask.resolve_exchange hscope]
  have houtputs : dag.outputs.mapM (fun output => output.resolve
      ((dag.exchange f g).scope (targeted.map (·.exchange g)))) =
      dag.outputs.mapM fun output => output.resolve (dag.scope targeted) := by
    simp only [DagOutput.resolve_exchange hscope]
  show ((targeted.map (·.exchange g)).mapM (fun entry => entry.resolve
      ((dag.exchange f g).scope (targeted.map (·.exchange g))) policy dag.definition.package) >>=
        _) = _
  rw [htasks]
  refine bind_congr fun tasks => ?_
  show (dag.outputs.mapM (fun output => output.resolve
      ((dag.exchange f g).scope (targeted.map (·.exchange g)))) >>= _) = _
  rw [houtputs]
  rfl

/-- **A DAG whose arguments resolve alike after an exchange has the same graph**, or the same
fault. -/
theorem build_exchange {other registry : Registry}
    (h : ∀ key, other.definition key = registry.definition key) (hg : dag.ExchangesAlike f g)
    (policy : NeedsPolicy) : (dag.exchange f g).build other policy = dag.build registry policy := by
  unfold build
  rw [resolve_exchange h hg]
  rfl

end Dag

end Recipe
