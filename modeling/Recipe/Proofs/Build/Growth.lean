import Recipe.Proofs.Build.Resolution
import Recipe.Proofs.Registry

/-!
# Graphs in growing registries

A DAG that has a graph keeps it when more templates are registered: all that the graph depends on is
what is registered under the keys of its tasks, and that stays.
-/

set_option autoImplicit false

namespace Recipe.Dag

variable {dag : Dag} {registry larger : Registry} {policy : NeedsPolicy}
  {targeted : List TargetedTask} {graph : Graph}

theorem Targeted.of_extends (h : dag.Targeted registry targeted)
    (hextends : larger.Extends registry) : dag.Targeted larger targeted where
  names_distinct := h.names_distinct
  targets := h.targets.imp fun _ _ htargets =>
    ⟨htargets.declaration, hextends.definition htargets.target⟩

theorem Resolves.of_extends (h : dag.Resolves registry policy targeted graph)
    (hextends : larger.Extends registry) : dag.Resolves larger policy targeted graph :=
  { h with lookup := h.lookup.of_extends hextends }

theorem resolve_of_extends (hextends : larger.Extends registry)
    (hresolve : dag.resolve registry policy = .ok graph) :
    dag.resolve larger policy = .ok graph := by
  obtain ⟨targeted, h⟩ := resolve_eq_ok.mp hresolve
  exact resolve_eq_ok.mpr ⟨targeted, h.of_extends hextends⟩

/-- **A graph that was built stays the same when the registry grows.** -/
theorem build_of_extends (hextends : larger.Extends registry)
    (hbuild : dag.build registry policy = .ok graph) : dag.build larger policy = .ok graph := by
  obtain ⟨hresolve, hfaults⟩ := build_eq_ok.mp hbuild
  exact build_eq_ok.mpr ⟨resolve_of_extends hextends hresolve, hfaults⟩

end Recipe.Dag
