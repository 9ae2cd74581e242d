import Recipe.Proofs.Outcome
import Recipe.Registry
import Mathlib.Data.List.Nodup

/-!
# Looking up templates

What a registry has under a key is a template of that key, and stays what it has under it when more
templates are registered.
-/

set_option autoImplicit false

namespace Recipe.Registry

variable {registry : Registry} {key : TemplateKey}

theorem get_eq_ok {template : Template} :
    registry.get key = .ok template ↔ registry.find? key = some template := by
  unfold get
  cases registry.find? key with
  | none => simp [throw_ne_ok]
  | some found => simp [pure_eq_ok]

theorem definition_eq_ok {definition : Definition} :
    registry.definition key = .ok definition ↔
      ∃ template, registry.get key = .ok template ∧ template.definition = definition := by
  rw [Registry.definition, map_eq_ok]

theorem dag_eq_ok {dag : Dag} :
    registry.dag key = .ok dag ↔ registry.get key = .ok (.dag dag) := by
  rw [Registry.dag, bind_eq_ok]
  constructor
  · rintro ⟨template, htemplate, h⟩
    cases template with
    | function run => exact (throw_ne_ok.mp h).elim
    | dag found =>
        rw [pure_eq_ok] at h
        rw [htemplate, h]
  · intro h
    exact ⟨.dag dag, h, rfl⟩

theorem key_of_get {template : Template} (h : registry.get key = .ok template) :
    template.key = key := by
  simpa using List.find?_some (get_eq_ok.mp h)

theorem get_eq_ok_of_nodup (h : registry.keys.Nodup) {template : Template} :
    registry.get key = .ok template ↔ template ∈ registry.templates ∧ template.key = key := by
  constructor
  · intro hget
    exact ⟨List.mem_of_find?_eq_some (get_eq_ok.mp hget), key_of_get hget⟩
  · rintro ⟨hmem, rfl⟩
    rw [get_eq_ok, find?]
    cases hfound : registry.templates.find? (·.key = template.key) with
    | none =>
        have hne := List.find?_eq_none.mp hfound template hmem
        simp at hne
    | some other =>
        have hkey : other.key = template.key := by simpa using List.find?_some hfound
        rw [List.inj_on_of_nodup_map h (List.mem_of_find?_eq_some hfound) hmem hkey]

theorem key_of_definition {definition : Definition}
    (h : registry.definition key = .ok definition) : definition.key = key := by
  obtain ⟨template, htemplate, rfl⟩ := definition_eq_ok.mp h
  exact key_of_get htemplate

/-- A DAG and a definition under one key belong together. -/
theorem definition_of_dag {dag : Dag} {definition : Definition} (hdag : registry.dag key = .ok dag)
    (hdefinition : registry.definition key = .ok definition) : dag.definition = definition := by
  obtain ⟨template, htemplate, rfl⟩ := definition_eq_ok.mp hdefinition
  rw [dag_eq_ok, htemplate, Except.ok.injEq] at hdag
  rw [hdag]
  rfl

theorem mem_of_dag {dag : Dag} (h : registry.dag key = .ok dag) :
    Template.dag dag ∈ registry.templates :=
  List.mem_of_find?_eq_some (get_eq_ok.mp (dag_eq_ok.mp h))

/-! ## More templates -/

/-- A registry has under each key what another has under it. -/
def Extends (larger smaller : Registry) : Prop :=
  ∀ key template, smaller.get key = .ok template → larger.get key = .ok template

theorem Extends.definition {larger : Registry} (h : larger.Extends registry)
    {definition : Definition} (hdefinition : registry.definition key = .ok definition) :
    larger.definition key = .ok definition := by
  obtain ⟨template, htemplate, rfl⟩ := definition_eq_ok.mp hdefinition
  exact definition_eq_ok.mpr ⟨template, h key template htemplate, rfl⟩

theorem register_eq_ok {larger : Registry} {template : Template} :
    registry.register template = .ok larger ↔
      template.key ∉ registry.keys ∧
        { registry with templates := registry.templates ++ [template] } = larger := by
  rw [register, guard_eq_ok, pure_eq_ok]

theorem extends_of_register {larger : Registry} {template : Template}
    (h : registry.register template = .ok larger) : larger.Extends registry := by
  obtain ⟨-, rfl⟩ := register_eq_ok.mp h
  intro key found hfound
  rw [get_eq_ok, find?] at hfound ⊢
  rw [List.find?_append, hfound]
  rfl

end Recipe.Registry
