import Recipe.Proofs.Build.Growth
import Recipe.Proofs.Cache.Computation

/-!
# Changes around a cache

A cache that agrees with the DAGs and registries there are still does so when there are more of
them, under new identities, and when a registry grows.
-/

set_option autoImplicit false

namespace Recipe

namespace Census

variable {census : Census} {cache : GraphCache} {name : String} {registry larger : Registry}

def withRegistry (census : Census) (name : String) (registry : Registry) : Census :=
  { census with registries := census.registries.insert name registry }

def next (census : Census) : Census := { census with nextId := census.nextId + 1 }

def withDag (census : Census) (dag : Dag) : Census := { census with dags := census.dags ++ [dag] }

theorem Consistent.next (h : census.Consistent) : census.next.Consistent where
  dags_built := h.dags_built
  dags_old := fun dag hdag => Nat.lt_succ_of_lt (h.dags_old dag hdag)
  dags_unique := h.dags_unique
  names := h.names
  registries_old := fun entry hentry => Nat.lt_succ_of_lt (h.registries_old entry hentry)
  registries_unique := h.registries_unique
  drawn := h.drawn

theorem agrees_next (h : cache.Agrees census) : cache.Agrees census.next where
  old := by
    intro key slot hmem
    obtain ⟨hdag, howner⟩ := h.old key slot hmem
    exact ⟨Nat.lt_succ_of_lt hdag, Nat.lt_succ_of_lt howner⟩
  graph := h.graph

/-- A registry with a new identity may take any name. -/
theorem Consistent.place (h : census.Consistent) (hid : registry.id = census.nextId)
    (hdraws : registry.DrawsOn census.dags) (name : String) :
    (census.next.withRegistry name registry).Consistent where
  dags_built := h.dags_built
  dags_old := h.next.dags_old
  dags_unique := h.dags_unique
  names := Table.nodup_names_insert h.names
  registries_old := by
    intro entry hentry
    rcases (Table.mem_insert h.names).mp hentry with rfl | ⟨hentry, -⟩
    · show registry.id < census.nextId + 1
      omega
    · exact h.next.registries_old entry hentry
  registries_unique := by
    intro entry hentry other hother heq
    rcases (Table.mem_insert h.names).mp hentry with rfl | ⟨hentry, -⟩ <;>
      rcases (Table.mem_insert h.names).mp hother with rfl | ⟨hother, -⟩
    · rfl
    · have hold := h.registries_old other hother
      simp only at heq
      omega
    · have hold := h.registries_old entry hentry
      simp only at heq
      omega
    · exact h.registries_unique entry hentry other hother heq
  drawn := by
    intro entry hentry
    rcases (Table.mem_insert h.names).mp hentry with rfl | ⟨hentry, -⟩
    · exact hdraws
    · exact h.drawn entry hentry

theorem agrees_place (h : cache.Agrees census) (hconsistent : census.Consistent)
    (hid : registry.id = census.nextId) (name : String) :
    cache.Agrees (census.next.withRegistry name registry) where
  old := (agrees_next h).old
  -- no slot is owned by an identity that is given out only now
  graph := by
    intro key slot hmem dag hdag hkey entry hentry howner
    rcases (Table.mem_insert hconsistent.names).mp hentry with rfl | ⟨hentry, -⟩
    · have hold := (h.old key slot hmem).2
      simp only at howner
      omega
    · exact h.graph key slot hmem dag hdag hkey entry hentry howner

/-- A registry may be replaced by a larger one of the same identity. -/
theorem Consistent.grow (h : census.Consistent) (hregistry : (name, registry) ∈ census.registries)
    (hid : larger.id = registry.id) (hdraws : larger.DrawsOn census.dags) :
    (census.withRegistry name larger).Consistent where
  dags_built := h.dags_built
  dags_old := h.dags_old
  dags_unique := h.dags_unique
  names := Table.nodup_names_insert h.names
  registries_old := by
    intro entry hentry
    rcases (Table.mem_insert h.names).mp hentry with rfl | ⟨hentry, -⟩
    · show larger.id < census.nextId
      rw [hid]
      exact h.registries_old _ hregistry
    · exact h.registries_old entry hentry
  registries_unique := by
    -- the registry that is replaced is the only one of its identity
    have hother : ∀ other ∈ census.registries, other.1 ≠ name → other.2.id ≠ larger.id := by
      intro other hother hne heq
      have hsame := h.registries_unique other hother _ hregistry (heq.trans hid)
      exact hne (congrArg Prod.fst hsame)
    intro entry hentry other hmem heq
    rcases (Table.mem_insert h.names).mp hentry with rfl | ⟨hentry, hne⟩ <;>
      rcases (Table.mem_insert h.names).mp hmem with rfl | ⟨hmem, hne'⟩
    · rfl
    · exact (hother other hmem hne' heq.symm).elim
    · exact (hother entry hentry hne heq).elim
    · exact h.registries_unique entry hentry other hmem heq
  drawn := by
    intro entry hentry
    rcases (Table.mem_insert h.names).mp hentry with rfl | ⟨hentry, -⟩
    · exact hdraws
    · exact h.drawn entry hentry

theorem agrees_grow (h : cache.Agrees census) (hconsistent : census.Consistent)
    (hregistry : (name, registry) ∈ census.registries) (hid : larger.id = registry.id)
    (hextends : larger.Extends registry) : cache.Agrees (census.withRegistry name larger) where
  old := h.old
  graph := by
    intro key slot hmem dag hdag hkey entry hentry howner
    rcases (Table.mem_insert hconsistent.names).mp hentry with rfl | ⟨hentry, -⟩
    -- a slot of the registry that grew was filled when it was smaller, and has the same graph
    · refine Dag.build_of_extends hextends ?_
      exact h.graph key slot hmem dag hdag hkey _ hregistry (hid.symm.trans howner)
    · exact h.graph key slot hmem dag hdag hkey entry hentry howner

theorem Consistent.withDag (h : census.Consistent) {dag : Dag} (hid : dag.id = census.nextId)
    (hbuilt : ∃ draft : DagDraft, draft.build = .ok dag) :
    (census.next.withDag dag).Consistent where
  dags_built := by
    intro found hfound
    rcases List.mem_append.mp hfound with hfound | hfound
    · exact h.dags_built found hfound
    · rw [List.mem_singleton.mp hfound]
      exact hbuilt
  dags_old := by
    intro found hfound
    rcases List.mem_append.mp hfound with hfound | hfound
    · exact h.next.dags_old found hfound
    · rw [List.mem_singleton.mp hfound]
      show dag.id < census.nextId + 1
      omega
  dags_unique := by
    intro found hfound other hother heq
    rcases List.mem_append.mp hfound with hfound | hfound <;>
      rcases List.mem_append.mp hother with hother | hother
    · exact h.dags_unique found hfound other hother heq
    · have hold := h.dags_old found hfound
      rw [List.mem_singleton.mp hother] at heq
      omega
    · have hold := h.dags_old other hother
      rw [List.mem_singleton.mp hfound] at heq
      omega
    · rw [List.mem_singleton.mp hfound, List.mem_singleton.mp hother]
  names := h.names
  registries_old := h.next.registries_old
  registries_unique := h.registries_unique
  drawn := by
    intro entry hentry
    have hdraws := h.drawn entry hentry
    refine ⟨hdraws.keys, ?_⟩
    intro found hfound
    exact List.mem_append_left _ (hdraws.dags found hfound)

theorem agrees_withDag (h : cache.Agrees census) {dag : Dag} (hid : dag.id = census.nextId) :
    cache.Agrees (census.next.withDag dag) where
  old := (agrees_next h).old
  graph := by
    intro key slot hmem found hfound hkey
    rcases List.mem_append.mp hfound with hfound | hfound
    · exact h.graph key slot hmem found hfound hkey
    · have hold := (h.old key slot hmem).1
      rw [List.mem_singleton.mp hfound] at hkey
      omega

end Census

end Recipe
