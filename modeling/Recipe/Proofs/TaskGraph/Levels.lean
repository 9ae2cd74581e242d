import Recipe.Proofs.TaskGraph.ExecutionOrder

/-!
# Levels

Tasks that are put on levels in an order in which they can be run are each on a level above all that
they need (`IsLeveling`). A task is put above those of its needs that have a level by then, and in
such an order these are all of them.
-/

set_option autoImplicit false

namespace Recipe.TaskGraph

open Relation

variable {nodes first rest : List Node} {known : List (String × Nat)} {levels : List (List Node)}
  {node : Node}

/-! ## One more task -/

/-- The level that a task is placed on has it last, and all others stay. -/
theorem getD_placeAt (node : Node) (n : Nat) (levels : List (List Node)) (i : Nat) :
    (placeAt node n levels).getD i [] =
      if i = n then levels.getD i [] ++ [node] else levels.getD i [] := by
  simp only [List.getD_eq_getElem?_getD]
  induction n generalizing levels i with
  | zero => cases levels <;> cases i <;> simp [placeAt]
  | succ n ih => cases levels <;> cases i <;> simp [placeAt, ih]

theorem mem_getD_placeAt {other : Node} {n i : Nat} :
    other ∈ (placeAt node n levels).getD i [] ↔
      other ∈ levels.getD i [] ∨ i = n ∧ other = node := by
  rw [getD_placeAt]
  by_cases hi : i = n
  · simp [hi]
  · simp [hi]

theorem flatten_placeAt_perm (node : Node) (n : Nat) (levels : List (List Node)) :
    (placeAt node n levels).flatten.Perm (levels.flatten ++ [node]) := by
  induction n generalizing levels with
  | zero =>
      cases levels with
      | nil => exact List.Perm.refl _
      | cons level rest =>
          rw [placeAt, List.flatten_cons, List.flatten_cons, List.append_assoc, List.append_assoc]
          exact List.Perm.append_left level List.perm_append_comm
  | succ n ih =>
      cases levels with
      | nil => exact ih []
      | cons level rest =>
          rw [placeAt, List.flatten_cons, List.flatten_cons, List.append_assoc]
          exact List.Perm.append_left level (ih rest)

theorem mem_flatten_of_mem_getD {i : Nat} (h : node ∈ levels.getD i []) :
    node ∈ levels.flatten := by
  rw [List.getD_eq_getElem?_getD] at h
  cases hlevel : levels[i]? with
  | none => simp [hlevel] at h
  | some level =>
      rw [hlevel, Option.getD_some] at h
      exact List.mem_flatten_of_mem (List.mem_of_getElem? hlevel) h

/-! ## The level of a task -/

theorem le_foldl_max {xs : List Nat} {x start : Nat} (h : x = start ∨ x ∈ xs) :
    x ≤ xs.foldl max start := by
  induction xs generalizing x start with
  | nil =>
      have hx : x = start := h.resolve_right List.not_mem_nil
      exact hx.le
  | cons y rest ih =>
      have hstart : max start y ≤ rest.foldl max (max start y) := ih (Or.inl rfl)
      rcases h with rfl | h
      · exact (le_max_left x y).trans hstart
      rcases List.mem_cons.mp h with rfl | h
      · exact (le_max_right start x).trans hstart
      · exact ih (Or.inr h)

theorem lt_levelOf {need : String} {i : Nat} (hneed : need ∈ node.needs)
    (hknown : known.lookup need = some i) : i < levelOf known node := by
  have hmem : i + 1 ∈ (node.needs.filterMap (List.lookup · known)).map (· + 1) :=
    List.mem_map_of_mem (List.mem_filterMap.mpr ⟨need, hneed, hknown⟩)
  exact le_foldl_max (Or.inr hmem)

/-! ## Levels of some tasks -/

/-- Levels on which some tasks can be run: they have all of them, each once and above all that it
needs. -/
structure IsLeveling (nodes : List Node) (levels : List (List Node)) : Prop where
  perm : levels.flatten.Perm nodes
  above : ∀ (i j : Nat), ∀ a ∈ levels.getD i [], ∀ b ∈ levels.getD j [], a.name ∈ b.needs → i < j

/-- Levels of the tasks so far, with what is known of them: the level of each. -/
structure Leveled (nodes : List Node) (known : List (String × Nat)) (levels : List (List Node)) :
    Prop extends IsLeveling nodes levels where
  known : ∀ (i : Nat), ∀ node ∈ levels.getD i [], known.lookup node.name = some i

theorem leveled_nil : Leveled [] [] [] where
  perm := List.Perm.refl _
  above := by simp
  known := by simp

theorem Leveled.mem (h : Leveled nodes known levels) {i : Nat} (hnode : node ∈ levels.getD i []) :
    node ∈ nodes :=
  h.perm.subset (mem_flatten_of_mem_getD hnode)

/-- **One more task can be put on its level** if its name is new and it is not needed so far. -/
theorem Leveled.place (h : Leveled nodes known levels) (hname : node.name ∉ nodes.map Node.name)
    (hneeded : ∀ other ∈ nodes ++ [node], node.name ∉ other.needs) :
    Leveled (nodes ++ [node]) ((node.name, levelOf known node) :: known)
      (placeAt node (levelOf known node) levels) := by
  have hself : node.name ∉ node.needs := hneeded node (by simp)
  refine { perm := ?_, above := ?_, known := ?_ }
  · exact (flatten_placeAt_perm node _ levels).trans (h.perm.append_right [node])
  -- of two tasks the new one is the one that needs the other, if it is either
  · intro i j a ha b hb hneed
    rcases mem_getD_placeAt.mp ha with hfirst | ⟨rfl, rfl⟩
    · rcases mem_getD_placeAt.mp hb with hsecond | ⟨rfl, rfl⟩
      · exact h.above i j a hfirst b hsecond hneed
      · exact lt_levelOf hneed (h.known i a hfirst)
    · rcases mem_getD_placeAt.mp hb with hsecond | ⟨rfl, rfl⟩
      · exact (hneeded b (List.mem_append_left _ (h.mem hsecond)) hneed).elim
      · exact (hself hneed).elim
  · intro i other hother
    rcases mem_getD_placeAt.mp hother with hfirst | ⟨rfl, rfl⟩
    · have hne : other.name ≠ node.name := by
        intro heq
        exact hname (heq ▸ List.mem_map_of_mem (h.mem hfirst))
      rw [List.lookup_cons, beq_eq_false_iff_ne.mpr hne]
      exact h.known i other hfirst
    · exact List.lookup_cons_self

/-- In an order in which tasks can be run, the next one has a new name and is not needed so far. -/
theorem IsExecutionOrder.next (hnodup : ((first ++ node :: rest).map Node.name).Nodup)
    (horder : IsExecutionOrder nodes (first ++ node :: rest)) :
    node.name ∉ first.map Node.name ∧ ∀ other ∈ first ++ [node], node.name ∉ other.needs := by
  constructor
  · rw [List.map_append, List.map_cons] at hnodup
    intro hmem
    exact (List.nodup_append.mp hnodup).2.2 _ hmem _ List.mem_cons_self rfl
  · intro other hother hneed
    obtain ⟨k, hk⟩ := List.mem_iff_getElem?.mp hother
    have hlt : k < (first ++ [node]).length := (List.getElem?_eq_some_iff.mp hk).1
    have hplace : (first ++ node :: rest)[first.length]? = some node := by simp
    have hearlier : (first ++ node :: rest)[k]? = some other := by
      have hsplit : first ++ node :: rest = (first ++ [node]) ++ rest := by simp
      rw [hsplit, List.getElem?_append_left hlt]
      exact hk
    -- so the other task would have to come after the one that it needs
    have hbefore := horder.needs first.length k node other hplace hearlier hneed
    rw [List.length_append, List.length_singleton] at hlt
    omega

/-- **Tasks in an order in which they can be run are put above all that they need.** -/
theorem Leveled.isLeveling_levelsFrom (h : Leveled first known levels)
    (hnodup : ((first ++ rest).map Node.name).Nodup)
    (horder : IsExecutionOrder nodes (first ++ rest)) :
    IsLeveling (first ++ rest) (levelsFrom known levels rest) := by
  -- the tasks move over one by one to those that have a level
  induction rest generalizing first known levels with
  | nil =>
      rw [List.append_nil]
      exact h.toIsLeveling
  | cons node rest ih =>
      obtain ⟨hname, hneeded⟩ := horder.next hnodup
      have hsplit : first ++ node :: rest = (first ++ [node]) ++ rest := by simp
      rw [hsplit] at hnodup horder ⊢
      exact ih (h.place hname hneeded) hnodup horder

/-! ## Levels of a graph -/

/-- **A graph without cycles has levels on which its tasks can be run.** -/
theorem exists_levels_wiring (h : Wireable nodes)
    (hacyclic : ∀ name, ¬ TransGen (Precedes nodes) name name) :
    ∃ levels, (wiring nodes).levels = .ok levels ∧ IsLeveling nodes levels := by
  obtain ⟨order, hok, horder, -⟩ := exists_order_wiring h hacyclic
  have hlevels : IsLeveling ([] ++ order) (levelsFrom [] [] order) :=
    leveled_nil.isLeveling_levelsFrom (horder.names_nodup h) horder
  rw [List.nil_append] at hlevels
  refine ⟨levelsFrom [] [] order, ?_, hlevels.perm.trans horder.perm, hlevels.above⟩
  rw [TaskGraph.levels, hok]
  rfl

theorem IsLeveling.lt (hlevels : IsLeveling nodes levels) (h : Wireable nodes) {need name : String}
    (hneed : Precedes nodes need name) {i j : Nat}
    (hi : need ∈ (levels.getD i []).map Node.name)
    (hj : name ∈ (levels.getD j []).map Node.name) : i < j := by
  obtain ⟨a, ha, rfl⟩ := List.mem_map.mp hi
  obtain ⟨b, hb, rfl⟩ := List.mem_map.mp hj
  obtain ⟨b', hb', hname, hmem⟩ := hneed
  -- the task that needs the other is the one on the level, since names are distinct
  have hsame : b' = b :=
    List.inj_on_of_nodup_map h.nodup hb' (hlevels.perm.subset (mem_flatten_of_mem_getD hb)) hname
  rw [hsame] at hmem
  exact hlevels.above i j a ha b hb hmem

end Recipe.TaskGraph
