import Recipe.Proofs.TaskGraph.Levels
import Mathlib.Data.List.GetD

/-!
# Levels and longest chains

The level of a task says how long a chain of needs can lead to it, and there are as many levels as
there are tasks in the longest chain (`levels_longest_chains`). No chain is longer, since levels go
up along it; and there is one as long, since a task above the first level needs one on the level just
below (`Compact`), from which a chain goes down to the first level.
-/

set_option autoImplicit false

namespace Recipe.TaskGraph

open Relation

variable {nodes first rest order : List Node} {known : List (String × Nat)}
  {levels : List (List Node)} {node : Node}

/-! ## Chains of needs -/

/-- A chain of needs from a task back: each task needs the one behind it. -/
structure IsNeedChain (nodes chain : List Node) : Prop where
  tasks : chain ⊆ nodes
  needs : chain.IsChain fun task need => need.name ∈ task.needs

/-- The lengths of the chains of needs that lead to a task. -/
def chainLengths (nodes : List Node) (node : Node) : Set Nat :=
  { n | ∃ rest, IsNeedChain nodes (node :: rest) ∧ (node :: rest).length = n }

/-- The levels of tasks that are run in some order, told by the chains of needs that lead to them:
each task is on one level, none of which is empty, its level is as long as the longest chain, and on
a level the tasks keep their order. -/
structure HasChainLevels (nodes order : List Node) (levels : List (List Node)) : Prop where
  perm : levels.flatten.Perm nodes
  nodup : levels.flatten.Nodup
  nonempty : ∀ level ∈ levels, level ≠ []
  height : ∀ (i : Nat) (level : List Node), levels[i]? = some level → ∀ node ∈ level,
    IsGreatest (chainLengths nodes node) (i + 1)
  count : IsGreatest { n | ∃ chain, IsNeedChain nodes chain ∧ chain.length = n } levels.length
  sublist : ∀ level ∈ levels, level.Sublist order

/-! ## Levels without gaps -/

theorem foldl_max_mem (xs : List Nat) (start : Nat) :
    xs.foldl max start = start ∨ xs.foldl max start ∈ xs := by
  induction xs generalizing start with
  | nil => exact Or.inl rfl
  | cons x rest ih =>
      rw [List.foldl_cons]
      rcases ih (max start x) with heq | hmem
      · rw [heq]
        rcases max_choice start x with hstart | hx
        · exact Or.inl hstart
        · exact Or.inr (List.mem_cons.mpr (Or.inl hx))
      · exact Or.inr (List.mem_cons_of_mem _ hmem)

theorem levelOf_eq_zero_or (known : List (String × Nat)) (node : Node) :
    levelOf known node = 0 ∨
      ∃ need ∈ node.needs, ∃ i, known.lookup need = some i ∧ levelOf known node = i + 1 := by
  rcases foldl_max_mem ((node.needs.filterMap (List.lookup · known)).map (· + 1)) 0 with h | h
  · exact Or.inl h
  · obtain ⟨i, hi, hlevel⟩ := List.mem_map.mp h
    obtain ⟨need, hneed, hlookup⟩ := List.mem_filterMap.mp hi
    exact Or.inr ⟨need, hneed, i, hlookup, hlevel.symm⟩

theorem length_placeAt (node : Node) (n : Nat) (levels : List (List Node)) :
    (placeAt node n levels).length = max levels.length (n + 1) := by
  induction n generalizing levels with
  | zero => cases levels <;> simp [placeAt]
  | succ n ih => cases levels <;> simp [placeAt, ih]

/-- Levels of the tasks so far without gaps: none is empty, each task above the first has a need on
the level just below, and each level has its tasks in their order. -/
structure Compact (first : List Node) (known : List (String × Nat)) (levels : List (List Node)) :
    Prop where
  nonempty : ∀ i < levels.length, levels.getD i [] ≠ []
  below : ∀ (i : Nat), ∀ node ∈ levels.getD (i + 1) [],
    ∃ need ∈ levels.getD i [], need.name ∈ node.needs
  placed : ∀ (name : String) (i : Nat), known.lookup name = some i →
    ∃ node ∈ levels.getD i [], node.name = name
  sublist : ∀ (i : Nat), (levels.getD i []).Sublist first

theorem compact_nil : Compact [] [] [] where
  nonempty := by simp
  below := by simp
  placed := by simp
  sublist := by simp

theorem lt_length_of_mem_getD {i : Nat} (h : node ∈ levels.getD i []) : i < levels.length := by
  by_contra hle
  rw [List.getD_eq_default _ _ (Nat.not_lt.mp hle)] at h
  cases h

/-- **One more task leaves no gap** on the levels. -/
theorem Compact.place (h : Compact first known levels) (node : Node) :
    Compact (first ++ [node]) ((node.name, levelOf known node) :: known)
      (placeAt node (levelOf known node) levels) := by
  have hself : node ∈ (placeAt node (levelOf known node) levels).getD (levelOf known node) [] :=
    mem_getD_placeAt.mpr (Or.inr ⟨rfl, rfl⟩)
  refine { nonempty := ?_, below := ?_, placed := ?_, sublist := ?_ }
  · intro i hi hempty
    rw [getD_placeAt] at hempty
    split at hempty
    · simp at hempty
    · next hne =>
        refine h.nonempty i ?_ hempty
        rw [length_placeAt] at hi
        -- the new level is one that was there, or the next one
        rcases levelOf_eq_zero_or known node with hzero | ⟨need, -, j, hneed, hlevel⟩
        · omega
        · obtain ⟨other, hother, -⟩ := h.placed need j hneed
          have hj := lt_length_of_mem_getD hother
          omega
  · intro i other hother
    rcases mem_getD_placeAt.mp hother with hold | ⟨hlevel, rfl⟩
    · obtain ⟨need, hneed, hmem⟩ := h.below i other hold
      exact ⟨need, mem_getD_placeAt.mpr (Or.inl hneed), hmem⟩
    · rcases levelOf_eq_zero_or known other with hzero | ⟨need, hmem, j, hneed, hj⟩
      · omega
      · obtain ⟨task, htask, rfl⟩ := h.placed need j hneed
        have hij : j = i := by omega
        exact ⟨task, mem_getD_placeAt.mpr (Or.inl (hij ▸ htask)), hmem⟩
  · intro name i hlookup
    rw [List.lookup_cons] at hlookup
    split at hlookup
    · next heq =>
        rw [beq_iff_eq] at heq
        rw [← Option.some.inj hlookup]
        exact ⟨node, hself, heq.symm⟩
    · obtain ⟨task, htask, hname⟩ := h.placed name i hlookup
      exact ⟨task, mem_getD_placeAt.mpr (Or.inl htask), hname⟩
  · intro i
    rw [getD_placeAt]
    split
    · exact (h.sublist i).append (List.Sublist.refl _)
    · exact (h.sublist i).trans (List.sublist_append_left _ _)

/-- **Tasks in any order are put on levels without gaps.** -/
theorem Compact.levelsFrom (h : Compact first known levels) (rest : List Node) :
    ∃ later, Compact (first ++ rest) later (levelsFrom known levels rest) := by
  -- the tasks move over one by one to those that have a level
  induction rest generalizing first known levels with
  | nil =>
      rw [List.append_nil]
      exact ⟨known, h⟩
  | cons node rest ih =>
      have hsplit : first ++ node :: rest = (first ++ [node]) ++ rest := by simp
      rw [hsplit]
      exact ih (h.place node)

/-! ## Levels and chains -/

theorem IsLeveling.exists_level (h : IsLeveling nodes levels) (hnode : node ∈ nodes) :
    ∃ i, node ∈ levels.getD i [] := by
  obtain ⟨level, hlevel, hmem⟩ := List.mem_flatten.mp (h.perm.symm.subset hnode)
  obtain ⟨i, hi⟩ := List.mem_iff_getElem?.mp hlevel
  refine ⟨i, ?_⟩
  rw [List.getD_eq_getElem?_getD, hi, Option.getD_some]
  exact hmem

/-- **No chain of needs that leads to a task is longer than its level is high**, since levels go
down along it. -/
theorem IsLeveling.length_le (h : IsLeveling nodes levels) {chain : List Node}
    (hchain : IsNeedChain nodes (node :: chain)) {i : Nat} (hnode : node ∈ levels.getD i []) :
    (node :: chain).length ≤ i + 1 := by
  induction chain generalizing node i with
  | nil => simp
  | cons need chain ih =>
      obtain ⟨hneed, hrest⟩ := List.isChain_cons_cons.mp hchain.needs
      have htasks : need :: chain ⊆ nodes :=
        fun task htask => hchain.tasks (List.mem_cons_of_mem _ htask)
      obtain ⟨j, hj⟩ := h.exists_level (htasks List.mem_cons_self)
      have hlt : j < i := h.above j i need hj node hnode hneed
      have hle := ih ⟨htasks, hrest⟩ hj
      rw [List.length_cons]
      omega

/-- **A chain as long as the level is high leads to each task**, one step down at a time. -/
theorem Compact.exists_chain (h : Compact order known levels) (hlevels : IsLeveling nodes levels)
    {i : Nat} (hnode : node ∈ levels.getD i []) :
    ∃ chain, IsNeedChain nodes (node :: chain) ∧ chain.length = i := by
  have htask : ∀ {i : Nat} {task : Node}, task ∈ levels.getD i [] → task ∈ nodes :=
    fun hmem => hlevels.perm.subset (mem_flatten_of_mem_getD hmem)
  induction i generalizing node with
  | zero =>
      refine ⟨[], ⟨?_, List.isChain_singleton _⟩, rfl⟩
      exact List.cons_subset.mpr ⟨htask hnode, List.nil_subset _⟩
  | succ i ih =>
      obtain ⟨need, hneed, hmem⟩ := h.below i node hnode
      obtain ⟨chain, hchain, hlength⟩ := ih hneed
      refine ⟨need :: chain, ⟨?_, ?_⟩, by rw [List.length_cons, hlength]⟩
      · exact List.cons_subset.mpr ⟨htask hnode, hchain.tasks⟩
      · exact List.isChain_cons_cons.mpr ⟨hmem, hchain.needs⟩

theorem Compact.isGreatest (h : Compact order known levels) (hlevels : IsLeveling nodes levels)
    {i : Nat} (hnode : node ∈ levels.getD i []) :
    IsGreatest (chainLengths nodes node) (i + 1) := by
  constructor
  · obtain ⟨chain, hchain, hlength⟩ := h.exists_chain hlevels hnode
    exact ⟨chain, hchain, by rw [List.length_cons, hlength]⟩
  · rintro n ⟨chain, hchain, rfl⟩
    exact hlevels.length_le hchain hnode

theorem Compact.isGreatest_length (h : Compact order known levels)
    (hlevels : IsLeveling nodes levels) :
    IsGreatest { n | ∃ chain, IsNeedChain nodes chain ∧ chain.length = n } levels.length := by
  constructor
  -- from any task on the last level the chain goes down all levels
  · cases hlength : levels.length with
    | zero => exact ⟨[], ⟨List.nil_subset _, List.isChain_nil⟩, rfl⟩
    | succ last =>
        obtain ⟨node, hnode⟩ := List.exists_mem_of_ne_nil _ (h.nonempty last (by omega))
        obtain ⟨chain, hchain, rfl⟩ := h.exists_chain hlevels hnode
        exact ⟨node :: chain, hchain, rfl⟩
  · rintro n ⟨chain, hchain, rfl⟩
    cases chain with
    | nil => exact Nat.zero_le _
    | cons node chain =>
        obtain ⟨i, hi⟩ := hlevels.exists_level (hchain.tasks List.mem_cons_self)
        exact (hlevels.length_le hchain hi).trans (lt_length_of_mem_getD hi)

/-- Levels without gaps on which tasks can be run are told by chains. -/
theorem Compact.hasChainLevels (h : Compact order known levels) (hlevels : IsLeveling nodes levels)
    (hnodup : nodes.Nodup) : HasChainLevels nodes order levels := by
  have hget : ∀ {i : Nat} {level : List Node}, levels[i]? = some level →
      levels.getD i [] = level := by
    intro i level hlevel
    rw [List.getD_eq_getElem?_getD, hlevel, Option.getD_some]
  refine
    { perm := hlevels.perm
      nodup := hlevels.perm.nodup_iff.mpr hnodup
      nonempty := ?_
      height := ?_
      count := h.isGreatest_length hlevels
      sublist := ?_ }
  · intro level hmem
    obtain ⟨i, hi⟩ := List.mem_iff_getElem?.mp hmem
    rw [← hget hi]
    exact h.nonempty i (List.getElem?_eq_some_iff.mp hi).1
  · intro i level hlevel node hnode
    exact h.isGreatest hlevels (hget hlevel ▸ hnode)
  · intro level hmem
    obtain ⟨i, hi⟩ := List.mem_iff_getElem?.mp hmem
    rw [← hget hi]
    exact h.sublist i

/-! ## Levels of a graph -/

/-- **Levels are longest chains of needs.** The tasks that a graph was made of are put on levels if
none comes before itself. Each task is on one level, which is as high as the longest chain of needs
that leads to it, so that there are as many levels as there are tasks in the longest chain; no level
is empty, and each has its tasks in the order in which they are run. -/
theorem levels_longest_chains {graph : TaskGraph} (h : ofTasks nodes = .ok graph)
    (hacyclic : ∀ name, ¬ TransGen (Precedes nodes) name name) :
    ∃ order levels, graph.order = .ok order ∧ graph.levels = .ok levels ∧
      HasChainLevels nodes order levels := by
  obtain ⟨hwireable, rfl⟩ := ofTasks_eq_ok.mp h
  obtain ⟨order, hok, horder, -⟩ := exists_order_wiring hwireable hacyclic
  have hleveling : IsLeveling ([] ++ order) (levelsFrom [] [] order) :=
    leveled_nil.isLeveling_levelsFrom (horder.names_nodup hwireable) horder
  obtain ⟨known, hcompact⟩ := compact_nil.levelsFrom order
  rw [List.nil_append] at hleveling hcompact
  have hlevels : IsLeveling nodes (levelsFrom [] [] order) :=
    ⟨hleveling.perm.trans horder.perm, hleveling.above⟩
  refine ⟨order, levelsFrom [] [] order, hok, ?_, ?_⟩
  · rw [TaskGraph.levels, hok]
    rfl
  · exact hcompact.hasChainLevels hlevels hwireable.nodes_nodup

/-- Tasks on three levels: on the second one the task that comes later in the list is run first. -/
def skyTasks : List Node :=
  [⟨"publish", ["summary", "grid"]⟩, ⟨"summary", ["sky"]⟩, ⟨"preview", ["grid", "grid"]⟩,
    ⟨"grid", []⟩, ⟨"sky", []⟩]

theorem skyTasks_levels_longest_chains :
    (∀ name, ¬ TransGen (Precedes skyTasks) name name) ∧
    ∃ graph order levels, ofTasks skyTasks = .ok graph ∧ graph.order = .ok order ∧
      graph.levels = .ok levels ∧
      levels.map (·.map Node.name) = [["grid", "sky"], ["preview", "summary"], ["publish"]] ∧
      HasChainLevels skyTasks order levels := by
  have hgraph : ofTasks skyTasks = .ok (wiring skyTasks) := rfl
  obtain ⟨hwireable, -⟩ := ofTasks_eq_ok.mp hgraph
  have hacyclic : (wiring skyTasks).Acyclic := acyclic_of_lt [3, 4, 2, 1, 0].idxOf (by decide)
  have hcycle := (findCycle?_eq_none (wired_wiring hwireable)).mpr hacyclic
  have hnames : ((·.map (·.map Node.name)) <$> (wiring skyTasks).levels) =
      .ok [["grid", "sky"], ["preview", "summary"], ["publish"]] := by
    rw [TaskGraph.levels, order_of_findCycle?_eq_none hcycle]
    rfl
  have hprecedes := (acyclic_wiring hwireable).mp hacyclic
  obtain ⟨order, levels, hok, hlevels, hchain⟩ := levels_longest_chains hgraph hprecedes
  rw [hlevels] at hnames
  exact ⟨hprecedes, _, order, levels, hgraph, hok, hlevels, Except.ok.inj hnames, hchain⟩

end Recipe.TaskGraph
