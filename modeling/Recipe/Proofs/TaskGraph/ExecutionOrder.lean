import Recipe.Proofs.TaskGraph.Release
import Recipe.Proofs.TaskGraph.Wiring

/-!
# The execution order

Of all orders in which the tasks of a list can be run, the execution order is the least when tasks
are compared by their places in the list (`order_least`). So tasks that are given in an order in
which they can be run keep it. There is no order exactly if some task comes before itself.

Orders of tasks are turned into orders of their positions (`Wireable.runnable_positions`) and back
(`Wireable.isExecutionOrder`).
-/

set_option autoImplicit false

namespace Recipe.TaskGraph

open Relation

/-- An order in which some tasks can be run: it has all of them, each once and behind all that it
needs. -/
structure IsExecutionOrder (nodes order : List Node) : Prop where
  perm : order.Perm nodes
  needs : ∀ (i j : Nat) (a b : Node), order[i]? = some a → order[j]? = some b →
    a.name ∈ b.needs → i < j

/-- The places that the tasks of an order have in a list. -/
def positions (nodes order : List Node) : List Nat := order.map nodes.idxOf

variable {nodes order : List Node}

/-! ## Positions -/

theorem Wireable.nodes_nodup (h : Wireable nodes) : nodes.Nodup := h.nodup.of_map _

theorem Wireable.idxOf_eq (h : Wireable nodes) {node : Node} {i : Nat}
    (hi : nodes[i]? = some node) : nodes.idxOf node = i := by
  obtain ⟨hlt, rfl⟩ := List.getElem?_eq_some_iff.mp hi
  exact h.nodes_nodup.idxOf_getElem i hlt

theorem Wireable.positions_self (h : Wireable nodes) :
    positions nodes nodes = (wiring nodes).indices := by
  refine List.ext_getElem? fun i => ?_
  rw [positions, List.getElem?_map, indices, size]
  by_cases hi : i < nodes.length
  · rw [List.getElem?_eq_getElem hi, Option.map_some, h.nodes_nodup.idxOf_getElem i hi]
    simp [wiring, hi]
  · simp [wiring, hi]

theorem Wireable.positions_perm (h : Wireable nodes) (hperm : order.Perm nodes) :
    (positions nodes order).Perm (wiring nodes).indices := by
  rw [← h.positions_self]
  exact hperm.map _

theorem filterMap_positions (hsub : order ⊆ nodes) :
    (positions nodes order).filterMap (nodes[·]?) = order := by
  rw [positions, List.filterMap_map]
  refine (List.filterMap_congr fun node hnode => ?_).trans List.filterMap_some
  exact List.getElem?_idxOf (hsub hnode)

theorem getElem?_filterMap_getElem? {places : List Nat} (hlt : ∀ i ∈ places, i < nodes.length)
    (k : Nat) : (places.filterMap (nodes[·]?))[k]? = places[k]?.bind (nodes[·]?) := by
  induction places generalizing k with
  | nil => simp
  | cons i rest ih =>
      have hfirst : i < nodes.length := hlt i List.mem_cons_self
      have hi : nodes[i]? = some nodes[i] := List.getElem?_eq_getElem hfirst
      rw [List.filterMap_cons_some hi]
      cases k with
      | zero => simp [hi]
      | succ k =>
          rw [List.getElem?_cons_succ, List.getElem?_cons_succ]
          exact ih (fun j hj => hlt j (List.mem_cons_of_mem _ hj)) k

/-! ## Orders of positions -/

/-- **The positions of an execution order can be run in turn.** -/
theorem Wireable.runnable_positions (h : Wireable nodes) (horder : IsExecutionOrder nodes order) :
    (wiring nodes).Runnable [] (positions nodes order) := by
  have hperm := h.positions_perm horder.perm
  refine .of_needs (hperm.nodup_iff.mpr List.nodup_range) ?_ ?_
  · intro i hi
    exact ⟨List.mem_range.mp (hperm.subset hi), List.not_mem_nil⟩
  · intro first i rest hsplit j hji
    refine Or.inl ?_
    obtain ⟨a, b, ha, hb, hneed⟩ := (edge_wiring h).mp hji
    -- the task at position `i` stands behind `first`, and what it needs stands somewhere
    have hplace : (positions nodes order)[first.length]? = some i := by simp [hsplit]
    rw [positions, List.getElem?_map, Option.map_eq_some_iff] at hplace
    obtain ⟨b', hb', rfl⟩ := hplace
    have hsame : b' = b := by
      have hmem := horder.perm.subset (List.mem_of_getElem? hb')
      exact Option.some.inj ((List.getElem?_idxOf hmem).symm.trans hb)
    obtain ⟨k, hk⟩ := List.mem_iff_getElem?.mp
      (horder.perm.symm.subset (List.mem_of_getElem? ha))
    have hlt : k < first.length := horder.needs k first.length a b hk (hsame ▸ hb') hneed
    have hj : (positions nodes order)[k]? = some j := by
      rw [positions, List.getElem?_map, hk, Option.map_some, h.idxOf_eq ha]
    rw [hsplit, List.getElem?_append_left hlt] at hj
    exact List.mem_of_getElem? hj

/-- **All positions in an order in which they can be run give an execution order.** -/
theorem Wireable.isExecutionOrder (h : Wireable nodes) {places : List Nat}
    (hperm : places.Perm (wiring nodes).indices) (hrunnable : (wiring nodes).Runnable [] places) :
    IsExecutionOrder nodes (places.filterMap (nodes[·]?)) ∧
      positions nodes (places.filterMap (nodes[·]?)) = places := by
  have hlt : ∀ i ∈ places, i < nodes.length := fun i hi => List.mem_range.mp (hperm.subset hi)
  have hplace : ∀ (k : Nat) (node : Node), (places.filterMap (nodes[·]?))[k]? = some node →
      ∃ i, places[k]? = some i ∧ nodes[i]? = some node := by
    intro k node hk
    rw [getElem?_filterMap_getElem? hlt, Option.bind_eq_some_iff] at hk
    exact hk
  refine ⟨⟨?_, ?_⟩, ?_⟩
  · have hall : (wiring nodes).indices.filterMap (nodes[·]?) = nodes :=
      filterMap_indices (wiring nodes)
    have hfilter := hperm.filterMap (nodes[·]?)
    rwa [hall] at hfilter
  · intro k l a b hk hl hneed
    obtain ⟨i, hi, ha⟩ := hplace k a hk
    obtain ⟨j, hj, hb⟩ := hplace l b hl
    have hedge : (wiring nodes).Edge i j := (edge_wiring h).mpr ⟨a, b, ha, hb, hneed⟩
    obtain ⟨hlength, hget⟩ := List.getElem?_eq_some_iff.mp hj
    have hsplit : places = places.take l ++ j :: places.drop (l + 1) := by
      rw [← hget, List.cons_getElem_drop_succ, List.take_append_drop]
    -- what the task needs is run before it, and is nowhere else
    have hbefore := (hrunnable.needs hsplit hedge).resolve_right List.not_mem_nil
    obtain ⟨m, hm⟩ := List.mem_iff_getElem?.mp hbefore
    have hml : m < l := (List.getElem?_eq_some_iff.mp hm).1.trans_le (List.length_take_le _ _)
    rw [List.getElem?_take_of_lt hml] at hm
    have hnodup : places.Nodup := hperm.nodup_iff.mpr List.nodup_range
    have heq : m = k :=
      (List.getElem?_inj (List.getElem?_eq_some_iff.mp hm).1 hnodup).mp (hm.trans hi.symm)
    rw [← heq]
    exact hml
  · refine List.ext_getElem? fun k => ?_
    rw [positions, List.getElem?_map, getElem?_filterMap_getElem? hlt]
    cases hk : places[k]? with
    | none => rfl
    | some i =>
        have hi := hlt i (List.mem_of_getElem? hk)
        rw [Option.bind_some, List.getElem?_eq_getElem hi, Option.map_some,
          h.nodes_nodup.idxOf_getElem i hi]

/-! ## The order of tasks -/

theorem IsExecutionOrder.names_nodup (horder : IsExecutionOrder nodes order) (h : Wireable nodes) :
    (order.map Node.name).Nodup :=
  (horder.perm.map Node.name).nodup_iff.mpr h.nodup

/-- In an execution order each task stands behind those that come before it by need. -/
theorem IsExecutionOrder.idxOf_lt (horder : IsExecutionOrder nodes order) (h : Wireable nodes)
    {need name : String} (hneed : Precedes nodes need name) :
    (order.map Node.name).idxOf need < (order.map Node.name).idxOf name := by
  have hnodup : (order.map Node.name).Nodup := horder.names_nodup h
  have hplace : ∀ (i : Nat) (node : Node), order[i]? = some node →
      (order.map Node.name).idxOf node.name = i := by
    intro i node hi
    obtain ⟨hlt, rfl⟩ := List.getElem?_eq_some_iff.mp hi
    have hname := hnodup.idxOf_getElem i (by rwa [List.length_map])
    rwa [List.getElem_map] at hname
  obtain ⟨b, hb, rfl, hmem⟩ := hneed
  obtain ⟨a, ha, rfl⟩ := List.mem_map.mp (h.needs b hb need hmem)
  obtain ⟨i, hi⟩ := List.mem_iff_getElem?.mp (horder.perm.symm.subset ha)
  obtain ⟨j, hj⟩ := List.mem_iff_getElem?.mp (horder.perm.symm.subset hb)
  rw [hplace i a hi, hplace j b hj]
  exact horder.needs i j a b hi hj hmem

theorem IsExecutionOrder.acyclic (horder : IsExecutionOrder nodes order) (h : Wireable nodes)
    (name : String) : ¬ TransGen (Precedes nodes) name name := by
  intro hcycle
  have hlt : TransGen (· < ·) ((order.map Node.name).idxOf name)
      ((order.map Node.name).idxOf name) :=
    TransGen.lift (order.map Node.name).idxOf (fun _ _ hneed => horder.idxOf_lt h hneed) _ _ hcycle
  rw [transGen_eq_self] at hlt
  exact lt_irrefl _ hlt

/-- The order of the tasks of a graph without cycles is one in which they can be run, and has their
positions in the order in which they are released. -/
theorem exists_order_wiring (h : Wireable nodes)
    (hacyclic : ∀ name, ¬ TransGen (Precedes nodes) name name) :
    ∃ order, (wiring nodes).order = .ok order ∧ IsExecutionOrder nodes order ∧
      positions nodes order = (wiring nodes).releaseOrder := by
  have hperm := releaseOrder_perm (wired_wiring h) ((acyclic_wiring h).mpr hacyclic)
  obtain ⟨horder, hpositions⟩ := h.isExecutionOrder hperm (runnable_releaseOrder _)
  have hcycle := (findCycle?_eq_none (wired_wiring h)).mpr ((acyclic_wiring h).mpr hacyclic)
  exact ⟨_, order_of_findCycle?_eq_none hcycle, horder, hpositions⟩

theorem releaseOrder_le_positions (h : Wireable nodes) (horder : IsExecutionOrder nodes order) :
    LexLE (wiring nodes).releaseOrder (positions nodes order) := by
  refine releaseOrder_le (h.runnable_positions horder) ?_
  rw [(h.positions_perm horder.perm).length_eq, indices, List.length_range]

theorem exists_order_wiring_eq_error (h : Wireable nodes) {name : String}
    (hcycle : TransGen (Precedes nodes) name name) :
    ∃ path, (wiring nodes).order = .error (.cycleDetected path) := by
  cases hfound : (wiring nodes).findCycle? with
  | none =>
      have hacyclic := (acyclic_wiring h).mp ((findCycle?_eq_none (wired_wiring h)).mp hfound)
      exact (hacyclic name hcycle).elim
  | some path =>
      refine ⟨path, ?_⟩
      rw [TaskGraph.order, hfound]
      rfl

/-- **The execution order is the least.** The tasks that a graph was made of are put into an order
in which they can be run if none comes before itself, and of all such orders it is the least when
tasks are compared by their places in the list. So tasks in such an order keep it. A task that comes
before itself, directly or by way of others, is reported as a cycle. -/
theorem order_least {graph : TaskGraph} (h : ofTasks nodes = .ok graph) :
    ((∀ name, ¬ TransGen (Precedes nodes) name name) →
      ∃ order, graph.order = .ok order ∧ IsExecutionOrder nodes order ∧
        ∀ other, IsExecutionOrder nodes other →
          LexLE (positions nodes order) (positions nodes other)) ∧
    (IsExecutionOrder nodes nodes → graph.order = .ok nodes) ∧
    ((∃ name, TransGen (Precedes nodes) name name) →
      ∃ path, graph.order = .error (.cycleDetected path)) := by
  obtain ⟨hwireable, rfl⟩ := ofTasks_eq_ok.mp h
  refine ⟨?_, ?_, ?_⟩
  · intro hacyclic
    obtain ⟨order, hok, horder, hpositions⟩ := exists_order_wiring hwireable hacyclic
    refine ⟨order, hok, horder, ?_⟩
    intro other hother
    rw [hpositions]
    exact releaseOrder_le_positions hwireable hother
  · intro hself
    obtain ⟨order, hok, horder, hpositions⟩ :=
      exists_order_wiring hwireable (hself.acyclic hwireable)
    -- the list itself has its positions in ascending order, and no order is earlier than that
    have hle := releaseOrder_le_positions hwireable hself
    have hge := lexLE_of_perm List.pairwise_lt_range
      (releaseOrder_perm (wired_wiring hwireable)
        ((acyclic_wiring hwireable).mpr (hself.acyclic hwireable)))
    rw [hwireable.positions_self] at hle
    have hsame : positions nodes order = positions nodes nodes := by
      rw [hpositions, hwireable.positions_self]
      exact hle.antisymm hge
    rw [hok, ← filterMap_positions horder.perm.subset, hsame,
      filterMap_positions (List.Subset.refl nodes)]
  · rintro ⟨name, hcycle⟩
    exact exists_order_wiring_eq_error hwireable hcycle

/-! ## An example -/

/-- Tasks of which the last has to be run first, after which there is a choice. -/
def gridTasks : List Node :=
  [⟨"post-process", ["ray-trace"]⟩, ⟨"ray-trace", ["split-grid", "split-grid"]⟩,
    ⟨"view", ["split-grid"]⟩, ⟨"split-grid", []⟩]

theorem gridTasks_order_least :
    ∃ graph order, ofTasks gridTasks = .ok graph ∧ graph.order = .ok order ∧
      order.map Node.name = ["split-grid", "ray-trace", "post-process", "view"] ∧
      IsExecutionOrder gridTasks order ∧
      ∀ other, IsExecutionOrder gridTasks other →
        LexLE (positions gridTasks order) (positions gridTasks other) := by
  have hgraph : ofTasks gridTasks = .ok (wiring gridTasks) := rfl
  obtain ⟨hwireable, -⟩ := ofTasks_eq_ok.mp hgraph
  have hacyclic : (wiring gridTasks).Acyclic := acyclic_of_lt [3, 1, 0, 2].idxOf (by decide)
  have hcycle := (findCycle?_eq_none (wired_wiring hwireable)).mpr hacyclic
  obtain ⟨order, hok, horder, hle⟩ := (order_least hgraph).1 ((acyclic_wiring hwireable).mp hacyclic)
  rw [order_of_findCycle?_eq_none hcycle] at hok
  obtain rfl := Except.ok.inj hok
  exact ⟨_, _, hgraph, order_of_findCycle?_eq_none hcycle, rfl, horder, hle⟩

end Recipe.TaskGraph
