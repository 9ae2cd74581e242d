import Recipe.Proofs.Outcome
import Recipe.Proofs.TaskGraph.Cycle
import Recipe.TaskGraph.Order

/-!
# Wiring tasks

Tasks can be wired if no two have one name and all needs are names of tasks (`ofTasks_eq_ok`). Their
graph then has an edge wherever one needs another (`edge_wiring`), so that they can be put into an
order exactly if no task needs itself, directly or by way of others (`exists_order`).
-/

set_option autoImplicit false

namespace Recipe.TaskGraph

open Relation

variable {graph : TaskGraph}

/-! ## Positions of names -/

def names (graph : TaskGraph) : List String := graph.nodes.map Node.name

theorem index?_eq_none {name : String} : graph.index? name = none ↔ name ∉ graph.names := by
  rw [index?, List.findIdx?_eq_none_iff]
  simp [names]

theorem index?_isSome {name : String} : (graph.index? name).isSome ↔ name ∈ graph.names := by
  rw [← Option.ne_none_iff_isSome, Ne, index?_eq_none, not_not]

theorem exists_of_index? {name : String} {i : Nat} (h : graph.index? name = some i) :
    ∃ node, graph.nodes[i]? = some node ∧ node.name = name := by
  rw [index?, List.findIdx?_eq_some_iff_getElem] at h
  obtain ⟨hlt, hname, -⟩ := h
  exact ⟨graph.nodes[i], List.getElem?_eq_getElem hlt, by simpa using hname⟩

theorem index?_name (hnodup : graph.names.Nodup) {node : Node} {i : Nat}
    (h : graph.nodes[i]? = some node) : graph.index? node.name = some i := by
  have hmem : node.name ∈ graph.names := List.mem_map_of_mem (List.mem_of_getElem? h)
  obtain ⟨j, hj⟩ := Option.isSome_iff_exists.mp (index?_isSome.mpr hmem)
  obtain ⟨other, hother, hname⟩ := exists_of_index? hj
  -- both positions hold the name, and it is there once
  have hi : graph.names[i]? = some node.name := by rw [names, List.getElem?_map, h]; rfl
  have hj' : graph.names[j]? = some node.name := by
    rw [names, List.getElem?_map, hother, ← hname]
    rfl
  have hlt : i < graph.names.length := (List.getElem?_eq_some_iff.mp hi).1
  rw [hj, (List.getElem?_inj hlt hnodup).mp (hi.trans hj'.symm)]

/-! ## Adding tasks -/

theorem addTask_eq_ok {node : Node} {next : TaskGraph} :
    graph.addTask node = .ok next ↔
      node.name ∉ graph.names ∧ next = { graph with nodes := graph.nodes ++ [node] } := by
  rw [addTask, guard_eq_ok, pure_eq_ok, index?_isSome, eq_comm]

/-- Adding tasks in turn fails only if a name is repeated or taken. -/
theorem foldlM_addTask_eq_ok {nodes : List Node} {next : TaskGraph} (hnodup : graph.names.Nodup) :
    nodes.foldlM addTask graph = .ok next ↔
      (graph.names ++ nodes.map Node.name).Nodup ∧
        next = { graph with nodes := graph.nodes ++ nodes } := by
  induction nodes generalizing graph with
  | nil =>
      rw [List.foldlM_nil, pure_eq_ok, List.map_nil, List.append_nil, List.append_nil]
      simp [hnodup, eq_comm]
  | cons node rest ih =>
      simp only [List.foldlM_cons, bind_eq_ok, addTask_eq_ok, List.map_cons]
      -- the first task moves over to the names that are taken
      have hsplit : graph.names ++ node.name :: rest.map Node.name =
          (graph.names ++ [node.name]) ++ rest.map Node.name := by simp
      constructor
      · rintro ⟨_, ⟨hnew, rfl⟩, hrest⟩
        have hone : ({ graph with nodes := graph.nodes ++ [node] } : TaskGraph).names.Nodup := by
          simpa [names, List.nodup_append] using ⟨hnodup, by simpa [names] using hnew⟩
        rw [ih hone] at hrest
        simpa [names, hsplit] using hrest
      · rintro ⟨hall, rfl⟩
        have hone : (graph.names ++ [node.name]).Nodup := by
          rw [hsplit] at hall
          exact (List.nodup_append.mp hall).1
        have hnew : node.name ∉ graph.names := by
          intro hmem
          exact (List.nodup_append.mp hone).2.2 _ hmem _ (by simp) rfl
        refine ⟨_, ⟨hnew, rfl⟩, ?_⟩
        rw [ih (by simpa [names] using hone)]
        simpa [names, hsplit] using hall

/-! ## Adding edges -/

/-- No two tasks have one name, and all needs are names of tasks. -/
structure Wireable (nodes : List Node) : Prop where
  nodup : (nodes.map Node.name).Nodup
  needs : ∀ node ∈ nodes, ∀ need ∈ node.needs, need ∈ nodes.map Node.name

/-- The graph of some tasks with all edges that their needs ask for. -/
def wiring (nodes : List Node) : TaskGraph :=
  { nodes, edges := ({ nodes } : TaskGraph).wantedEdges.foldl addNew [] }

theorem missing_eq_nil :
    graph.missing = [] ↔ ∀ node ∈ graph.nodes, ∀ need ∈ node.needs, need ∈ graph.names := by
  rw [missing, List.flatMap_eq_nil_iff]
  refine forall₂_congr fun node _ => ?_
  rw [List.map_eq_nil_iff, List.filter_eq_nil_iff]
  refine forall₂_congr fun need _ => ?_
  rw [Option.isNone_iff_eq_none, index?_eq_none, not_not]

/-- **The graph of a list of tasks exists exactly if they can be wired.** -/
theorem ofTasks_eq_ok {nodes : List Node} :
    ofTasks nodes = .ok graph ↔ Wireable nodes ∧ graph = wiring nodes := by
  have hempty : ({} : TaskGraph).names.Nodup := List.nodup_nil
  simp only [ofTasks, bind_eq_ok, foldlM_addTask_eq_ok hempty, addDependencyEdges]
  constructor
  · rintro ⟨_, ⟨hnodup, rfl⟩, h⟩
    split at h
    · next hmissing =>
        rw [List.isEmpty_iff, missing_eq_nil] at hmissing
        rw [pure_eq_ok] at h
        exact ⟨⟨hnodup, hmissing⟩, h.symm⟩
    · rw [throw_ne_ok] at h
      exact h.elim
  · rintro ⟨h, rfl⟩
    refine ⟨_, ⟨h.nodup, rfl⟩, ?_⟩
    rw [if_pos, pure_eq_ok]
    · rfl
    · rw [List.isEmpty_iff, missing_eq_nil]
      exact h.needs

theorem mem_wantedEdges {i j : Nat} :
    (i, j) ∈ graph.wantedEdges ↔
      ∃ node, graph.nodes[j]? = some node ∧ ∃ need ∈ node.needs, graph.index? need = some i := by
  simp only [wantedEdges, List.mem_flatMap, List.mem_map, List.mem_filterMap, Prod.exists,
    Prod.mk.injEq]
  constructor
  · rintro ⟨node, k, hnode, a, ⟨need, hneed, ha⟩, rfl, rfl⟩
    exact ⟨node, List.mem_zipIdx_iff_getElem?.mp hnode, need, hneed, ha⟩
  · rintro ⟨node, hnode, need, hneed, hi⟩
    exact ⟨node, j, List.mem_zipIdx_iff_getElem?.mpr hnode, i, ⟨need, hneed, hi⟩, rfl, rfl⟩

/-- **There is an edge wherever a task needs another.** -/
theorem edge_wiring {nodes : List Node} (h : Wireable nodes) {i j : Nat} :
    (wiring nodes).Edge i j ↔
      ∃ a b, nodes[i]? = some a ∧ nodes[j]? = some b ∧ a.name ∈ b.needs := by
  have hnames : ({ nodes } : TaskGraph).names.Nodup := h.nodup
  rw [Edge, wiring, mem_foldl_addNew, mem_wantedEdges]
  simp only [List.not_mem_nil, false_or]
  constructor
  · rintro ⟨b, hb, need, hneed, hi⟩
    obtain ⟨a, ha, rfl⟩ := exists_of_index? hi
    exact ⟨a, b, ha, hb, hneed⟩
  · rintro ⟨a, b, ha, hb, hneed⟩
    exact ⟨b, hb, a.name, hneed, index?_name hnames ha⟩

theorem wired_wiring {nodes : List Node} (h : Wireable nodes) : (wiring nodes).Wired := by
  intro i j hij
  obtain ⟨a, b, ha, hb, -⟩ := (edge_wiring h).mp hij
  exact ⟨(List.getElem?_eq_some_iff.mp ha).1, (List.getElem?_eq_some_iff.mp hb).1⟩

/-! ## Needs by name -/

/-- A task that has another among its needs, both by name. -/
def Precedes (nodes : List Node) (need name : String) : Prop :=
  ∃ node ∈ nodes, node.name = name ∧ need ∈ node.needs

theorem exists_transGen_of_precedes {nodes : List Node} (h : Wireable nodes) {a b : String}
    (hab : TransGen (Precedes nodes) a b) :
    ∃ i j, (nodes[i]?.map Node.name = some a ∧ nodes[j]?.map Node.name = some b) ∧
      TransGen (wiring nodes).Edge i j := by
  induction hab with
  | @single b hedge =>
      obtain ⟨node, hnode, rfl, hneed⟩ := hedge
      obtain ⟨other, hother, rfl⟩ := List.mem_map.mp (h.needs node hnode a hneed)
      obtain ⟨i, hi⟩ := List.mem_iff_getElem?.mp hother
      obtain ⟨j, hj⟩ := List.mem_iff_getElem?.mp hnode
      exact ⟨i, j, by simp [hi, hj],
        TransGen.single ((edge_wiring h).mpr ⟨other, node, hi, hj, hneed⟩)⟩
  | @tail b c _ hedge ih =>
      obtain ⟨i, j, ⟨hi, hj⟩, hij⟩ := ih
      obtain ⟨node, hnode, rfl, hneed⟩ := hedge
      obtain ⟨k, hk⟩ := List.mem_iff_getElem?.mp hnode
      -- the position where the chain so far ends is that of the need, since both have its name
      obtain ⟨other, hother, rfl⟩ := Option.map_eq_some_iff.mp hj
      exact ⟨i, k, by simp [hi, hk],
        hij.tail ((edge_wiring h).mpr ⟨other, node, hother, hk, hneed⟩)⟩

theorem precedes_of_edge {nodes : List Node} (h : Wireable nodes) {i j : Nat}
    (hedge : (wiring nodes).Edge i j) :
    Precedes nodes ((wiring nodes).nameAt i) ((wiring nodes).nameAt j) := by
  obtain ⟨need, node, hneed, hnode, hmem⟩ := (edge_wiring h).mp hedge
  refine ⟨node, List.mem_of_getElem? hnode, ?_, ?_⟩
  · simp [nameAt, wiring, hnode]
  · simpa [nameAt, wiring, hneed] using hmem

/-- **The graph has no cycle exactly if no task comes before itself.** -/
theorem acyclic_wiring {nodes : List Node} (h : Wireable nodes) :
    (wiring nodes).Acyclic ↔ ∀ name, ¬ TransGen (Precedes nodes) name name := by
  constructor
  · intro hacyclic name hname
    obtain ⟨i, j, ⟨hi, hj⟩, hij⟩ := exists_transGen_of_precedes h hname
    rw [← List.getElem?_map] at hi hj
    have hlt : i < (nodes.map Node.name).length := (List.getElem?_eq_some_iff.mp hi).1
    -- a chain from a name to itself ends where it starts, since names are distinct
    have heq : i = j := (List.getElem?_inj hlt h.nodup).mp (hi.trans hj.symm)
    exact hacyclic i (heq ▸ hij)
  · intro hnone i hi
    exact hnone _ (TransGen.lift (wiring nodes).nameAt (fun _ _ => precedes_of_edge h) _ _ hi)

theorem order_of_findCycle?_eq_none (h : graph.findCycle? = none) :
    graph.order = .ok (graph.releaseOrder.filterMap (graph.nodes[·]?)) := by
  rw [TaskGraph.order, h]
  rfl

/-- **Tasks can be put into an order exactly if they can be wired and none comes before itself.** -/
theorem exists_order {nodes : List Node} :
    (∃ order, (ofTasks nodes >>= TaskGraph.order) = .ok order) ↔
      Wireable nodes ∧ ∀ name, ¬ TransGen (Precedes nodes) name name := by
  simp only [bind_eq_ok, ofTasks_eq_ok]
  constructor
  · rintro ⟨order, _, ⟨h, rfl⟩, horder⟩
    refine ⟨h, (acyclic_wiring h).mp ((findCycle?_eq_none (wired_wiring h)).mp ?_)⟩
    cases hcycle : (wiring nodes).findCycle? with
    | none => rfl
    | some path =>
        rw [TaskGraph.order, hcycle] at horder
        exact (throw_ne_ok.mp horder).elim
  · rintro ⟨h, hnone⟩
    have hcycle := (findCycle?_eq_none (wired_wiring h)).mpr ((acyclic_wiring h).mpr hnone)
    exact ⟨_, wiring nodes, ⟨h, rfl⟩, order_of_findCycle?_eq_none hcycle⟩

end Recipe.TaskGraph
