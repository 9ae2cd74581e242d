import Recipe.Proofs.TaskGraph.Wiring

/-!
# Reported cycles

A cycle is reported exactly if some task comes before itself, and what is reported is a cycle that
there is: each task on it is a need of the next one, it comes back to its first task, and it starts
with the earliest task of its component (`finds_cycles`). None of this depends on the order in which
the components are listed, so that it holds for every list of them (`ListsComponents`).
-/

set_option autoImplicit false

namespace Recipe.TaskGraph

open Relation

variable {graph : TaskGraph}

/-! ## Lists of components -/

/-- Some lists of tasks are the components of a graph, in any order and with their tasks in any
order: each has the tasks that some task reaches and that reach it, and every task is in one. -/
structure ListsComponents (graph : TaskGraph) (components : List (List Nat)) : Prop where
  members : ∀ members ∈ components, ∃ i < graph.size, ∀ j,
    j ∈ members ↔ ReflTransGen graph.Edge i j ∧ ReflTransGen graph.Edge j i
  covers : ∀ i < graph.size, ∃ members ∈ components, i ∈ members
  distinct : components.flatten.Nodup

/-- Whether a component has a cycle: it has several tasks, or its only one needs itself. -/
def isCyclic (graph : TaskGraph) (members : List Nat) : Bool :=
  1 < members.length || members.head?.any fun i => graph.edges.contains (i, i)

/-- The cycle of a component whose tasks may be in any order. -/
def cycleOf? (graph : TaskGraph) (members : List Nat) : Option (List Nat) :=
  if graph.isCyclic members then graph.cycleIn? (graph.indices.filter members.contains) else none

/-- The tasks of the cycle that is reported when the components are taken from a list, if the graph
has any. -/
def findCycleAmong? (graph : TaskGraph) (components : List (List Nat)) : Option (List String) :=
  (components.findSome? graph.cycleOf?).map (·.map graph.nameAt)

/-! ## Components in order -/

theorem mem_component_self (hwired : graph.Wired) {i : Nat} (hi : i < graph.size) :
    i ∈ graph.component i :=
  (mem_component hwired hi).mpr ⟨ReflTransGen.refl, ReflTransGen.refl⟩

theorem component_sorted (graph : TaskGraph) (i : Nat) : (graph.component i).Pairwise (· < ·) :=
  List.Pairwise.filter _ List.pairwise_lt_range

/-- In the order of their positions, the tasks that a task reaches and that reach it are its
component. -/
theorem filter_contains_eq_component (hwired : graph.Wired) {i : Nat} (hi : i < graph.size)
    {members : List Nat}
    (hmembers : ∀ j, j ∈ members ↔ ReflTransGen graph.Edge i j ∧ ReflTransGen graph.Edge j i) :
    graph.indices.filter members.contains = graph.component i := by
  refine List.filter_congr fun j hj => ?_
  rw [Bool.eq_iff_iff, List.contains_iff_mem, hmembers, ← mem_component hwired hi, component,
    List.mem_filter, and_iff_right hj]

theorem isCyclic_of_transGen {members : List Nat} {i : Nat}
    (hmembers : ∀ j, j ∈ members ↔ ReflTransGen graph.Edge i j ∧ ReflTransGen graph.Edge j i)
    (hcycle : TransGen graph.Edge i i) : graph.isCyclic members = true := by
  have hi : i ∈ members := (hmembers i).mpr ⟨ReflTransGen.refl, ReflTransGen.refl⟩
  obtain ⟨next, hedge, hback⟩ := TransGen.head'_iff.mp hcycle
  have hnext : next ∈ members := (hmembers next).mpr ⟨ReflTransGen.single hedge, hback⟩
  rw [isCyclic, Bool.or_eq_true, decide_eq_true_eq]
  by_cases hlength : 1 < members.length
  · exact Or.inl hlength
  -- the only task of the component is the next one on the cycle too
  · have hpos : 0 < members.length := List.length_pos_of_mem hi
    obtain ⟨only, rfl⟩ := List.length_eq_one_iff.mp (show members.length = 1 by omega)
    obtain rfl := List.mem_singleton.mp hi
    obtain rfl := List.mem_singleton.mp hnext
    exact Or.inr (by simpa [Edge] using hedge)

/-! ## The cycle of a component -/

theorem getLast?_of_pathBack? {members : List Nat} {start : Nat} {path : List Nat} (trail : Trail)
    (visited : List Nat) (h : graph.pathBack? members start trail visited = some path) :
    path.getLast? = some start := by
  induction trail, visited using pathBack?.induct graph members start with
  | case1 visited => simp [pathBack?] at h
  | case2 visited index rest ih =>
      rw [pathBack?] at h
      exact ih h
  | case3 visited index others rest =>
      rw [pathBack?, if_pos rfl, Option.some.injEq] at h
      rw [← h, List.getLast?_concat]
  | case4 visited index next others rest hne hskip ih =>
      rw [pathBack?, if_neg hne, dif_pos hskip] at h
      exact ih h
  | case5 visited index next others rest hne hnew hlt ih =>
      rw [pathBack?, if_neg hne, dif_neg hnew] at h
      exact ih h

/-- Only tasks of the graph lie on a path along edges, in front of its end. -/
theorem lt_of_isChain (hwired : graph.Wired) {path : List Nat} {last : Nat}
    (h : (path ++ [last]).IsChain graph.Edge) : ∀ i ∈ path, i < graph.size := by
  induction path with
  | nil => simp
  | cons first rest ih =>
      rw [List.cons_append, List.isChain_cons] at h
      intro i hi
      rcases List.mem_cons.mp hi with rfl | hi
      · obtain ⟨next, hnext⟩ := Option.ne_none_iff_exists'.mp
          (show (rest ++ [last]).head? ≠ none by simp)
        exact (hwired i next (h.1 next hnext)).1
      · exact ih h.2 i hi

/-- A cycle that starts with the earliest task of its component. -/
structure IsEarliestCycle (graph : TaskGraph) (start : Nat) (path : List Nat) : Prop
    extends graph.IsCycle path where
  start_eq : path.head? = some start
  earliest : ∀ i, ReflTransGen graph.Edge start i → ReflTransGen graph.Edge i start → start ≤ i

/-- **The search of a component comes back with a cycle through its earliest task.** -/
theorem exists_isEarliestCycle (hwired : graph.Wired) {i : Nat} (hi : i < graph.size)
    {path : List Nat} (h : graph.cycleIn? (graph.component i) = some path) :
    ∃ start ∈ graph.component i, graph.IsEarliestCycle start path := by
  have hcycle := isCycle_of_cycleIn? h
  have hsorted := component_sorted graph i
  have hmem : ∀ j, j ∈ graph.component i ↔
      ReflTransGen graph.Edge i j ∧ ReflTransGen graph.Edge j i :=
    fun j => mem_component hwired hi
  cases hmembers : graph.component i with
  | nil =>
      rw [hmembers] at h
      cases h
  | cons start rest =>
      rw [hmembers] at h hsorted hmem
      refine ⟨start, List.mem_cons_self, hcycle, ?_, ?_⟩
      -- a cycle starts where it ends, and the search ended at the first task of the component
      · have hlast : path.getLast? = some start := getLast?_of_pathBack? _ _ h
        obtain ⟨first, inner, rfl, -⟩ := hcycle.closed
        rw [List.getLast?_concat] at hlast
        rw [List.cons_append, List.head?_cons, hlast]
      · intro j hsj hjs
        obtain ⟨his, hsi⟩ := (hmem start).mp List.mem_cons_self
        rcases List.mem_cons.mp ((hmem j).mpr ⟨his.trans hsj, hjs.trans hsi⟩) with rfl | hj
        · exact le_refl _
        · exact (List.rel_of_pairwise_cons hsorted hj).le

theorem transGen_of_cycleIn? (hwired : graph.Wired) {i : Nat} (hi : i < graph.size)
    {path : List Nat} (h : graph.cycleIn? (graph.component i) = some path) :
    TransGen graph.Edge i i := by
  obtain ⟨start, hmem, hearliest⟩ := exists_isEarliestCycle hwired hi h
  obtain ⟨his, hsi⟩ := (mem_component hwired hi).mp hmem
  obtain ⟨first, inner, rfl, -⟩ := hearliest.closed
  obtain rfl : first = start := Option.some.inj hearliest.start_eq
  exact (TransGen.trans_right his (transGen_of_isChain hearliest.chain)).trans_left hsi

theorem cycleIn?_component_eq_none (hwired : graph.Wired) {i : Nat} (hi : i < graph.size)
    (h : ¬ TransGen graph.Edge i i) : graph.cycleIn? (graph.component i) = none := by
  by_contra hsome
  obtain ⟨path, hpath⟩ := Option.ne_none_iff_exists'.mp hsome
  exact h (transGen_of_cycleIn? hwired hi hpath)

/-- The cycle of a component does not depend on the order of its tasks. -/
theorem cycleOf?_eq (hwired : graph.Wired) {i : Nat} (hi : i < graph.size) {members : List Nat}
    (hmembers : ∀ j, j ∈ members ↔ ReflTransGen graph.Edge i j ∧ ReflTransGen graph.Edge j i) :
    graph.cycleOf? members = graph.cycleIn? (graph.component i) := by
  rw [cycleOf?, filter_contains_eq_component hwired hi hmembers]
  by_cases hcyclic : graph.isCyclic members = true
  · rw [if_pos hcyclic]
  · rw [if_neg hcyclic, cycleIn?_component_eq_none hwired hi]
    exact fun hcycle => hcyclic (isCyclic_of_transGen hmembers hcycle)

/-! ## The cycle that is reported -/

section Among

variable {components : List (List Nat)}

/-- **A cycle is found exactly if there is one**, whichever component is taken first. -/
theorem findSome?_cycleOf?_eq_none (hwired : graph.Wired)
    (hcomponents : graph.ListsComponents components) :
    components.findSome? graph.cycleOf? = none ↔ graph.Acyclic := by
  rw [List.findSome?_eq_none_iff]
  constructor
  · intro h i hi
    obtain ⟨next, hedge, -⟩ := TransGen.head'_iff.mp hi
    obtain ⟨members, hmem, hin⟩ := hcomponents.covers i (hwired i next hedge).1
    obtain ⟨k, hk, hmutual⟩ := hcomponents.members members hmem
    have hnone := h members hmem
    rw [cycleOf?_eq hwired hk hmutual] at hnone
    refine cycleIn?_component_ne_none hwired hk ?_ hi hnone
    exact (mem_component hwired hk).mpr ((hmutual i).mp hin)
  · intro h members hmem
    obtain ⟨k, hk, hmutual⟩ := hcomponents.members members hmem
    rw [cycleOf?_eq hwired hk hmutual]
    exact cycleIn?_component_eq_none hwired hk (h k)

theorem isEarliestCycle_of_findSome? (hwired : graph.Wired)
    (hcomponents : graph.ListsComponents components) {path : List Nat}
    (h : components.findSome? graph.cycleOf? = some path) :
    ∃ start < graph.size, graph.IsEarliestCycle start path := by
  obtain ⟨members, hmem, hpath⟩ := List.exists_of_findSome?_eq_some h
  obtain ⟨k, hk, hmutual⟩ := hcomponents.members members hmem
  rw [cycleOf?_eq hwired hk hmutual] at hpath
  obtain ⟨start, hstart, hearliest⟩ := exists_isEarliestCycle hwired hk hpath
  exact ⟨start, List.mem_range.mp (List.mem_of_mem_filter hstart), hearliest⟩

end Among

/-! ## The components that are searched -/

/-- The components of some tasks are disjoint, since each is listed only if it was not found yet. -/
theorem nodup_flatten_componentsOf (hwired : graph.Wired) {starts : List Nat}
    (hstarts : ∀ i ∈ starts, i < graph.size) : (graph.componentsOf starts).flatten.Nodup := by
  induction starts with
  | nil => exact List.nodup_nil
  | cons first rest ih =>
      have hrest := ih fun i hi => hstarts i (List.mem_cons_of_mem _ hi)
      have hfirst : first < graph.size := hstarts first List.mem_cons_self
      rw [componentsOf, List.foldr_cons, ← componentsOf]
      split
      · exact hrest
      · next hnew =>
          rw [List.flatten_cons, List.nodup_append']
          refine ⟨(component_sorted graph first).imp fun hlt => hlt.ne, hrest, ?_⟩
          intro j hj hfound
          -- a task of both would put the first one into a component that was found
          obtain ⟨members, hmembers, hin⟩ := List.mem_flatten.mp hfound
          obtain ⟨k, hk, rfl⟩ := exists_of_mem_componentsOf hmembers
          have hk : k < graph.size := hstarts k (List.mem_cons_of_mem _ hk)
          obtain ⟨hfj, hjf⟩ := (mem_component hwired hfirst).mp hj
          obtain ⟨hkj, hjk⟩ := (mem_component hwired hk).mp hin
          have hmem : first ∈ graph.component k :=
            (mem_component hwired hk).mpr ⟨hkj.trans hjf, hfj.trans hjk⟩
          exact hnew (List.any_eq_true.mpr ⟨_, hmembers, List.contains_iff_mem.mpr hmem⟩)

theorem listsComponents_componentsOf (hwired : graph.Wired) {starts : List Nat}
    (hstarts : ∀ i, i ∈ starts ↔ i < graph.size) :
    graph.ListsComponents (graph.componentsOf starts) where
  members := by
    intro members hmembers
    obtain ⟨i, hi, rfl⟩ := exists_of_mem_componentsOf hmembers
    have hi : i < graph.size := (hstarts i).mp hi
    exact ⟨i, hi, fun j => mem_component hwired hi⟩
  covers := by
    intro i hi
    exact exists_mem_componentsOf ((hstarts i).mpr hi) (mem_component_self hwired hi)
  distinct := nodup_flatten_componentsOf hwired fun i => (hstarts i).mp

/-- The components of some tasks come after those of others that are not among them. -/
theorem exists_componentsOf_append (graph : TaskGraph) (starts more : List Nat) :
    ∃ extra, graph.componentsOf (more ++ starts) = extra ++ graph.componentsOf starts ∧
      ∀ members ∈ extra, ∃ i ∈ more, members = graph.component i ∧
        ∀ others ∈ graph.componentsOf starts, i ∉ others := by
  induction more with
  | nil => exact ⟨[], rfl, by simp⟩
  | cons first rest ih =>
      obtain ⟨extra, heq, hextra⟩ := ih
      have hkeep : ∀ members ∈ extra, ∃ i ∈ first :: rest, members = graph.component i ∧
          ∀ others ∈ graph.componentsOf starts, i ∉ others := by
        intro members hmembers
        obtain ⟨i, hi, hfound⟩ := hextra members hmembers
        exact ⟨i, List.mem_cons_of_mem _ hi, hfound⟩
      rw [List.cons_append, componentsOf, List.foldr_cons, ← componentsOf, heq]
      split
      · exact ⟨extra, rfl, hkeep⟩
      · next hnew =>
          refine ⟨graph.component first :: extra, rfl, ?_⟩
          intro members hmembers
          rcases List.mem_cons.mp hmembers with rfl | hmembers
          · refine ⟨first, List.mem_cons_self, rfl, ?_⟩
            intro others hothers hin
            exact hnew (List.any_eq_true.mpr
              ⟨others, List.mem_append_right _ hothers, List.contains_iff_mem.mpr hin⟩)
          · exact hkeep members hmembers

/-- **The search misses no component with a cycle**: what it finds is what is found among all
components of the graph, in some order. -/
theorem exists_listsComponents (hwired : graph.Wired) :
    ∃ components, graph.ListsComponents components ∧
      graph.cycle? = components.findSome? graph.cycleOf? := by
  have hstarts : ∀ i, i ∈ graph.indices ++ graph.suspects ↔ i < graph.size := by
    intro i
    rw [List.mem_append, indices, List.mem_range, or_iff_left_iff_imp]
    intro hi
    obtain ⟨-, a, hedge, -⟩ := mem_suspects.mp hi
    exact (hwired a i hedge).2
  have hlists := listsComponents_componentsOf hwired hstarts
  refine ⟨_, hlists, ?_⟩
  obtain ⟨extra, heq, hextra⟩ := exists_componentsOf_append graph graph.suspects graph.indices
  rw [heq] at hlists ⊢
  -- the components without a suspect are in no cycle
  have hnone : extra.findSome? graph.cycleOf? = none := by
    rw [List.findSome?_eq_none_iff]
    intro members hmembers
    obtain ⟨i, hi, rfl, hnew⟩ := hextra members hmembers
    have hi : i < graph.size := List.mem_range.mp hi
    rw [cycleOf?_eq hwired hi fun j => mem_component hwired hi]
    refine cycleIn?_component_eq_none hwired hi fun hcycle => ?_
    obtain ⟨j, hj, hij, hji⟩ := exists_suspect hwired hcycle
    have hjsize : j < graph.size := (hstarts j).mp (List.mem_append_right _ hj)
    obtain ⟨others, hothers, hin⟩ := exists_mem_componentsOf hj (mem_component_self hwired hjsize)
    obtain ⟨k, hk, rfl⟩ := exists_of_mem_componentsOf hothers
    have hk : k < graph.size := (hstarts k).mp (List.mem_append_right _ hk)
    obtain ⟨hkj, hjk⟩ := (mem_component hwired hk).mp hin
    exact hnew _ hothers ((mem_component hwired hk).mpr ⟨hkj.trans hji, hij.trans hjk⟩)
  rw [List.findSome?_append, hnone, Option.none_or, cycle?, components_eq,
    ← List.head?_filterMap, ← List.head?_filterMap]
  refine congrArg List.head? (List.filterMap_congr fun members hmembers => ?_)
  obtain ⟨i, hi, rfl⟩ := exists_of_mem_componentsOf hmembers
  have hi : i < graph.size := (hstarts i).mp (List.mem_append_right _ hi)
  exact (cycleOf?_eq hwired hi fun j => mem_component hwired hi).symm

/-! ## Names -/

variable {nodes : List Node}

theorem Wireable.idxOf_nameAt (h : Wireable nodes) {i : Nat} (hi : i < nodes.length) :
    (nodes.map Node.name).idxOf ((wiring nodes).nameAt i) = i := by
  have hlt : i < (nodes.map Node.name).length := by rwa [List.length_map]
  have hname : (wiring nodes).nameAt i = (nodes.map Node.name)[i] := by simp [nameAt, wiring, hi]
  rw [hname]
  exact h.nodup.idxOf_getElem i hlt

theorem Wireable.exists_reflTransGen (h : Wireable nodes) {i : Nat} (hi : i < nodes.length)
    {name : String}
    (hreach : ReflTransGen (Precedes nodes) ((wiring nodes).nameAt i) name) :
    ∃ j < nodes.length, (wiring nodes).nameAt j = name ∧ ReflTransGen (wiring nodes).Edge i j := by
  induction hreach with
  | refl => exact ⟨i, hi, rfl, ReflTransGen.refl⟩
  | tail _ hneed ih =>
      obtain ⟨j, hj, rfl, hij⟩ := ih
      obtain ⟨node, hnode, rfl, hmem⟩ := hneed
      obtain ⟨k, hk⟩ := List.mem_iff_getElem?.mp hnode
      have hget : nodes[j]? = some nodes[j] := List.getElem?_eq_getElem hj
      have hedge : (wiring nodes).Edge j k := by
        refine (edge_wiring h).mpr ⟨nodes[j], node, hget, hk, ?_⟩
        simpa [nameAt, wiring, hj] using hmem
      refine ⟨k, (List.getElem?_eq_some_iff.mp hk).1, ?_, hij.tail hedge⟩
      simp [nameAt, wiring, hk]

/-- **What is reported as a cycle** among some tasks. -/
structure ReportsCycle (nodes : List Node) (path : List String) : Prop where
  /-- There are two entries at least. -/
  length : 2 ≤ path.length
  /-- Each task is a need of the next one. -/
  needs : path.IsChain (Precedes nodes)
  /-- The last task is the first one again, and no other is there twice. -/
  closed : ∃ first inner, path = first :: inner ++ [first] ∧ (first :: inner).Nodup
  /-- The first task was added before all others that come before it and after it. -/
  earliest : ∀ first, path.head? = some first → ∀ other,
    ReflTransGen (Precedes nodes) first other → ReflTransGen (Precedes nodes) other first →
    (nodes.map Node.name).idxOf first ≤ (nodes.map Node.name).idxOf other

/-- **What a search for cycles finds** among some tasks: a cycle exactly if there is one. -/
structure FindsCycle (nodes : List Node) (found : Option (List String)) : Prop where
  found_iff : (∃ path, found = some path) ↔ ∃ name, TransGen (Precedes nodes) name name
  reports : ∀ path, found = some path → ReportsCycle nodes path

theorem Wireable.reportsCycle (h : Wireable nodes) {start : Nat} (hstart : start < nodes.length)
    {path : List Nat} (hpath : (wiring nodes).IsEarliestCycle start path) :
    ReportsCycle nodes (path.map (wiring nodes).nameAt) := by
  obtain ⟨first, inner, rfl, hnodup⟩ := hpath.closed
  obtain rfl : first = start := Option.some.inj hpath.start_eq
  have hlt : ∀ i ∈ first :: inner, i < nodes.length := lt_of_isChain (wired_wiring h) hpath.chain
  refine
    { length := by simp
      needs := ?_
      closed := ?_
      earliest := ?_ }
  · rw [List.isChain_map]
    exact hpath.chain.imp fun _ _ => precedes_of_edge h
  · refine ⟨(wiring nodes).nameAt first, inner.map (wiring nodes).nameAt, by simp, ?_⟩
    refine List.Nodup.map_on (l := first :: inner) ?_ hnodup
    intro i hi j hj hname
    rw [← h.idxOf_nameAt (hlt i hi), ← h.idxOf_nameAt (hlt j hj), hname]
  · rintro _ ⟨rfl⟩ other hreach hback
    obtain ⟨j, hj, rfl, hij⟩ := h.exists_reflTransGen hstart hreach
    obtain ⟨k, hk, hname, hjk⟩ := h.exists_reflTransGen hj hback
    have hsame : k = first := by
      rw [← h.idxOf_nameAt hk, hname, h.idxOf_nameAt hstart]
    rw [h.idxOf_nameAt hstart, h.idxOf_nameAt hj]
    exact hpath.earliest j hij (hsame ▸ hjk)

theorem Wireable.findsCycle (h : Wireable nodes) {components : List (List Nat)}
    (hcomponents : (wiring nodes).ListsComponents components) :
    FindsCycle nodes ((wiring nodes).findCycleAmong? components) := by
  have hwired := wired_wiring h
  constructor
  · have hnone : (wiring nodes).findCycleAmong? components = none ↔
        ∀ name, ¬ TransGen (Precedes nodes) name name := by
      rw [findCycleAmong?, Option.map_eq_none_iff, findSome?_cycleOf?_eq_none hwired hcomponents,
        acyclic_wiring h]
    rw [← Option.ne_none_iff_exists', Ne, hnone]
    push Not
    rfl
  · intro path hpath
    obtain ⟨places, hplaces, rfl⟩ := Option.map_eq_some_iff.mp hpath
    obtain ⟨start, hstart, hearliest⟩ := isEarliestCycle_of_findSome? hwired hcomponents hplaces
    exact h.reportsCycle hstart hearliest

/-- **Cycles are found, and those reported are real.** Among the tasks that a graph was made of, a
cycle is found exactly if some task comes before itself, directly or by way of others. What is
reported comes back to its first task and meets no other twice, each task on it is a need of the
next one, and no task of its component was added before the first one. The components are searched
as if they were listed in some order, and in whatever order they are listed this holds. -/
theorem finds_cycles (h : ofTasks nodes = .ok graph) :
    FindsCycle nodes graph.findCycle? ∧
    (∃ components, graph.ListsComponents components ∧
      graph.findCycle? = graph.findCycleAmong? components) ∧
    ∀ components, graph.ListsComponents components →
      FindsCycle nodes (graph.findCycleAmong? components) := by
  obtain ⟨hwireable, rfl⟩ := ofTasks_eq_ok.mp h
  obtain ⟨components, hcomponents, hcycle⟩ := exists_listsComponents (wired_wiring hwireable)
  have hfound : (wiring nodes).findCycle? = (wiring nodes).findCycleAmong? components := by
    rw [findCycle?, hcycle, findCycleAmong?]
  refine ⟨?_, ⟨components, hcomponents, hfound⟩, fun _ => hwireable.findsCycle⟩
  rw [hfound]
  exact hwireable.findsCycle hcomponents

/-! ## An example -/

/-- Tasks with a cycle on which a search from the earliest task goes astray at first: what is tested
only leads back to what is built. -/
def releaseTasks : List Node :=
  [⟨"notes", []⟩, ⟨"plan", ["ship"]⟩, ⟨"build", ["plan", "test"]⟩, ⟨"test", ["build"]⟩,
    ⟨"ship", ["build", "notes"]⟩]

theorem releaseTasks_finds_cycles :
    ∃ graph components, ofTasks releaseTasks = .ok graph ∧
      graph.findCycle? = some ["plan", "build", "ship", "plan"] ∧
      ReportsCycle releaseTasks ["plan", "build", "ship", "plan"] ∧
      graph.ListsComponents components ∧
      FindsCycle releaseTasks (graph.findCycleAmong? components) := by
  have hgraph : ofTasks releaseTasks = .ok (wiring releaseTasks) := rfl
  have hedges : wiring releaseTasks =
      ⟨releaseTasks, [(4, 1), (1, 2), (3, 2), (2, 3), (2, 4), (0, 4)]⟩ := rfl
  have hsize (edges : List (Nat × Nat)) : size ⟨releaseTasks, edges⟩ = 5 := rfl
  have hindices (edges : List (Nat × Nat)) : indices ⟨releaseTasks, edges⟩ = [0, 1, 2, 3, 4] := rfl
  have hcomponents : (wiring releaseTasks).components = [[1, 2, 3, 4]] := by
    simp [hedges, hsize, hindices, TaskGraph.components, suspects, finishOrder, component,
      reachable, reversed, successors, walk]
  have hpath : (wiring releaseTasks).cycle? = some [1, 2, 4, 1] := by
    rw [cycle?, hcomponents, hedges]
    simp [cycleIn?, successorsIn, successors, pathBack?]
  have hcycle : (wiring releaseTasks).findCycle? = some ["plan", "build", "ship", "plan"] := by
    rw [findCycle?, hpath]
    rfl
  obtain ⟨hfinds, ⟨components, hcomponents, -⟩, hall⟩ := finds_cycles hgraph
  exact ⟨_, components, hgraph, hcycle, hfinds.reports _ hcycle, hcomponents,
    hall components hcomponents⟩

end Recipe.TaskGraph
