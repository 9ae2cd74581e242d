import Recipe.Proofs.TaskGraph.Walk
import Mathlib.Data.List.Chain
import Mathlib.Data.List.Nodup

/-!
# What a cycle search finds

The search for a cycle finds one exactly if there is one (`findCycle?_eq_none`). Whatever the
search of a component comes back with is a cycle (`isCycle_of_pathBack?`), and it comes back if
its start lies on a cycle (`pathBack?_ne_none`). A cycle has a suspect, because the places in the
finish order cannot go down all along it.
-/

set_option autoImplicit false

namespace Recipe.TaskGraph

open Relation

variable {graph : TaskGraph}

/-- No edges lead from a task back to it. -/
def Acyclic (graph : TaskGraph) : Prop := ∀ i, ¬ TransGen graph.Edge i i

/-- There is no cycle if all edges go up in some numbering of the tasks. -/
theorem acyclic_of_lt (place : Nat → Nat)
    (h : ∀ edge ∈ graph.edges, place edge.1 < place edge.2) : graph.Acyclic := by
  intro i hcycle
  have hlt : TransGen (· < ·) (place i) (place i) := hcycle.lift place fun j k => h (j, k)
  rw [transGen_eq_self] at hlt
  exact lt_irrefl _ hlt

/-- A path along edges that comes back to its start and meets no task twice before. -/
structure IsCycle (graph : TaskGraph) (path : List Nat) : Prop where
  chain : path.IsChain graph.Edge
  closed : ∃ start inner, path = start :: inner ++ [start] ∧ (start :: inner).Nodup

theorem transGen_of_isChain {α : Type} {r : α → α → Prop} {start : α} {inner : List α}
    (h : (start :: inner ++ [start]).IsChain r) : TransGen r start start := by
  rw [List.cons_append] at h
  cases inner with
  | nil =>
      rw [List.nil_append, List.isChain_cons_cons] at h
      exact TransGen.single h.1
  | cons next rest =>
      rw [List.cons_append, List.isChain_cons_cons] at h
      exact TransGen.head' h.1
        (List.relationReflTransGen_of_exists_isChain_cons _ h.2 (by simp))

theorem IsCycle.transGen {path : List Nat} (h : graph.IsCycle path) :
    ∃ start, TransGen graph.Edge start start := by
  obtain ⟨start, inner, rfl, -⟩ := h.closed
  exact ⟨start, transGen_of_isChain h.chain⟩

/-! ## What the search of a component returns -/

theorem mem_successorsIn {members : List Nat} {i j : Nat} :
    j ∈ graph.successorsIn members i ↔ j ∈ members ∧ graph.Edge i j := by
  simp only [successorsIn, List.mem_filter, List.contains_iff_mem, mem_successors]

/-- The trail of a search is a path from its start, last task first, that meets no task twice. -/
structure Trailing (graph : TaskGraph) (start : Nat) (trail : Trail) (visited : List Nat) :
    Prop where
  chain : (trail.map Prod.fst).IsChain fun i j => graph.Edge j i
  last : ∀ i, (trail.map Prod.fst).getLast? = some i → i = start
  nodup : (trail.map Prod.fst).Nodup
  visited : ∀ entry ∈ trail, entry.1 ∈ visited
  next : ∀ entry ∈ trail, ∀ j ∈ entry.2, graph.Edge entry.1 j

namespace Trailing

variable {start index next : Nat} {others visited : List Nat} {rest : Trail}

/-- A task without any more to try is given up. -/
theorem pop (h : graph.Trailing start ((index, []) :: rest) visited) :
    graph.Trailing start rest visited where
  chain := (List.isChain_cons.mp h.chain).2
  last i hi := by
    refine h.last i ?_
    cases rest with
    | nil => simp at hi
    | cons entry rest => simpa using hi
  nodup := (List.nodup_cons.mp h.nodup).2
  visited entry hentry := h.visited entry (List.mem_cons_of_mem _ hentry)
  next entry hentry := h.next entry (List.mem_cons_of_mem _ hentry)

/-- A task that was tried is not tried again. -/
theorem skip (h : graph.Trailing start ((index, next :: others) :: rest) visited) :
    graph.Trailing start ((index, others) :: rest) visited where
  chain := h.chain
  last := h.last
  nodup := h.nodup
  visited entry hentry := by
    rcases List.mem_cons.mp hentry with rfl | hentry
    · exact h.visited (index, next :: others) List.mem_cons_self
    · exact h.visited entry (List.mem_cons_of_mem _ hentry)
  next entry hentry j hj := by
    rcases List.mem_cons.mp hentry with rfl | hentry
    · exact h.next (index, next :: others) List.mem_cons_self j (List.mem_cons_of_mem _ hj)
    · exact h.next entry (List.mem_cons_of_mem _ hentry) j hj

/-- A new task goes to the end of the path. -/
theorem push (h : graph.Trailing start ((index, next :: others) :: rest) visited)
    (members : List Nat) (hnext : next ∉ visited) :
    graph.Trailing start ((next, graph.successorsIn members next) :: (index, others) :: rest)
      (next :: visited) where
  chain := by
    have hedge := h.next (index, next :: others) List.mem_cons_self next List.mem_cons_self
    exact List.isChain_cons_cons.mpr ⟨hedge, h.chain⟩
  last i hi := h.last i (by simpa using hi)
  nodup := by
    refine List.nodup_cons.mpr ⟨?_, h.nodup⟩
    intro hmem
    obtain ⟨entry, hentry, heq⟩ := List.mem_map.mp hmem
    have hvisited : entry.1 ∈ visited := h.skip.visited entry hentry
    rw [heq] at hvisited
    exact hnext hvisited
  visited entry hentry := by
    rcases List.mem_cons.mp hentry with rfl | hentry
    · exact List.mem_cons_self
    · exact List.mem_cons_of_mem _ (h.skip.visited entry hentry)
  next entry hentry j hj := by
    rcases List.mem_cons.mp hentry with rfl | hentry
    · exact (mem_successorsIn.mp hj).2
    · exact h.skip.next entry hentry j hj

/-- Back at its start the path is a cycle. -/
theorem isCycle (h : graph.Trailing start ((index, start :: others) :: rest) visited) :
    graph.IsCycle ((index :: rest.map Prod.fst).reverse ++ [start]) where
  chain := by
    have hedge := h.next (index, start :: others) List.mem_cons_self start List.mem_cons_self
    rw [← List.reverse_cons, List.isChain_reverse]
    exact List.isChain_cons_cons.mpr ⟨hedge, h.chain⟩
  closed := by
    -- the trail holds the path backwards, so its last task is where the path starts
    have hlast : (index :: rest.map Prod.fst).reverse.head? = some start := by
      rw [List.head?_reverse, List.getLast?_eq_some_getLast (List.cons_ne_nil _ _)]
      exact congrArg some (h.last _ (List.getLast?_eq_some_getLast (List.cons_ne_nil _ _)))
    have hnodup : (index :: rest.map Prod.fst).reverse.Nodup := List.nodup_reverse.mpr h.nodup
    cases hpath : (index :: rest.map Prod.fst).reverse with
    | nil => simp at hpath
    | cons first inner =>
        rw [hpath, List.head?_cons, Option.some.injEq] at hlast
        subst hlast
        exact ⟨first, inner, rfl, hpath ▸ hnodup⟩

end Trailing

/-- **What a search comes back with is a cycle.** -/
theorem isCycle_of_pathBack? {members : List Nat} {start : Nat} {path : List Nat} (trail : Trail)
    (visited : List Nat) (htrail : graph.Trailing start trail visited)
    (h : graph.pathBack? members start trail visited = some path) : graph.IsCycle path := by
  induction trail, visited using pathBack?.induct graph members start with
  | case1 visited => simp [pathBack?] at h
  | case2 visited index rest ih =>
      rw [pathBack?] at h
      exact ih htrail.pop h
  | case3 visited index others rest =>
      rw [pathBack?, if_pos rfl, Option.some.injEq] at h
      exact h ▸ htrail.isCycle
  | case4 visited index next others rest hne hskip ih =>
      rw [pathBack?, if_neg hne, dif_pos hskip] at h
      exact ih htrail.skip h
  | case5 visited index next others rest hne hnew hlt ih =>
      rw [pathBack?, if_neg hne, dif_neg hnew] at h
      exact ih (htrail.push members (fun hmem => hnew (Or.inl hmem))) h

theorem isCycle_of_cycleIn? {members path : List Nat} (h : graph.cycleIn? members = some path) :
    graph.IsCycle path := by
  cases members with
  | nil => cases h
  | cons start rest =>
      refine isCycle_of_pathBack? _ _ ?_ h
      exact
        { chain := by simp
          last := by simp [eq_comm]
          nodup := by simp
          visited := by simp
          next := by
            intro entry hentry j hj
            rw [List.mem_singleton] at hentry
            subst hentry
            exact (mem_successorsIn.mp hj).2 }

/-! ## When the search of a component returns -/

/-- The state of a search that has not come back: the successors of a visited task are still to be
tried, or are visited and not the start. -/
def Backtracking (graph : TaskGraph) (members : List Nat) (start : Nat) (trail : Trail)
    (visited : List Nat) : Prop :=
  ∀ i ∈ visited, ∀ j ∈ graph.successorsIn members i,
    (j ≠ start ∧ j ∈ visited) ∨ ∃ others, (i, others) ∈ trail ∧ j ∈ others

/-- A search that does not come back ends with tasks whose successors are all among them, and
never the start. -/
theorem closed_of_pathBack?_eq_none {members : List Nat} {start : Nat} (trail : Trail)
    (visited : List Nat) (htrail : graph.Backtracking members start trail visited)
    (h : graph.pathBack? members start trail visited = none) :
    ∃ all : List Nat, (∀ i ∈ visited, i ∈ all) ∧
      ∀ i ∈ all, ∀ j ∈ graph.successorsIn members i, j ≠ start ∧ j ∈ all := by
  induction trail, visited using pathBack?.induct graph members start with
  | case1 visited =>
      refine ⟨visited, fun i hi => hi, ?_⟩
      intro i hi j hj
      rcases htrail i hi j hj with h | ⟨others, hmem, -⟩
      · exact h
      · simp at hmem
  | case2 visited index rest ih =>
      rw [pathBack?] at h
      refine ih ?_ h
      intro i hi j hj
      rcases htrail i hi j hj with h | ⟨others, hmem, hj⟩
      · exact Or.inl h
      · rcases List.mem_cons.mp hmem with heq | hmem
        · cases heq
          simp at hj
        · exact Or.inr ⟨others, hmem, hj⟩
  | case3 visited index others rest =>
      rw [pathBack?, if_pos rfl] at h
      cases h
  | case4 visited index next others rest hne hskip ih =>
      rw [pathBack?, if_neg hne, dif_pos hskip] at h
      refine ih ?_ h
      intro i hi j hj
      rcases htrail i hi j hj with h | ⟨tried, hmem, hjt⟩
      · exact Or.inl h
      · rcases List.mem_cons.mp hmem with heq | hmem
        · cases heq
          -- the task passed over is not the start, and it was visited since it is one of the
          -- members
          rcases List.mem_cons.mp hjt with rfl | hjt
          · refine Or.inl ⟨hne, hskip.resolve_right ?_⟩
            exact fun hout => hout (mem_successorsIn.mp hj).1
          · exact Or.inr ⟨others, List.mem_cons_self, hjt⟩
        · exact Or.inr ⟨tried, List.mem_cons_of_mem _ hmem, hjt⟩
  | case5 visited index next others rest hne hnew hlt ih =>
      rw [pathBack?, if_neg hne, dif_neg hnew] at h
      -- the successors of the new task are still to be tried; for all others nothing is lost
      obtain ⟨all, hsub, hclosed⟩ := ih (by
        intro i hi j hj
        rcases List.mem_cons.mp hi with rfl | hi
        · exact Or.inr ⟨_, List.mem_cons_self, hj⟩
        · rcases htrail i hi j hj with h | ⟨tried, hmem, hjt⟩
          · exact Or.inl ⟨h.1, List.mem_cons_of_mem _ h.2⟩
          · rcases List.mem_cons.mp hmem with heq | hmem
            · cases heq
              rcases List.mem_cons.mp hjt with rfl | hjt
              · exact Or.inl ⟨hne, List.mem_cons_self⟩
              · exact Or.inr ⟨others, List.mem_cons_of_mem _ List.mem_cons_self, hjt⟩
            · exact Or.inr ⟨tried, List.mem_cons_of_mem _ (List.mem_cons_of_mem _ hmem), hjt⟩) h
      exact ⟨all, fun i hi => hsub i (List.mem_cons_of_mem _ hi), hclosed⟩

/-- **A search comes back if a cycle leads through its start**, and all that reaches the start and
is reached from it may be tried. -/
theorem pathBack?_ne_none {members : List Nat} {start : Nat}
    (hmembers : ∀ i, ReflTransGen graph.Edge start i → ReflTransGen graph.Edge i start →
      i ∈ members)
    (hcycle : TransGen graph.Edge start start) :
    graph.pathBack? members start [(start, graph.successorsIn members start)] [start] ≠ none := by
  intro h
  obtain ⟨all, hsub, hclosed⟩ := closed_of_pathBack?_eq_none _ _ (by
    intro i hi j hj
    rw [List.mem_singleton] at hi
    subst hi
    exact Or.inr ⟨_, List.mem_cons_self, hj⟩) h
  -- along a way back to the start the search stays among `all`
  have hstay : ∀ i, ReflTransGen graph.Edge start i → ReflTransGen graph.Edge i start →
      i ∈ all := by
    intro i hi
    induction hi with
    | refl => exact fun _ => hsub start (by simp)
    | @tail i j hij hedge ih =>
        intro hback
        have hmem := ih (ReflTransGen.head hedge hback)
        have hj := hmembers j (hij.tail hedge) hback
        exact (hclosed i hmem j (mem_successorsIn.mpr ⟨hj, hedge⟩)).2
  obtain ⟨i, hi, hedge⟩ := TransGen.tail'_iff.mp hcycle
  have hmem := hstay i hi (ReflTransGen.single hedge)
  have hstart := hmembers start ReflTransGen.refl ReflTransGen.refl
  exact (hclosed i hmem start (mem_successorsIn.mpr ⟨hstart, hedge⟩)).1 rfl

/-! ## Suspects -/

/-- A number that goes down along every edge between a task and another that reaches it goes down
along every part of a cycle through the task. -/
theorem lt_of_transGen (place : Nat → Nat) {i : Nat}
    (hdown : ∀ a b, graph.Edge a b → ReflTransGen graph.Edge i a → ReflTransGen graph.Edge b i →
      place b < place a) {j : Nat}
    (h : TransGen graph.Edge i j) (hback : ReflTransGen graph.Edge j i) : place j < place i := by
  induction h with
  | single hedge => exact hdown _ _ hedge ReflTransGen.refl hback
  | @tail b c hib hedge ih =>
      calc place c < place b := hdown b c hedge hib.to_reflTransGen hback
        _ < place i := ih (hback.head hedge)

theorem mem_suspects {j : Nat} :
    j ∈ graph.suspects ↔ j ∈ graph.finishOrder ∧ ∃ i, graph.Edge i j ∧
      graph.finishOrder.idxOf i ≤ graph.finishOrder.idxOf j := by
  simp only [suspects, List.mem_filter, List.contains_iff_mem, List.mem_filterMap, Prod.exists,
    Edge]
  refine and_congr_right fun _ => ?_
  constructor
  · rintro ⟨a, b, hmem, h⟩
    split at h
    · next hle =>
        injection h with h
        subst h
        exact ⟨a, hmem, hle⟩
    · cases h
  · rintro ⟨i, hmem, hle⟩
    exact ⟨i, j, hmem, if_pos hle⟩

/-- **The component of a task on a cycle has a suspect.** -/
theorem exists_suspect (hwired : graph.Wired) {i : Nat} (h : TransGen graph.Edge i i) :
    ∃ j ∈ graph.suspects, ReflTransGen graph.Edge i j ∧ ReflTransGen graph.Edge j i := by
  by_contra hnone
  push Not at hnone
  refine lt_irrefl _ (lt_of_transGen graph.finishOrder.idxOf ?_ h ReflTransGen.refl)
  intro a b hedge hreach hback
  -- an edge of a cycle along which the place does not go down ends at a suspect
  by_contra hle
  refine hnone b ?_ (hreach.tail hedge) hback
  exact mem_suspects.mpr ⟨mem_finishOrder (hwired a b hedge).2, a, hedge, not_lt.mp hle⟩

/-! ## Components -/

/-- The components of some tasks, each once. -/
def componentsOf (graph : TaskGraph) (starts : List Nat) : List (List Nat) :=
  starts.foldr (fun index found =>
    if found.any (·.contains index) then found else graph.component index :: found) []

theorem components_eq : graph.components = graph.componentsOf graph.suspects := rfl

theorem exists_of_mem_componentsOf {starts members : List Nat}
    (h : members ∈ graph.componentsOf starts) : ∃ i ∈ starts, members = graph.component i := by
  induction starts with
  | nil => simp [componentsOf] at h
  | cons first rest ih =>
      rw [componentsOf, List.foldr_cons, ← componentsOf] at h
      -- what was found among the rest is there in either case
      have hrest : members ∈ graph.componentsOf rest →
          ∃ i ∈ first :: rest, members = graph.component i := by
        intro hmem
        obtain ⟨i, hi, heq⟩ := ih hmem
        exact ⟨i, List.mem_cons_of_mem _ hi, heq⟩
      split at h
      · exact hrest h
      · rcases List.mem_cons.mp h with rfl | h
        · exact ⟨first, List.mem_cons_self, rfl⟩
        · exact hrest h

theorem exists_mem_componentsOf {starts : List Nat} {i : Nat} (hi : i ∈ starts)
    (hmem : i ∈ graph.component i) : ∃ members ∈ graph.componentsOf starts, i ∈ members := by
  induction starts with
  | nil => simp at hi
  | cons first rest ih =>
      rw [componentsOf, List.foldr_cons, ← componentsOf]
      split
      · next hfound =>
          rcases List.mem_cons.mp hi with rfl | hi
          · obtain ⟨members, hmembers, hcontains⟩ := List.any_eq_true.mp hfound
            exact ⟨members, hmembers, List.contains_iff_mem.mp hcontains⟩
          · exact ih hi
      · rcases List.mem_cons.mp hi with rfl | hi
        · exact ⟨_, List.mem_cons_self, hmem⟩
        · obtain ⟨members, hmembers, hin⟩ := ih hi
          exact ⟨members, List.mem_cons_of_mem _ hmembers, hin⟩

/-- The search of a component finds a cycle if one leads through any of its tasks. -/
theorem cycleIn?_component_ne_none (hwired : graph.Wired) {i j : Nat} (hi : i < graph.size)
    (hj : j ∈ graph.component i) (hcycle : TransGen graph.Edge j j) :
    graph.cycleIn? (graph.component i) ≠ none := by
  have hmem : ∀ k, k ∈ graph.component i ↔
      ReflTransGen graph.Edge i k ∧ ReflTransGen graph.Edge k i :=
    fun k => mem_component hwired hi
  cases hmembers : graph.component i with
  | nil => simp [hmembers] at hj
  | cons start rest =>
      obtain ⟨his, hsi⟩ := (hmem start).mp (by rw [hmembers]; exact List.mem_cons_self)
      obtain ⟨hij, hji⟩ := (hmem j).mp hj
      rw [cycleIn?, ← hmembers]
      refine pathBack?_ne_none ?_ ?_
      -- all of the component is reached from its first task and reaches it, and so is any cycle
      -- in it
      · intro k hsk hks
        exact (hmem k).mpr ⟨his.trans hsk, hks.trans hsi⟩
      · exact (TransGen.trans_right (hsi.trans hij) hcycle).trans_left (hji.trans his)

/-! ## Finding cycles -/

theorem findCycle?_eq_none_iff : graph.findCycle? = none ↔ graph.cycle? = none := by
  rw [findCycle?, Option.map_eq_none_iff]

/-- **A cycle is found exactly if there is one.** -/
theorem findCycle?_eq_none (hwired : graph.Wired) : graph.findCycle? = none ↔ graph.Acyclic := by
  rw [findCycle?_eq_none_iff, cycle?, List.findSome?_eq_none_iff, components_eq]
  constructor
  · intro h i hi
    obtain ⟨j, hj, hij, hji⟩ := exists_suspect hwired hi
    have hcycle : TransGen graph.Edge j j := (TransGen.trans_right hji hi).trans_left hij
    obtain ⟨a, -, hedge⟩ := TransGen.tail'_iff.mp hcycle
    have hsize : j < graph.size := (hwired a j hedge).2
    -- the suspect may have been found in the component of another, whose search then finds the
    -- cycle
    obtain ⟨members, hmembers, hin⟩ := exists_mem_componentsOf hj
      ((mem_component hwired hsize).mpr ⟨ReflTransGen.refl, ReflTransGen.refl⟩)
    obtain ⟨k, hk, rfl⟩ := exists_of_mem_componentsOf hmembers
    obtain ⟨-, b, hedge', -⟩ := mem_suspects.mp hk
    exact cycleIn?_component_ne_none hwired (hwired b k hedge').2 hin hcycle (h _ hmembers)
  · intro h members _
    by_contra hsome
    obtain ⟨path, hpath⟩ := Option.ne_none_iff_exists'.mp hsome
    obtain ⟨start, hstart⟩ := (isCycle_of_cycleIn? hpath).transGen
    exact h start hstart

end Recipe.TaskGraph
