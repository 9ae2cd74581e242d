import Recipe.TaskGraph.Cycle
import Mathlib.Logic.Relation

/-!
# What a walk reaches

A depth-first walk leaves exactly the tasks that can be reached from where it starts: it leaves
nothing that is not reached (`walk_subset`), and what it leaves is closed under edges
(`walk_closed`). Hence `reachable` and `component` mean what they say.
-/

set_option autoImplicit false

namespace Recipe.TaskGraph

open Relation

variable {graph : TaskGraph}

/-! ## Edges -/

/-- The edge from a needed task to one that needs it. -/
def Edge (graph : TaskGraph) (i j : Nat) : Prop := (i, j) ∈ graph.edges

/-- All edges are between tasks of the graph. -/
def Wired (graph : TaskGraph) : Prop :=
  ∀ i j, graph.Edge i j → i < graph.size ∧ j < graph.size

theorem mem_successors {i j : Nat} : j ∈ graph.successors i ↔ graph.Edge i j := by
  simp only [successors, List.mem_filterMap, Edge]
  constructor
  · rintro ⟨⟨a, b⟩, hmem, h⟩
    split at h
    · next ha =>
        simp only at ha
        simp only [Option.some.injEq] at h
        subst ha
        subst h
        exact hmem
    · cases h
  · intro h
    exact ⟨(i, j), h, by simp⟩

theorem edge_reversed {i j : Nat} : graph.reversed.Edge i j ↔ graph.Edge j i := by
  simp only [Edge, reversed, List.mem_map, Prod.exists, Prod.swap_prod_mk, Prod.mk.injEq]
  constructor
  · rintro ⟨a, b, h, rfl, rfl⟩
    exact h
  · intro h
    exact ⟨j, i, h, rfl, rfl⟩

theorem Wired.reversed (h : graph.Wired) : graph.reversed.Wired := by
  intro i j hij
  exact (h j i (edge_reversed.mp hij)).symm

theorem reflTransGen_reversed {i j : Nat} :
    ReflTransGen graph.reversed.Edge i j ↔ ReflTransGen graph.Edge j i := by
  have hswap : graph.reversed.Edge = Function.swap graph.Edge := by
    funext a b
    exact propext edge_reversed
  rw [hswap, reflTransGen_swap]

/-! ## Walks -/

section Visits

variable {i index : Nat} {rest : List Visit}

theorem enter_mem_cons_enter :
    Visit.enter i ∈ Visit.enter index :: rest ↔ i = index ∨ Visit.enter i ∈ rest := by
  rw [List.mem_cons, Visit.enter.injEq]

theorem leave_mem_cons_leave :
    Visit.leave i ∈ Visit.leave index :: rest ↔ i = index ∨ Visit.leave i ∈ rest := by
  rw [List.mem_cons, Visit.leave.injEq]

theorem enter_mem_entered :
    Visit.enter i ∈ (graph.successors index).reverse.map .enter ++ .leave index :: rest ↔
      graph.Edge index i ∨ Visit.enter i ∈ rest := by
  simp [mem_successors]

theorem leave_mem_entered :
    Visit.leave i ∈ (graph.successors index).reverse.map .enter ++ .leave index :: rest ↔
      i = index ∨ Visit.leave i ∈ rest := by
  simp

end Visits

/-- **A walk leaves nothing that is not reached**: a set that is closed under edges and has all
that is left or still to be visited has all that the walk leaves in the end. -/
theorem walk_subset {P : Nat → Prop} (hP : ∀ i j, P i → graph.Edge i j → P j)
    (visits : List Visit) (seen left : List Nat) (hleft : ∀ i ∈ left, P i)
    (henter : ∀ i, Visit.enter i ∈ visits → P i) (hleave : ∀ i, Visit.leave i ∈ visits → P i) :
    ∀ i ∈ graph.walk visits seen left, P i := by
  induction visits, seen, left using walk.induct graph with
  | case1 seen left =>
      rw [walk]
      intro i hi
      exact hleft i (List.mem_reverse.mp hi)
  | case2 seen left index rest ih =>
      rw [walk]
      refine ih ?_ (fun i hi => henter i (List.mem_cons_of_mem _ hi))
        (fun i hi => hleave i (List.mem_cons_of_mem _ hi))
      intro i hi
      rcases List.mem_cons.mp hi with rfl | hi
      · exact hleave i List.mem_cons_self
      · exact hleft i hi
  | case3 seen left index rest h ih =>
      rw [walk, dif_pos h]
      exact ih hleft (fun i hi => henter i (List.mem_cons_of_mem _ hi))
        (fun i hi => hleave i (List.mem_cons_of_mem _ hi))
  -- a task that is entered: what is added to the visits is the task itself and its successors
  | case4 seen left index rest h hlt ih =>
      rw [walk, dif_neg h]
      have hindex : P index := henter index List.mem_cons_self
      refine ih hleft ?_ ?_
      · intro i hi
        rcases enter_mem_entered.mp hi with hedge | hi
        · exact hP index i hindex hedge
        · exact henter i (List.mem_cons_of_mem _ hi)
      · intro i hi
        rcases leave_mem_entered.mp hi with rfl | hi
        · exact hindex
        · exact hleave i (List.mem_cons_of_mem _ hi)

/-- The state of a walk: what is left has been seen, what has been seen is left or will be, and its
successors have been seen or will be entered. -/
structure Visiting (graph : TaskGraph) (visits : List Visit) (seen left : List Nat) : Prop where
  left_seen : ∀ i ∈ left, i ∈ seen
  leave_seen : ∀ i, Visit.leave i ∈ visits → i ∈ seen
  seen_left : ∀ i ∈ seen, i ∈ left ∨ Visit.leave i ∈ visits
  successors : ∀ i ∈ seen, ∀ j, graph.Edge i j → j < graph.size →
    j ∈ seen ∨ Visit.enter j ∈ visits

/-- Entering a task puts its successors in front of what is to be visited. -/
theorem Visiting.enter {index : Nat} {rest : List Visit} {seen left : List Nat}
    (h : graph.Visiting (.enter index :: rest) seen left) :
    graph.Visiting ((graph.successors index).reverse.map .enter ++ .leave index :: rest)
      (index :: seen) left where
  left_seen i hi := List.mem_cons_of_mem _ (h.left_seen i hi)
  leave_seen i hi := by
    rcases leave_mem_entered.mp hi with rfl | hi
    · exact List.mem_cons_self
    · exact List.mem_cons_of_mem _ (h.leave_seen i (List.mem_cons_of_mem _ hi))
  seen_left i hi := by
    rcases List.mem_cons.mp hi with rfl | hi
    · exact Or.inr (leave_mem_entered.mpr (Or.inl rfl))
    · rcases h.seen_left i hi with hleft | hleave
      · exact Or.inl hleft
      · exact Or.inr (leave_mem_entered.mpr (Or.inr (by simpa using hleave)))
  successors i hi j hij hj := by
    rcases List.mem_cons.mp hi with rfl | hi
    · exact Or.inr (enter_mem_entered.mpr (Or.inl hij))
    · rcases h.successors i hi j hij hj with hseen | henter
      · exact Or.inl (List.mem_cons_of_mem _ hseen)
      · rcases enter_mem_cons_enter.mp henter with rfl | henter
        · exact Or.inl List.mem_cons_self
        · exact Or.inr (enter_mem_entered.mpr (Or.inr henter))

/-- Leaving a task moves it to those left. -/
theorem Visiting.leave {index : Nat} {rest : List Visit} {seen left : List Nat}
    (h : graph.Visiting (.leave index :: rest) seen left) :
    graph.Visiting rest seen (index :: left) where
  left_seen i hi := by
    rcases List.mem_cons.mp hi with rfl | hi
    · exact h.leave_seen i List.mem_cons_self
    · exact h.left_seen i hi
  leave_seen i hi := h.leave_seen i (List.mem_cons_of_mem _ hi)
  seen_left i hi := by
    rcases h.seen_left i hi with hleft | hleave
    · exact Or.inl (List.mem_cons_of_mem _ hleft)
    · rcases leave_mem_cons_leave.mp hleave with rfl | hleave
      · exact Or.inl List.mem_cons_self
      · exact Or.inr hleave
  successors i hi j hij hj := by
    rcases h.successors i hi j hij hj with hseen | henter
    · exact Or.inl hseen
    · exact Or.inr (by simpa using henter)

/-- A task that has been seen, or is none, need not be entered. -/
theorem Visiting.skip {index : Nat} {rest : List Visit} {seen left : List Nat}
    (h : graph.Visiting (.enter index :: rest) seen left)
    (hskip : index ∈ seen ∨ graph.size ≤ index) : graph.Visiting rest seen left where
  left_seen := h.left_seen
  leave_seen i hi := h.leave_seen i (List.mem_cons_of_mem _ hi)
  seen_left i hi := by
    rcases h.seen_left i hi with hleft | hleave
    · exact Or.inl hleft
    · exact Or.inr (by simpa using hleave)
  successors i hi j hij hj := by
    rcases h.successors i hi j hij hj with hseen | henter
    · exact Or.inl hseen
    · rcases enter_mem_cons_enter.mp henter with rfl | henter
      · rcases hskip with hseen | hsize
        · exact Or.inl hseen
        · omega
      · exact Or.inr henter

/-- **A walk leaves all that it reaches**: what has been seen and what is to be entered, and with
any task its successors. -/
theorem walk_closed (visits : List Visit) (seen left : List Nat)
    (h : graph.Visiting visits seen left) :
    (∀ i ∈ seen, i ∈ graph.walk visits seen left) ∧
      (∀ i, Visit.enter i ∈ visits → i < graph.size → i ∈ graph.walk visits seen left) ∧
      (∀ i ∈ graph.walk visits seen left, ∀ j, graph.Edge i j → j < graph.size →
        j ∈ graph.walk visits seen left) := by
  induction visits, seen, left using walk.induct graph with
  | case1 seen left =>
      rw [walk]
      -- nothing is to be visited any more, so what has been seen is what is left
      have hseen : ∀ i ∈ seen, i ∈ left.reverse := by
        intro i hi
        rcases h.seen_left i hi with hleft | hleave
        · exact List.mem_reverse.mpr hleft
        · simp at hleave
      refine ⟨hseen, by simp, ?_⟩
      intro i hi j hij hj
      rcases h.successors i (h.left_seen i (List.mem_reverse.mp hi)) j hij hj with hj | hj
      · exact hseen j hj
      · simp at hj
  | case2 seen left index rest ih =>
      rw [walk]
      obtain ⟨hseen, henter, hclosed⟩ := ih h.leave
      exact ⟨hseen, fun i hi => henter i (by simpa using hi), hclosed⟩
  | case3 seen left index rest hskip ih =>
      rw [walk, dif_pos hskip]
      obtain ⟨hseen, henter, hclosed⟩ := ih (h.skip hskip)
      refine ⟨hseen, ?_, hclosed⟩
      intro i hi hsize
      rcases enter_mem_cons_enter.mp hi with rfl | hi
      · rcases hskip with hskip | hskip
        · exact hseen i hskip
        · omega
      · exact henter i hi hsize
  | case4 seen left index rest hskip hlt ih =>
      rw [walk, dif_neg hskip]
      obtain ⟨hseen, henter, hclosed⟩ := ih h.enter
      refine ⟨fun i hi => hseen i (List.mem_cons_of_mem _ hi), ?_, hclosed⟩
      intro i hi hsize
      rcases enter_mem_cons_enter.mp hi with rfl | hi
      · exact hseen i List.mem_cons_self
      · exact henter i (enter_mem_entered.mpr (Or.inr hi)) hsize

theorem Visiting.start (graph : TaskGraph) (starts : List Nat) :
    graph.Visiting (starts.map .enter) [] [] where
  left_seen := by simp
  leave_seen := by simp
  seen_left := by simp
  successors := by simp

/-! ## Reaching -/

theorem mem_finishOrder {i : Nat} (hi : i < graph.size) : i ∈ graph.finishOrder := by
  obtain ⟨-, henter, -⟩ := walk_closed _ _ _ (Visiting.start graph graph.indices)
  exact henter i (List.mem_map.mpr ⟨i, List.mem_range.mpr hi, rfl⟩) hi

theorem mem_reachable (hwired : graph.Wired) {start i : Nat} (hstart : start < graph.size) :
    i ∈ graph.reachable [start] ↔ ReflTransGen graph.Edge start i := by
  constructor
  · refine walk_subset (fun _ _ => ReflTransGen.tail) _ _ _ ?_ ?_ ?_ i
    · simp
    · intro j hj
      simp only [List.map_cons, List.map_nil, List.mem_singleton, Visit.enter.injEq] at hj
      rw [hj]
    · simp
  · intro h
    -- the walk has its start and is closed under edges, so it has all that is reached
    obtain ⟨-, henter, hclosed⟩ := walk_closed _ _ _ (Visiting.start graph [start])
    induction h with
    | refl => exact henter start (by simp) hstart
    | tail _ hedge ih => exact hclosed _ ih _ hedge (hwired _ _ hedge).2

/-- The component of a task has the tasks that it reaches and that reach it. -/
theorem mem_component (hwired : graph.Wired) {i j : Nat} (hi : i < graph.size) :
    j ∈ graph.component i ↔ ReflTransGen graph.Edge i j ∧ ReflTransGen graph.Edge j i := by
  simp only [component, List.mem_filter, indices, List.mem_range, Bool.and_eq_true,
    List.contains_iff_mem]
  rw [mem_reachable hwired hi, mem_reachable hwired.reversed hi, reflTransGen_reversed]
  -- the component is filtered from the tasks of the graph, but an edge leads to those only
  refine and_iff_right_of_imp ?_
  rintro ⟨hij, -⟩
  rcases hij.cases_tail with rfl | ⟨k, -, hedge⟩
  · exact hi
  · exact (hwired _ _ hedge).2

end Recipe.TaskGraph
