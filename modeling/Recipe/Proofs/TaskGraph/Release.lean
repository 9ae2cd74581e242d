import Recipe.Proofs.TaskGraph.Cycle
import Recipe.TaskGraph.Order
import Mathlib.Data.List.Perm.Subperm
import Mathlib.Order.WellFoundedSet

/-!
# Releasing tasks

A schedule keeps track of a graph: the degree of a task is the number of edges to it from tasks that
have not been run, the ready tasks are those with no such edges, earliest first, and the tasks that
have been run could be run in their order. Each step keeps this (`Tracks.step`), and so does each
run (`Tracks.run`). A schedule of a graph without cycles that has not run all tasks has a ready one,
so that a run of as many steps as there are tasks runs them all (`length_run`).
-/

set_option autoImplicit false

namespace Recipe.TaskGraph

open Relation

variable {graph : TaskGraph}

/-! ## Comparing orders -/

/-- Of two lists of positions the first is the second, or has the earlier task at the first place
where they differ. -/
def LexLE (xs ys : List Nat) : Prop := xs = ys ∨ List.Lex (· < ·) xs ys

theorem lexLE_cons {xs ys : List Nat} (i : Nat) (h : LexLE xs ys) : LexLE (i :: xs) (i :: ys) := by
  rcases h with rfl | h
  · exact Or.inl rfl
  · exact Or.inr (.cons h)

theorem lexLE_of_lt {xs ys : List Nat} {i j : Nat} (h : i < j) : LexLE (i :: xs) (j :: ys) :=
  Or.inr (.rel h)

theorem LexLE.antisymm {xs ys : List Nat} (h : LexLE xs ys) (h' : LexLE ys xs) : xs = ys := by
  rcases h with rfl | h
  · rfl
  · rcases h' with rfl | h'
    · rfl
    · exact (List.lex_asymm (fun hlt => lt_asymm hlt) h h').elim

/-- An ascending list is the least of its permutations. -/
theorem lexLE_of_perm {xs ys : List Nat} (hsorted : xs.Pairwise (· < ·)) (hperm : ys.Perm xs) :
    LexLE xs ys := by
  induction xs generalizing ys with
  | nil => exact Or.inl hperm.eq_nil.symm
  | cons x rest ih =>
      obtain ⟨hx, hrest⟩ := List.pairwise_cons.mp hsorted
      cases ys with
      | nil => exact (List.cons_ne_nil _ _ hperm.symm.eq_nil).elim
      | cons y others =>
          rcases List.mem_cons.mp (hperm.subset List.mem_cons_self) with rfl | hy
          · exact lexLE_cons y (ih hrest hperm.cons_inv)
          · exact lexLE_of_lt (hx y hy)

/-! ## Orders in which tasks can be run -/

/-- A task that can be run after some others: it is new, and all that it needs is among them. -/
structure Ready (graph : TaskGraph) (before : List Nat) (i : Nat) : Prop where
  lt : i < graph.size
  new : i ∉ before
  needs : ∀ j, graph.Edge j i → j ∈ before

/-- Tasks that can be run in turn after some others, which are given last first. -/
inductive Runnable (graph : TaskGraph) : List Nat → List Nat → Prop
  | nil (before : List Nat) : Runnable graph before []
  | cons {before : List Nat} {i : Nat} {rest : List Nat} (first : graph.Ready before i)
      (others : Runnable graph (i :: before) rest) : Runnable graph before (i :: rest)

namespace Runnable

variable {before order : List Nat}

theorem snoc (h : graph.Runnable before order) {i : Nat}
    (hready : graph.Ready (order.reverse ++ before) i) :
    graph.Runnable before (order ++ [i]) := by
  induction h with
  | nil before => exact .cons (by simpa using hready) (.nil _)
  | cons first others ih => exact .cons first (ih (by simpa using hready))

theorem nodup (h : graph.Runnable before order) :
    order.Nodup ∧ ∀ i ∈ order, i < graph.size ∧ i ∉ before := by
  induction h with
  | nil before => simp
  | @cons before i rest first others ih =>
      obtain ⟨hnodup, hrest⟩ := ih
      refine ⟨List.nodup_cons.mpr ⟨?_, hnodup⟩, ?_⟩
      · intro hi
        exact (hrest i hi).2 List.mem_cons_self
      · intro j hj
        rcases List.mem_cons.mp hj with rfl | hj
        · exact ⟨first.lt, first.new⟩
        · exact ⟨(hrest j hj).1, fun hmem => (hrest j hj).2 (List.mem_cons_of_mem _ hmem)⟩

theorem needs (h : graph.Runnable before order) {first rest : List Nat} {i : Nat}
    (horder : order = first ++ i :: rest) {j : Nat} (hij : graph.Edge j i) :
    j ∈ first ∨ j ∈ before := by
  induction h generalizing first with
  | nil before => simp at horder
  | @cons before k tail hready others ih =>
      cases first with
      | nil =>
          obtain ⟨rfl, rfl⟩ := List.cons.inj horder
          exact Or.inr (hready.needs j hij)
      | cons head first =>
          obtain ⟨rfl, htail⟩ := List.cons.inj horder
          rcases ih htail with hj | hj
          · exact Or.inl (List.mem_cons_of_mem _ hj)
          · rcases List.mem_cons.mp hj with rfl | hj
            · exact Or.inl List.mem_cons_self
            · exact Or.inr hj

/-- Tasks that are new, are distinct, and come behind all that they need can be run in turn. -/
theorem of_needs (hnodup : order.Nodup) (hnew : ∀ i ∈ order, i < graph.size ∧ i ∉ before)
    (hneeds : ∀ first i rest, order = first ++ i :: rest → ∀ j, graph.Edge j i →
      j ∈ first ∨ j ∈ before) : graph.Runnable before order := by
  induction order generalizing before with
  | nil => exact .nil before
  | cons i rest ih =>
      obtain ⟨hi, hrest⟩ := List.nodup_cons.mp hnodup
      have hfirst := hnew i List.mem_cons_self
      refine .cons ⟨hfirst.1, hfirst.2, ?_⟩ (ih hrest ?_ ?_)
      · intro j hij
        exact (hneeds [] i rest rfl j hij).resolve_left List.not_mem_nil
      · intro j hj
        refine ⟨(hnew j (List.mem_cons_of_mem _ hj)).1, ?_⟩
        rintro hmem
        rcases List.mem_cons.mp hmem with rfl | hmem
        · exact hi hj
        · exact (hnew j (List.mem_cons_of_mem _ hj)).2 hmem
      -- what was in front of the rest is before it once the first task has been run
      · intro first k others hsplit j hjk
        rcases hneeds (i :: first) k others (by rw [hsplit]; rfl) j hjk with hj | hj
        · rcases List.mem_cons.mp hj with rfl | hj
          · exact Or.inr List.mem_cons_self
          · exact Or.inl hj
        · exact Or.inr (List.mem_cons_of_mem _ hj)

end Runnable

/-! ## Counting needs -/

/-- The number of edges to a task from tasks that have not been run. -/
def needsLeft (graph : TaskGraph) (done : List Nat) (i : Nat) : Nat :=
  graph.edges.countP fun edge => edge.2 = i ∧ edge.1 ∉ done

theorem needsLeft_eq_zero {done : List Nat} {i : Nat} :
    graph.needsLeft done i = 0 ↔ ∀ j, graph.Edge j i → j ∈ done := by
  simp only [needsLeft, List.countP_eq_zero, decide_eq_true_eq, not_and, not_not, Prod.forall]
  constructor
  · intro h j hij
    exact h j i hij rfl
  · rintro h j k hjk rfl
    exact h j hjk

theorem needsLeft_nil (i : Nat) : graph.needsLeft [] i = graph.degree i := by
  simp [needsLeft, degree, beq_eq_decide]

theorem count_successors (i j : Nat) :
    (graph.successors i).count j = graph.edges.count (i, j) := by
  rw [successors]
  induction graph.edges with
  | nil => rfl
  | cons edge rest ih =>
      obtain ⟨a, b⟩ := edge
      by_cases ha : a = i
      · simp [ha, List.count_cons, ih]
      · simp [ha, ih]

/-- A task that is run leaves each other as many needs fewer as there are edges between them. -/
theorem needsLeft_cons {done : List Nat} {i : Nat} (hi : i ∉ done) (j : Nat) :
    graph.needsLeft done j = graph.needsLeft (i :: done) j + (graph.successors i).count j := by
  rw [count_successors, needsLeft, needsLeft]
  induction graph.edges with
  | nil => rfl
  | cons edge rest ih =>
      obtain ⟨a, b⟩ := edge
      simp only [List.countP_cons, List.count_cons, ih]
      by_cases hb : b = j
      · by_cases ha : a = i
        · subst ha hb
          simp [hi]
          omega
        · simp [ha, hb]
          omega
      · simp [hb]

/-! ## Releasing -/

namespace Schedule

variable {schedule : Schedule}

theorem mem_insertAscending {i j : Nat} {ready : List Nat} :
    j ∈ insertAscending i ready ↔ j = i ∨ j ∈ ready := by
  induction ready with
  | nil => simp [insertAscending]
  | cons k rest ih =>
      rw [insertAscending]
      split
      · simp
      · split
        · next heq => simp [heq]
        · rw [List.mem_cons, ih, List.mem_cons]
          tauto

theorem sorted_insertAscending {i : Nat} {ready : List Nat} (h : ready.Pairwise (· < ·)) :
    (insertAscending i ready).Pairwise (· < ·) := by
  induction ready with
  | nil => simp [insertAscending]
  | cons k rest ih =>
      obtain ⟨hk, hrest⟩ := List.pairwise_cons.mp h
      rw [insertAscending]
      split
      · next hlt =>
          refine List.pairwise_cons.mpr ⟨?_, h⟩
          intro j hj
          rcases List.mem_cons.mp hj with rfl | hj
          · exact hlt
          · exact lt_trans hlt (hk j hj)
      · next hle =>
          split
          · exact h
          · next hne =>
              refine List.pairwise_cons.mpr ⟨?_, ih hrest⟩
              intro j hj
              rcases mem_insertAscending.mp hj with rfl | hj
              · omega
              · exact hk j hj

theorem degrees_release (i k : Nat) :
    (schedule.release i).degrees[k]? =
      schedule.degrees[k]?.map fun degree => if k = i then degree - 1 else degree := by
  unfold release
  cases hdegree : schedule.degrees[i]? with
  | none =>
      by_cases hk : k = i
      · simp [hk, hdegree]
      · simp [hk]
  | some degree =>
      obtain ⟨hlt, -⟩ := List.getElem?_eq_some_iff.mp hdegree
      by_cases hk : k = i
      · subst hk
        rw [hdegree]
        simp [hlt]
      · simp [hk, Ne.symm hk]

/-- Releasing a task makes it ready if nothing is left of its degree. -/
theorem mem_ready_release {i k : Nat} :
    k ∈ (schedule.release i).ready ↔
      k ∈ schedule.ready ∨ k = i ∧ ∃ degree, schedule.degrees[k]? = some degree ∧ degree ≤ 1 := by
  unfold release
  cases hdegree : schedule.degrees[i]? with
  | none =>
      refine (or_iff_left ?_).symm
      rintro ⟨rfl, degree, hsome, -⟩
      rw [hdegree] at hsome
      cases hsome
  | some degree =>
      simp only
      split
      · next hzero =>
          rw [mem_insertAscending, or_comm]
          refine or_congr_right (iff_self_and.mpr ?_)
          rintro rfl
          exact ⟨degree, hdegree, by omega⟩
      · next hpos =>
          refine (or_iff_left ?_).symm
          rintro ⟨rfl, other, hother, hle⟩
          rw [hdegree, Option.some.injEq] at hother
          omega

theorem sorted_release (h : schedule.ready.Pairwise (· < ·)) (i : Nat) :
    (schedule.release i).ready.Pairwise (· < ·) := by
  unfold release
  split
  · exact h
  · simp only
    split
    · exact sorted_insertAscending h
    · exact h

theorem done_release (i : Nat) : (schedule.release i).done = schedule.done := by
  unfold release
  split <;> rfl

/-! ### Releasing several tasks -/

theorem done_foldl_release (tasks : List Nat) :
    (tasks.foldl release schedule).done = schedule.done := by
  induction tasks generalizing schedule with
  | nil => rfl
  | cons i rest ih => rw [List.foldl_cons, ih, done_release]

theorem sorted_foldl_release (h : schedule.ready.Pairwise (· < ·)) (tasks : List Nat) :
    (tasks.foldl release schedule).ready.Pairwise (· < ·) := by
  induction tasks generalizing schedule with
  | nil => exact h
  | cons i rest ih => exact ih (sorted_release h i)

theorem degrees_foldl_release (tasks : List Nat) (k : Nat) :
    (tasks.foldl release schedule).degrees[k]? =
      schedule.degrees[k]?.map fun degree => degree - tasks.count k := by
  induction tasks generalizing schedule with
  | nil => simp
  | cons i rest ih =>
      rw [List.foldl_cons, ih, degrees_release, Option.map_map]
      congr 1
      funext degree
      simp only [Function.comp_apply, List.count_cons, beq_iff_eq]
      by_cases hk : k = i
      · simp [hk]
        omega
      · simp [hk, Ne.symm hk]

theorem mem_ready_foldl_release {tasks : List Nat} {k : Nat} :
    k ∈ (tasks.foldl release schedule).ready ↔
      k ∈ schedule.ready ∨
        k ∈ tasks ∧ ∃ degree, schedule.degrees[k]? = some degree ∧ degree ≤ tasks.count k := by
  induction tasks generalizing schedule with
  | nil => simp
  | cons i rest ih =>
      rw [List.foldl_cons, ih, mem_ready_release, or_assoc]
      refine or_congr_right ?_
      rw [degrees_release]
      cases hdegree : schedule.degrees[k]? with
      | none => simp
      | some degree =>
          simp only [Option.map_some, Option.some.injEq, exists_eq_left', List.mem_cons]
          by_cases hk : k = i
          · subst hk
            by_cases hmem : k ∈ rest
            · have hpos : 0 < rest.count k := List.count_pos_iff.mpr hmem
              simp [hmem]
              omega
            · simp [hmem, List.count_eq_zero_of_not_mem hmem]
          · simp [hk, Ne.symm hk]

/-! ## Keeping track -/

/-- **The state of an ordering**: the degrees count the needs that are left, the ready tasks are
those that can be run next, earliest first, and those that have been run could be run in turn. -/
structure Tracks (graph : TaskGraph) (schedule : Schedule) : Prop where
  degrees : ∀ i degree, schedule.degrees[i]? = some degree ↔
    i < graph.size ∧ degree = graph.needsLeft schedule.done i
  ready : ∀ i, i ∈ schedule.ready ↔ graph.Ready schedule.done i
  sorted : schedule.ready.Pairwise (· < ·)
  done : graph.Runnable [] schedule.done.reverse

theorem tracks_start : Tracks graph (start graph) where
  degrees := by
    intro i degree
    simp only [start, indices, List.getElem?_map, needsLeft_nil]
    by_cases hi : i < graph.size
    · simp [hi, eq_comm]
    · simp [hi]
  ready := by
    intro i
    simp only [start, List.mem_filter, indices, List.mem_range, beq_iff_eq, ← needsLeft_nil,
      needsLeft_eq_zero]
    constructor
    · rintro ⟨hi, hneeds⟩
      exact ⟨hi, List.not_mem_nil, hneeds⟩
    · intro h
      exact ⟨h.lt, h.needs⟩
  sorted := List.Pairwise.filter _ List.pairwise_lt_range
  done := .nil []

theorem step?_eq_some {next : Schedule} :
    schedule.step? graph = some next ↔ ∃ i rest, schedule.ready = i :: rest ∧
      next = (graph.successors i).foldl release
        { schedule with ready := rest, done := i :: schedule.done } := by
  unfold step?
  cases schedule.ready with
  | nil => simp
  | cons i rest => simp [eq_comm]

namespace Tracks

variable {next : Schedule} {i : Nat} {rest : List Nat}

theorem closed (h : Tracks graph schedule) {j k : Nat} (hk : k ∈ schedule.done)
    (hjk : graph.Edge j k) : j ∈ schedule.done := by
  obtain ⟨first, others, hsplit⟩ := List.append_of_mem (List.mem_reverse.mpr hk)
  rcases h.done.needs hsplit hjk with hj | hj
  · refine List.mem_reverse.mp ?_
    rw [hsplit]
    exact List.mem_append_left _ hj
  · cases hj

/-- What can be run after one more task is what could be run before and what needed nothing but that
task any more. -/
theorem ready_cons (h : Tracks graph schedule) (hi : graph.Ready schedule.done i) {j : Nat} :
    graph.Ready (i :: schedule.done) j ↔
      (j ≠ i ∧ graph.Ready schedule.done j) ∨
        graph.Edge i j ∧ j < graph.size ∧ graph.needsLeft (i :: schedule.done) j = 0 := by
  rw [needsLeft_eq_zero]
  constructor
  · intro hj
    by_cases hedge : graph.Edge i j
    · exact Or.inr ⟨hedge, hj.lt, hj.needs⟩
    · refine Or.inl ⟨?_, hj.lt, fun hmem => hj.new (List.mem_cons_of_mem _ hmem), ?_⟩
      · rintro rfl
        exact hj.new List.mem_cons_self
      · intro k hk
        refine (List.mem_cons.mp (hj.needs k hk)).resolve_left ?_
        rintro rfl
        exact hedge hk
  · rintro (⟨hne, hj⟩ | ⟨hedge, hlt, hneeds⟩)
    · refine ⟨hj.lt, ?_, fun k hk => List.mem_cons_of_mem _ (hj.needs k hk)⟩
      intro hmem
      rcases List.mem_cons.mp hmem with heq | hmem
      · exact hne heq
      · exact hj.new hmem
    -- a task that needs this one cannot have been run before it, nor be this one
    · refine ⟨hlt, ?_, hneeds⟩
      intro hmem
      rcases List.mem_cons.mp hmem with rfl | hmem
      · exact hi.new (hi.needs _ hedge)
      · exact hi.new (h.closed hmem hedge)

/-- **Running the first of the ready tasks keeps track.** -/
theorem run_first (h : Tracks graph schedule) (hready : schedule.ready = i :: rest) :
    Tracks graph ((graph.successors i).foldl release
      { schedule with ready := rest, done := i :: schedule.done }) := by
  have hi : graph.Ready schedule.done i := by
    rw [← h.ready, hready]
    exact List.mem_cons_self
  have hsorted := h.sorted
  rw [hready, List.pairwise_cons] at hsorted
  have hrest : ∀ j, j ∈ rest ↔ j ≠ i ∧ graph.Ready schedule.done j := by
    intro j
    rw [← h.ready, hready, List.mem_cons]
    constructor
    · intro hj
      exact ⟨(hsorted.1 j hj).ne', Or.inr hj⟩
    · rintro ⟨hne, hj⟩
      exact hj.resolve_left hne
  refine
    { degrees := ?_
      ready := ?_
      sorted := sorted_foldl_release hsorted.2 _
      done := ?_ }
  · intro j degree
    rw [degrees_foldl_release, done_foldl_release]
    simp only [Option.map_eq_some_iff, h.degrees, needsLeft_cons hi.new j]
    constructor
    · rintro ⟨_, ⟨hj, rfl⟩, rfl⟩
      exact ⟨hj, Nat.add_sub_cancel _ _⟩
    · rintro ⟨hj, rfl⟩
      exact ⟨_, ⟨hj, rfl⟩, Nat.add_sub_cancel _ _⟩
  · intro j
    rw [mem_ready_foldl_release, done_foldl_release, h.ready_cons hi]
    refine or_congr (hrest j) ?_
    rw [mem_successors]
    simp only [h.degrees, needsLeft_cons hi.new j]
    refine and_congr_right fun _ => ?_
    constructor
    · rintro ⟨_, ⟨hj, rfl⟩, hle⟩
      exact ⟨hj, by omega⟩
    · rintro ⟨hj, hzero⟩
      exact ⟨_, ⟨hj, rfl⟩, by omega⟩
  · rw [done_foldl_release, List.reverse_cons]
    exact h.done.snoc (by simpa using hi)

/-- **A step keeps track**, and runs the earliest of the tasks that can be run next. -/
theorem step (h : Tracks graph schedule) (hstep : schedule.step? graph = some next) :
    Tracks graph next ∧ ∃ i, next.done = i :: schedule.done ∧
      ∀ j, graph.Ready schedule.done j → i ≤ j := by
  obtain ⟨i, rest, hready, rfl⟩ := step?_eq_some.mp hstep
  refine ⟨h.run_first hready, i, done_foldl_release _, ?_⟩
  intro j hj
  have hsorted := h.sorted
  rw [← h.ready, hready] at hj
  rw [hready, List.pairwise_cons] at hsorted
  rcases List.mem_cons.mp hj with rfl | hj
  · exact le_refl _
  · exact (hsorted.1 j hj).le

theorem exists_step (h : Tracks graph schedule) {j : Nat} (hj : graph.Ready schedule.done j) :
    ∃ next, schedule.step? graph = some next := by
  have hmem := (h.ready j).mpr hj
  obtain ⟨i, rest, hready⟩ := List.exists_cons_of_ne_nil (List.ne_nil_of_mem hmem)
  exact ⟨_, step?_eq_some.mpr ⟨i, rest, hready, rfl⟩⟩

/-- **A run keeps track.** -/
theorem run (h : Tracks graph schedule) (steps : Nat) :
    Tracks graph (run graph steps schedule) := by
  induction steps generalizing schedule with
  | zero => exact h
  | succ steps ih =>
      rw [Schedule.run]
      cases hstep : schedule.step? graph with
      | none => exact h
      | some next => exact ih (h.step hstep).1

end Tracks

end Schedule

/-! ## Running all tasks -/

/-- In a graph without cycles a task that has not been run can be run next, or one that reaches it. -/
theorem exists_ready (hwired : graph.Wired) (hacyclic : graph.Acyclic) {done : List Nat} {i : Nat}
    (hi : i < graph.size) (hnew : i ∉ done) :
    ∃ j, graph.Ready done j ∧ ReflTransGen graph.Edge j i := by
  have hirrefl : Std.Irrefl (TransGen graph.Edge) := ⟨hacyclic⟩
  have horder : IsStrictOrder Nat (TransGen graph.Edge) := { }
  have hfinite : {j | j < graph.size ∧ j ∉ done ∧ ReflTransGen graph.Edge j i}.Finite :=
    (Set.finite_lt_nat graph.size).subset fun _ hj => hj.1
  -- of the tasks that are left and reach it, one is not behind any other
  obtain ⟨⟨j, hlt, hleft, hreach⟩, -, hmin⟩ :=
    WellFounded.has_min (hfinite.wellFoundedOn (r := TransGen graph.Edge)) Set.univ
      ⟨⟨i, hi, hnew, ReflTransGen.refl⟩, trivial⟩
  refine ⟨j, ⟨hlt, hleft, ?_⟩, hreach⟩
  intro k hkj
  by_contra hk
  exact hmin ⟨k, (hwired k j hkj).1, hk, hreach.head hkj⟩ trivial (TransGen.single hkj)

namespace Schedule

variable {schedule : Schedule}

namespace Tracks

/-- What has been run stays so, with what is run later behind it. -/
theorem exists_done_run (h : Tracks graph schedule) (steps : Nat) :
    ∃ later, (Schedule.run graph steps schedule).done.reverse =
      schedule.done.reverse ++ later := by
  induction steps generalizing schedule with
  | zero => exact ⟨[], by simp [Schedule.run]⟩
  | succ steps ih =>
      rw [Schedule.run]
      cases hstep : schedule.step? graph with
      | none => exact ⟨[], by simp⟩
      | some next =>
          obtain ⟨hnext, i, hdone, -⟩ := h.step hstep
          obtain ⟨later, hlater⟩ := ih hnext
          exact ⟨i :: later, by simp [hlater, hdone]⟩

/-- **A run does not stop before all tasks have been run.** -/
theorem length_run (h : Tracks graph schedule) (hwired : graph.Wired) (hacyclic : graph.Acyclic)
    {steps : Nat} (hsteps : schedule.done.length + steps ≤ graph.size) :
    (Schedule.run graph steps schedule).done.length = schedule.done.length + steps := by
  induction steps generalizing schedule with
  | zero => rfl
  | succ steps ih =>
      have hleft : ¬ graph.indices ⊆ schedule.done := by
        intro hsub
        have hle := (List.subperm_of_subset List.nodup_range hsub).length_le
        rw [List.length_range] at hle
        omega
      obtain ⟨i, hi, hnew⟩ := not_forall₂.mp hleft
      obtain ⟨j, hj, -⟩ := exists_ready hwired hacyclic (List.mem_range.mp hi) hnew
      obtain ⟨next, hstep⟩ := h.exists_step hj
      obtain ⟨hnext, k, hdone, -⟩ := h.step hstep
      have hlength : next.done.length = schedule.done.length + 1 := by rw [hdone, List.length_cons]
      rw [Schedule.run, hstep]
      simp only
      rw [ih hnext (by omega), hlength]
      omega

/-- **What a run does next is least**: any other tasks that can be run in turn are no earlier. -/
theorem run_le (h : Tracks graph schedule) {other : List Nat}
    (hother : graph.Runnable schedule.done other) :
    ∃ later, (Schedule.run graph other.length schedule).done.reverse =
      schedule.done.reverse ++ later ∧ LexLE later other := by
  induction other generalizing schedule with
  | nil => exact ⟨[], by simp [Schedule.run], Or.inl rfl⟩
  | cons j rest ih =>
      cases hother with
      | cons first others =>
          obtain ⟨next, hstep⟩ := h.exists_step first
          obtain ⟨hnext, i, hdone, hleast⟩ := h.step hstep
          rw [List.length_cons, Schedule.run, hstep]
          simp only
          rcases (hleast j first).eq_or_lt with rfl | hlt
          -- the other list goes on with the task that is run, so the rest decides
          · obtain ⟨later, hlater, hle⟩ := ih hnext (by rwa [hdone])
            refine ⟨i :: later, ?_, lexLE_cons i hle⟩
            simp [hlater, hdone]
          -- it goes on with a later one, so it is later whatever follows
          · obtain ⟨later, hlater⟩ := hnext.exists_done_run rest.length
            refine ⟨i :: later, ?_, lexLE_of_lt hlt⟩
            simp [hlater, hdone]

end Tracks

end Schedule

/-! ## The order of release -/

theorem filterMap_indices (graph : TaskGraph) :
    graph.indices.filterMap (graph.nodes[·]?) = graph.nodes := by
  have hsome : graph.indices.map (graph.nodes[·]?) = graph.nodes.map some := by
    refine List.ext_getElem? fun i => ?_
    rw [List.getElem?_map, List.getElem?_map, indices, size]
    by_cases hi : i < graph.nodes.length
    · simp [hi]
    · simp [hi]
  calc graph.indices.filterMap (graph.nodes[·]?)
    _ = (graph.indices.map (graph.nodes[·]?)).filterMap id := by
        rw [List.filterMap_map]
        rfl
    _ = (graph.nodes.map some).filterMap id := by rw [hsome]
    _ = graph.nodes := by simp

theorem runnable_releaseOrder (graph : TaskGraph) : graph.Runnable [] graph.releaseOrder :=
  (Schedule.tracks_start.run graph.size).done

/-- **Without cycles all tasks are released**, each once. -/
theorem releaseOrder_perm (hwired : graph.Wired) (hacyclic : graph.Acyclic) :
    graph.releaseOrder.Perm graph.indices := by
  obtain ⟨hnodup, hmem⟩ := (runnable_releaseOrder graph).nodup
  have hlength : graph.releaseOrder.length = graph.size := by
    rw [releaseOrder, List.length_reverse,
      Schedule.tracks_start.length_run hwired hacyclic (by simp [Schedule.start])]
    simp [Schedule.start]
  refine (List.subperm_of_subset hnodup ?_).perm_of_length_le ?_
  · intro i hi
    exact List.mem_range.mpr (hmem i hi).1
  · rw [hlength, indices, List.length_range]

/-- A graph whose tasks can all be run. -/
structure Orderable (graph : TaskGraph) : Prop where
  wired : graph.Wired
  acyclic : graph.Acyclic

namespace Orderable

theorem mem_releaseOrder (h : graph.Orderable) {i : Nat} :
    i ∈ graph.releaseOrder ↔ i < graph.size := by
  rw [(releaseOrder_perm h.wired h.acyclic).mem_iff, indices, List.mem_range]

theorem nodup_releaseOrder (h : graph.Orderable) : graph.releaseOrder.Nodup :=
  (releaseOrder_perm h.wired h.acyclic).nodup_iff.mpr List.nodup_range

theorem length_releaseOrder (h : graph.Orderable) : graph.releaseOrder.length = graph.size := by
  rw [(releaseOrder_perm h.wired h.acyclic).length_eq, indices, List.length_range]

end Orderable

/-- **The order of release is the least** in which all tasks can be run. -/
theorem releaseOrder_le {other : List Nat} (hother : graph.Runnable [] other)
    (hlength : other.length = graph.size) : LexLE graph.releaseOrder other := by
  obtain ⟨later, hlater, hle⟩ := Schedule.tracks_start.run_le hother
  rw [hlength] at hlater
  rw [releaseOrder, hlater]
  exact hle

end Recipe.TaskGraph
