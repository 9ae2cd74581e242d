import Recipe.Proofs.TaskGraph.Construction
import Recipe.Proofs.TaskGraph.Release

/-!
# Counting down needs

When a task is run, one is taken from the degree of each task that needs it, and nothing checks that
there is one left. There always is, in whatever order those tasks are released: a degree is the
number of edges from tasks that have not been run, and each of these is run once
(`Tracks.countsDown`).

In a graph without cycles the task that a step takes is the one at its place in the order of release
(`Orderable.head?_ready_progress`). So each task is taken from the ready ones once, the run stops
when all have been, and no degree is left over. This holds of every graph that calls make, also if
they fail or leave edges out (`countedDown_after`).
-/

set_option autoImplicit false

namespace Recipe.TaskGraph

variable {graph : TaskGraph}

/-! ## Releasing tasks with a need left -/

namespace Schedule

variable {schedule : Schedule} {i : Nat} {rest tasks : List Nat}

/-- The state when a task has been taken from the ready ones, which leaves the rest of them, and
those that need it have not been released yet. -/
def taken (schedule : Schedule) (i : Nat) (rest : List Nat) : Schedule :=
  { schedule with ready := rest, done := i :: schedule.done }

/-- Tasks are released in turn, and each has a need left when it is: nothing is taken from a degree
of zero. -/
def CountsDown (schedule : Schedule) : List Nat → Prop
  | [] => True
  | i :: rest =>
      (∃ degree, schedule.degrees[i]? = some (degree + 1)) ∧ (schedule.release i).CountsDown rest

/-- Tasks have needs left if none is released more often than its degree says. -/
theorem countsDown_of_count
    (h : ∀ k ∈ tasks, ∃ degree, schedule.degrees[k]? = some degree ∧ tasks.count k ≤ degree) :
    schedule.CountsDown tasks := by
  induction tasks generalizing schedule with
  | nil => trivial
  | cons i rest ih =>
      obtain ⟨degree, hdegree, hcount⟩ := h i List.mem_cons_self
      rw [List.count_cons_self] at hcount
      have hleft : degree = degree - 1 + 1 := by omega
      refine ⟨⟨degree - 1, hdegree.trans (congrArg some hleft)⟩, ih fun k hk => ?_⟩
      -- the first task is released once less often by the others, and its degree is one less
      obtain ⟨degree, hdegree, hcount⟩ := h k (List.mem_cons_of_mem i hk)
      rw [degrees_release, hdegree]
      refine ⟨_, rfl, ?_⟩
      by_cases hki : k = i
      · simp [hki] at hcount ⊢
        omega
      · simpa [hki, Ne.symm hki] using hcount

/-- **When a task is run, each task that needs it has a need left.** -/
theorem Tracks.countsDown (h : Tracks graph schedule) (hwired : graph.Wired)
    (hready : schedule.ready = i :: rest) (htasks : tasks.Perm (graph.successors i)) :
    (schedule.taken i rest).CountsDown tasks := by
  have hi : graph.Ready schedule.done i := by
    rw [← h.ready, hready]
    exact List.mem_cons_self
  refine countsDown_of_count fun k hk => ?_
  have hedge : graph.Edge i k := mem_successors.mp (htasks.subset hk)
  have hdegree : schedule.degrees[k]? = some (graph.needsLeft schedule.done k) :=
    (h.degrees k _).mpr ⟨(hwired i k hedge).2, rfl⟩
  refine ⟨_, hdegree, ?_⟩
  calc tasks.count k
    _ = (graph.successors i).count k := htasks.count_eq k
    _ ≤ graph.needsLeft (i :: schedule.done) k + (graph.successors i).count k :=
        Nat.le_add_left _ _
    _ = graph.needsLeft schedule.done k := (needsLeft_cons hi.new k).symm

/-- Tasks may be released in any order. -/
theorem foldl_release_perm {others : List Nat} (hsorted : schedule.ready.Pairwise (· < ·))
    (h : tasks.Perm others) : tasks.foldl release schedule = others.foldl release schedule := by
  have hdegrees : (tasks.foldl release schedule).degrees =
      (others.foldl release schedule).degrees := by
    refine List.ext_getElem? fun k => ?_
    simp only [degrees_foldl_release, h.count_eq]
  -- an ascending list is known by its members
  have hready : (tasks.foldl release schedule).ready = (others.foldl release schedule).ready := by
    refine List.Pairwise.eq_of_mem_iff (sorted_foldl_release hsorted tasks)
      (sorted_foldl_release hsorted others) fun k => ?_
    rw [mem_ready_foldl_release, mem_ready_foldl_release, h.count_eq, h.mem_iff]
  have hdone : (tasks.foldl release schedule).done = (others.foldl release schedule).done := by
    rw [done_foldl_release, done_foldl_release]
  calc tasks.foldl release schedule
    _ = ⟨(tasks.foldl release schedule).degrees, (tasks.foldl release schedule).ready,
          (tasks.foldl release schedule).done⟩ := rfl
    _ = others.foldl release schedule := by rw [hdegrees, hready, hdone]

/-- So a step may release the tasks that need the one it takes in any order. -/
theorem Tracks.step?_eq_foldl (h : Tracks graph schedule) (hready : schedule.ready = i :: rest)
    (htasks : tasks.Perm (graph.successors i)) :
    schedule.step? graph = some (tasks.foldl release (schedule.taken i rest)) := by
  have hrest : rest.Pairwise (· < ·) := by
    have hsorted := h.sorted
    rw [hready] at hsorted
    exact (List.pairwise_cons.mp hsorted).2
  have hsame : tasks.foldl release (schedule.taken i rest) =
      (graph.successors i).foldl release (schedule.taken i rest) := foldl_release_perm hrest htasks
  exact step?_eq_some.mpr ⟨i, rest, hready, hsame⟩

theorem step?_eq_none : schedule.step? graph = none ↔ schedule.ready = [] := by
  unfold step?
  cases schedule.ready with
  | nil => simp
  | cons i rest => simp

/-! ## Runs of more steps -/

theorem run_succ (steps : Nat) (schedule : Schedule) :
    run graph (steps + 1) schedule =
      ((run graph steps schedule).step? graph).getD (run graph steps schedule) := by
  induction steps generalizing schedule with
  | zero =>
      rw [run, run]
      cases schedule.step? graph <;> rfl
  | succ steps ih =>
      rw [run, run]
      cases hstep : schedule.step? graph with
      | none => simp [hstep]
      | some next => exact ih next

theorem run_add (first later : Nat) (schedule : Schedule) :
    run graph (first + later) schedule = run graph later (run graph first schedule) := by
  induction later with
  | zero => rfl
  | succ later ih => rw [← Nat.add_assoc, run_succ, run_succ, ih]

end Schedule

/-! ## From the start -/

/-- The state after a number of steps from the start. -/
def progress (graph : TaskGraph) (steps : Nat) : Schedule :=
  Schedule.run graph steps (Schedule.start graph)

theorem tracks_progress (graph : TaskGraph) (steps : Nat) :
    (graph.progress steps).Tracks graph :=
  Schedule.tracks_start.run steps

/-- What is run in some steps is run first in more. -/
theorem exists_done_progress {first steps : Nat} (h : first ≤ steps) :
    ∃ later, (graph.progress steps).done.reverse =
      (graph.progress first).done.reverse ++ later := by
  obtain ⟨more, rfl⟩ := Nat.exists_eq_add_of_le h
  have hrun : graph.progress (first + more) = Schedule.run graph more (graph.progress first) :=
    Schedule.run_add first more _
  rw [hrun]
  exact (graph.tracks_progress first).exists_done_run more

namespace Orderable

variable {steps : Nat}

theorem length_done_progress (h : graph.Orderable) (hsteps : steps ≤ graph.size) :
    (graph.progress steps).done.length = steps := by
  have hlength : (graph.progress steps).done.length = 0 + steps :=
    Schedule.tracks_start.length_run h.wired h.acyclic (by simpa [Schedule.start] using hsteps)
  rw [hlength, Nat.zero_add]

/-- No task is ready after as many steps as there are tasks. -/
theorem ready_progress_eq_nil (h : graph.Orderable) (hsteps : graph.size ≤ steps) :
    (graph.progress steps).ready = [] := by
  rw [List.eq_nil_iff_forall_not_mem]
  intro i hi
  have hready : graph.Ready (graph.progress steps).done i :=
    ((graph.tracks_progress steps).ready i).mp hi
  obtain ⟨later, hlater⟩ : ∃ later, (graph.progress steps).done.reverse =
      graph.releaseOrder ++ later := exists_done_progress hsteps
  have hdone : i ∈ (graph.progress steps).done.reverse := by
    rw [hlater]
    exact List.mem_append_left later (h.mem_releaseOrder.mpr hready.lt)
  exact hready.new (List.mem_reverse.mp hdone)

/-- Each step before that takes a task from the ready ones. -/
theorem exists_ready_progress (h : graph.Orderable) (hsteps : steps < graph.size) :
    ∃ i rest, (graph.progress steps).ready = i :: rest ∧
      (graph.progress (steps + 1)).done = i :: (graph.progress steps).done := by
  have hnext : graph.progress (steps + 1) =
      ((graph.progress steps).step? graph).getD (graph.progress steps) :=
    Schedule.run_succ steps _
  cases hstep : (graph.progress steps).step? graph with
  | none =>
      rw [hstep, Option.getD_none] at hnext
      have hlength := h.length_done_progress (Nat.succ_le_of_lt hsteps)
      rw [hnext, h.length_done_progress hsteps.le] at hlength
      omega
  | some next =>
      rw [hstep, Option.getD_some] at hnext
      obtain ⟨i, rest, hready, rfl⟩ := Schedule.step?_eq_some.mp hstep
      refine ⟨i, rest, hready, ?_⟩
      rw [hnext, Schedule.done_foldl_release]

/-- **A step takes the task at its place in the order of release**, and nothing if there is none. -/
theorem head?_ready_progress (h : graph.Orderable) (steps : Nat) :
    (graph.progress steps).ready.head? = graph.releaseOrder[steps]? := by
  by_cases hsteps : steps < graph.size
  · obtain ⟨i, rest, hready, hdone⟩ := h.exists_ready_progress hsteps
    obtain ⟨later, hlater⟩ : ∃ later, graph.releaseOrder =
        (graph.progress (steps + 1)).done.reverse ++ later :=
      exists_done_progress (Nat.succ_le_of_lt hsteps)
    have horder : graph.releaseOrder = (graph.progress steps).done.reverse ++ i :: later := by
      calc graph.releaseOrder
        _ = (graph.progress (steps + 1)).done.reverse ++ later := hlater
        _ = (graph.progress steps).done.reverse ++ i :: later := by
            rw [hdone, List.reverse_cons, List.append_assoc, List.singleton_append]
    have hplace : (graph.progress steps).done.reverse.length = steps := by
      rw [List.length_reverse, h.length_done_progress hsteps.le]
    rw [hready, horder, List.getElem?_append_right hplace.le, hplace, Nat.sub_self]
    rfl
  · have hle : graph.size ≤ steps := Nat.not_lt.mp hsteps
    rw [h.ready_progress_eq_nil hle, List.getElem?_eq_none (h.length_releaseOrder.trans_le hle)]
    rfl

/-- Each task is taken by one step. -/
theorem existsUnique_head?_ready (h : graph.Orderable) {i : Nat} (hi : i < graph.size) :
    ∃! steps, (graph.progress steps).ready.head? = some i := by
  obtain ⟨steps, hsteps⟩ := List.mem_iff_getElem?.mp (h.mem_releaseOrder.mpr hi)
  refine ⟨steps, (h.head?_ready_progress steps).trans hsteps, ?_⟩
  intro other hother
  have hplace : graph.releaseOrder[other]? = some i :=
    (h.head?_ready_progress other).symm.trans hother
  have hlt : other < graph.releaseOrder.length := (List.getElem?_eq_some_iff.mp hplace).1
  exact (List.getElem?_inj hlt h.nodup_releaseOrder).mp (hplace.trans hsteps.symm)

theorem step?_progress_eq_none (h : graph.Orderable) :
    (graph.progress steps).step? graph = none ↔ graph.size ≤ steps := by
  rw [Schedule.step?_eq_none, ← List.head?_eq_none_iff, h.head?_ready_progress,
    List.getElem?_eq_none_iff, h.length_releaseOrder]

theorem degrees_progress_size (h : graph.Orderable) :
    (graph.progress graph.size).degrees = List.replicate graph.size 0 := by
  have htracks := graph.tracks_progress graph.size
  refine List.ext_getElem? fun i => Option.ext fun degree => ?_
  have hzero : graph.needsLeft (graph.progress graph.size).done i = 0 := by
    rw [needsLeft_eq_zero]
    intro j hj
    have hmem : j ∈ graph.releaseOrder := h.mem_releaseOrder.mpr (h.wired j i hj).1
    exact List.mem_reverse.mp hmem
  rw [htracks.degrees, hzero, List.getElem?_replicate]
  by_cases hi : i < graph.size
  · simp [hi, eq_comm]
  · simp [hi]

end Orderable

/-! ## Graphs whose needs are counted down -/

/-- **What counting down needs must come to.** -/
structure CountedDown (graph : TaskGraph) : Prop where
  /-- A step takes the first of the ready tasks and releases those that need it, in any order, and
  each of these has a need left. -/
  step : ∀ steps i rest, (graph.progress steps).ready = i :: rest →
    ∀ tasks, tasks.Perm (graph.successors i) →
      ((graph.progress steps).taken i rest).CountsDown tasks ∧
        (graph.progress steps).step? graph =
          some (tasks.foldl Schedule.release ((graph.progress steps).taken i rest))
  /-- Each task is the first of the ready ones once, and so it is taken from them once. -/
  once : ∀ i < graph.size, ∃! steps, (graph.progress steps).ready.head? = some i
  /-- There is a step as long as there are tasks, and none after that. -/
  stops : ∀ steps, (graph.progress steps).step? graph = none ↔ graph.size ≤ steps
  /-- In the end all needs have been counted. -/
  spent : (graph.progress graph.size).degrees = List.replicate graph.size 0
  /-- The order has all tasks, each once. -/
  complete : ∃ order, graph.order = .ok order ∧ order.Perm graph.nodes

/-- **Without a cycle the needs of all tasks are counted down.** -/
theorem countedDown (hwired : graph.Wired) (hcycle : graph.findCycle? = none) :
    graph.CountedDown := by
  have h : graph.Orderable := ⟨hwired, (findCycle?_eq_none hwired).mp hcycle⟩
  refine
    { step := ?_
      once := fun _ hi => h.existsUnique_head?_ready hi
      stops := fun _ => h.step?_progress_eq_none
      spent := h.degrees_progress_size
      complete := ⟨_, order_of_findCycle?_eq_none hcycle, ?_⟩ }
  · intro steps i rest hready tasks htasks
    have htracks := graph.tracks_progress steps
    exact ⟨htracks.countsDown hwired hready htasks, htracks.step?_eq_foldl hready htasks⟩
  · have hnodes := (releaseOrder_perm hwired h.acyclic).filterMap (graph.nodes[·]?)
    rwa [filterMap_indices] at hnodes

/-- The edges of a sound draft are between its tasks, also while those of later ones are left out. -/
theorem Draft.Sound.graph_wired {draft : Draft} (h : draft.Sound) : draft.graph.Wired := by
  obtain ⟨earlier, later, hnodes, hearlier, hedges⟩ := h.wired
  have hsize : (wiring earlier).size ≤ draft.graph.size := by
    rw [size, size, hnodes, List.length_append]
    exact Nat.le_add_right _ _
  intro i j hij
  rw [Edge, hedges] at hij
  obtain ⟨hi, hj⟩ := wired_wiring hearlier i j hij
  exact ⟨hi.trans_le hsize, hj.trans_le hsize⟩

/-- **Needs are counted down in every graph that calls make**, if no cycle is found in it. Nothing
is taken from a degree of zero, each task is taken from the ready ones once, there is no step after
that, and all tasks are put in order. Calls may have failed, and the last tasks may be without
edges. -/
theorem countedDown_after (calls : List Call)
    (h : (({} : Draft).after calls).graph.findCycle? = none) :
    (({} : Draft).after calls).graph.CountedDown := by
  obtain ⟨hsound, -⟩ := Draft.Sound.empty.after calls
  exact countedDown hsound.graph_wired h

/-- Calls that add edges again and again, and fail for a name and for needs in the end, so that the
last task stays without edges. -/
def dawnCalls : List Call :=
  [.add ⟨"octree", []⟩, .wire, .add ⟨"ray-trace", ["sky", "octree", "sky"]⟩, .wire,
    .add ⟨"sky", ["octree"]⟩, .wire, .wire, .add ⟨"sky", []⟩,
    .add ⟨"view", ["sensors", "ray-trace"]⟩, .wire]

/-- The graph that they leave behind. -/
def dawnGraph : TaskGraph where
  nodes := [⟨"octree", []⟩, ⟨"ray-trace", ["sky", "octree", "sky"]⟩, ⟨"sky", ["octree"]⟩,
    ⟨"view", ["sensors", "ray-trace"]⟩]
  edges := [(2, 1), (0, 1), (0, 2)]

theorem dawnCalls_countedDown :
    (({} : Draft).after dawnCalls).graph = dawnGraph ∧
    (({} : Draft).after dawnCalls).graph.findCycle? = none ∧
    (({} : Draft).after dawnCalls).graph.CountedDown := by
  have hgraph : (({} : Draft).after dawnCalls).graph = dawnGraph := by decide
  have hwired := (Draft.Sound.empty.after dawnCalls).1.graph_wired
  have hcycle : (({} : Draft).after dawnCalls).graph.findCycle? = none := by
    rw [findCycle?_eq_none hwired, hgraph]
    exact acyclic_of_lt [0, 2, 1, 3].idxOf (by decide)
  exact ⟨hgraph, hcycle, countedDown_after dawnCalls hcycle⟩

end Recipe.TaskGraph
