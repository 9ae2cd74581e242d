import Recipe.Proofs.TaskGraph.LongestChains

/-!
# Delays

What is run next is the earliest task that can be, so a task may have to wait for later ones. Its
delays tell how long: of the task and all that it comes after, the latest in the list of tasks, then
the latest of those that come after this one, and so on down to the task itself. Tasks are run in
the order of their delays, compared as lists (`place_lt_iff`).

So this is also how the tasks on a level are sorted, and they are in the order of the list exactly
if none of them has greater delays than a later one (`levels_by_delays`). Not all levels are
(`woodTasks_level_reversed`).
-/

set_option autoImplicit false

namespace Recipe.TaskGraph

open Relation

variable {graph : TaskGraph}

/-! ## Delays -/

/-- Those of some tasks that come after one of them. -/
def comingAfter (graph : TaskGraph) (i : Nat) (tasks : List Nat) : List Nat :=
  tasks.filter fun j => j ≠ i && (graph.reachable [i]).contains j

theorem length_comingAfter_lt {i : Nat} {tasks : List Nat} (h : i ∈ tasks) :
    (graph.comingAfter i tasks).length < tasks.length := by
  refine List.length_filter_lt_length_iff_exists.mpr ⟨i, h, ?_⟩
  simp

/-- Of some tasks the latest, then the latest of those that come after this one, and so on. -/
def delaysAmong (graph : TaskGraph) (tasks : List Nat) : List Nat :=
  match _ : tasks.max? with
  | none => []
  | some latest => latest :: graph.delaysAmong (graph.comingAfter latest tasks)
termination_by tasks.length
decreasing_by exact length_comingAfter_lt (List.max?_mem ‹_›)

/-- The delays of a task are among the task itself and all that it comes after. -/
def delays (graph : TaskGraph) (i : Nat) : List Nat :=
  graph.delaysAmong (graph.reversed.reachable [i])

theorem delaysAmong_of_max? {tasks : List Nat} {latest : Nat} (h : tasks.max? = some latest) :
    graph.delaysAmong tasks = latest :: graph.delaysAmong (graph.comingAfter latest tasks) := by
  rw [delaysAmong]
  split
  · next hnone =>
      rw [h] at hnone
      cases hnone
  · next found hfound =>
      rw [h, Option.some.injEq] at hfound
      rw [hfound]

theorem delaysAmong_nil : graph.delaysAmong [] = [] := by
  rw [delaysAmong]
  rfl

/-! ## What is run next -/

/-- Tasks that are run in turn after some others, which are given last first, each of them the
earliest that can be run. -/
inductive EarliestFirst (graph : TaskGraph) : List Nat → List Nat → Prop
  | nil (before : List Nat) : EarliestFirst graph before []
  | cons {before : List Nat} {i : Nat} {rest : List Nat}
      (first : ∀ j, graph.Ready before j → i ≤ j)
      (others : EarliestFirst graph (i :: before) rest) : EarliestFirst graph before (i :: rest)

theorem EarliestFirst.le {before order : List Nat} (h : graph.EarliestFirst before order)
    {first rest : List Nat} {i : Nat} (horder : order = first ++ i :: rest) {j : Nat}
    (hj : graph.Ready (first.reverse ++ before) j) : i ≤ j := by
  induction h generalizing first with
  | nil before => simp at horder
  | @cons before k tail hfirst others ih =>
      cases first with
      | nil =>
          obtain ⟨rfl, -⟩ := List.cons.inj horder
          exact hfirst j hj
      | cons head first =>
          obtain ⟨rfl, htail⟩ := List.cons.inj horder
          exact ih htail (by simpa using hj)

/-- **A run takes the earliest task at each step.** -/
theorem Schedule.Tracks.run_earliestFirst {schedule : Schedule} (h : Tracks graph schedule)
    (steps : Nat) : ∃ later, (Schedule.run graph steps schedule).done.reverse =
      schedule.done.reverse ++ later ∧ graph.EarliestFirst schedule.done later := by
  induction steps generalizing schedule with
  | zero => exact ⟨[], by simp [Schedule.run], .nil _⟩
  | succ steps ih =>
      rw [Schedule.run]
      cases hstep : schedule.step? graph with
      | none => exact ⟨[], by simp, .nil _⟩
      | some next =>
          obtain ⟨hnext, i, hdone, hleast⟩ := h.step hstep
          obtain ⟨later, hlater, hearliest⟩ := ih hnext
          rw [hdone] at hearliest
          exact ⟨i :: later, by simp [hlater, hdone], .cons hleast hearliest⟩

theorem earliestFirst_releaseOrder (graph : TaskGraph) :
    graph.EarliestFirst [] graph.releaseOrder := by
  obtain ⟨later, hlater, hearliest⟩ := Schedule.tracks_start.run_earliestFirst graph.size
  have horder : graph.releaseOrder = later := hlater
  rw [horder]
  exact hearliest

/-! ## Places in the order -/

/-- The place of a task in the order in which tasks are released. -/
def place (graph : TaskGraph) (i : Nat) : Nat := graph.releaseOrder.idxOf i

namespace Orderable

/-- The tasks in front of a task are those with a place in front of its place. -/
theorem exists_releaseOrder_eq (h : graph.Orderable) {i : Nat} (hi : i < graph.size) :
    ∃ first rest, graph.releaseOrder = first ++ i :: rest ∧
      ∀ j, j ∈ first ↔ graph.place j < graph.place i := by
  obtain ⟨first, rest, hsplit⟩ := List.append_of_mem (h.mem_releaseOrder.mpr hi)
  have hnodup := h.nodup_releaseOrder
  rw [hsplit, List.nodup_append] at hnodup
  have hnew : i ∉ first := fun hmem => hnodup.2.2 i hmem i List.mem_cons_self rfl
  have hplace : graph.place i = first.length := by
    rw [place, hsplit, List.idxOf_append_of_notMem hnew, List.idxOf_cons_self, Nat.add_zero]
  refine ⟨first, rest, hsplit, ?_⟩
  intro j
  rw [hplace]
  by_cases hj : j ∈ first
  · have hlt : graph.place j < first.length := by
      rw [place, hsplit, List.idxOf_append_of_mem hj]
      exact List.idxOf_lt_length_of_mem hj
    exact iff_of_true hj hlt
  · have hle : first.length ≤ graph.place j := by
      rw [place, hsplit, List.idxOf_append_of_notMem hj]
      exact Nat.le_add_right _ _
    exact iff_of_false hj (Nat.not_lt.mpr hle)

theorem place_lt (h : graph.Orderable) {i j : Nat} (hij : TransGen graph.Edge i j) :
    graph.place i < graph.place j := by
  have hedge : ∀ a b, graph.Edge a b → graph.place a < graph.place b := by
    intro a b hab
    obtain ⟨first, rest, hsplit, hfirst⟩ := h.exists_releaseOrder_eq (h.wired a b hab).2
    refine (hfirst a).mp ?_
    exact ((runnable_releaseOrder graph).needs hsplit hab).resolve_right List.not_mem_nil
  have hlt : TransGen (· < ·) (graph.place i) (graph.place j) := TransGen.lift _ hedge _ _ hij
  rwa [transGen_eq_self] at hlt

theorem place_le (h : graph.Orderable) {i j : Nat} (hij : ReflTransGen graph.Edge i j) :
    graph.place i ≤ graph.place j := by
  rcases reflTransGen_iff_eq_or_transGen.mp hij with rfl | hij
  · exact le_refl _
  · exact (h.place_lt hij).le

theorem lt_size (h : graph.Orderable) {i j : Nat} (hij : ReflTransGen graph.Edge i j)
    (hj : j < graph.size) : i < graph.size := by
  rcases hij.cases_head with rfl | ⟨k, hedge, -⟩
  · exact hj
  · exact (h.wired i k hedge).1

/-- **When a task is run, each task that is still left waits for one that is no earlier.** -/
theorem exists_later (h : graph.Orderable) {i j : Nat} (hi : i < graph.size) (hj : j < graph.size)
    (hij : graph.place i ≤ graph.place j) :
    ∃ k, ReflTransGen graph.Edge k j ∧ graph.place i ≤ graph.place k ∧ i ≤ k := by
  obtain ⟨first, rest, hsplit, hfirst⟩ := h.exists_releaseOrder_eq hi
  have hleft : j ∉ first.reverse ++ [] := by
    rw [List.append_nil, List.mem_reverse, hfirst]
    exact Nat.not_lt.mpr hij
  obtain ⟨k, hready, hkj⟩ := exists_ready h.wired h.acyclic hj hleft
  have hnew := hready.new
  rw [List.append_nil, List.mem_reverse, hfirst] at hnew
  exact ⟨k, hkj, Nat.not_lt.mp hnew, (earliestFirst_releaseOrder graph).le hsplit hready⟩

end Orderable

/-! ## Narrowing -/

/-- The tasks among which a task still has delays: those that it comes after, and the task itself,
as far as they come after the delays so far. -/
structure Narrows (graph : TaskGraph) (i : Nat) (behind : Nat → Prop) (tasks : List Nat) :
    Prop where
  mem_iff : ∀ j, j ∈ tasks ↔ behind j ∧ ReflTransGen graph.Edge j i
  closed : ∀ j k, behind j → TransGen graph.Edge j k → behind k
  /-- Once some task behind the delays is run, no other that the task comes after is left. -/
  pending : ∀ j k, behind j → graph.place j ≤ graph.place k → ReflTransGen graph.Edge k i → behind k
  /-- Behind the last delay, the task itself, there are only those that come after it. -/
  reached : ∀ j, behind j → behind i ∨ TransGen graph.Edge i j

namespace Narrows

variable {i latest : Nat} {behind : Nat → Prop} {tasks : List Nat}

theorem start (hwired : graph.Wired) (hi : i < graph.size) :
    graph.Narrows i (fun _ => True) (graph.reversed.reachable [i]) where
  mem_iff j := by
    rw [mem_reachable hwired.reversed hi, reflTransGen_reversed, true_and]
  closed _ _ _ _ := trivial
  pending _ _ _ _ _ := trivial
  reached _ _ := Or.inl trivial

theorem latest_spec (hn : graph.Narrows i behind tasks) (hlatest : tasks.max? = some latest) :
    behind latest ∧ ReflTransGen graph.Edge latest i ∧
      ∀ j, behind j → ReflTransGen graph.Edge j i → j ≤ latest := by
  obtain ⟨hmem, hle⟩ := List.max?_eq_some_iff.mp hlatest
  obtain ⟨hbehind, hreach⟩ := (hn.mem_iff latest).mp hmem
  exact ⟨hbehind, hreach, fun j hj hji => hle j ((hn.mem_iff j).mpr ⟨hj, hji⟩)⟩

/-- **The tasks behind the latest one are narrowed further.** -/
theorem next (hn : graph.Narrows i behind tasks) (h : graph.Orderable) (hi : i < graph.size)
    (hlatest : tasks.max? = some latest) :
    graph.Narrows i (TransGen graph.Edge latest) (graph.comingAfter latest tasks) := by
  obtain ⟨hbehind, hreach, hle⟩ := hn.latest_spec hlatest
  have hsize : latest < graph.size := h.lt_size hreach hi
  have hbehind_iff : ∀ j, j ≠ latest ∧ ReflTransGen graph.Edge latest j ↔
      TransGen graph.Edge latest j := by
    intro j
    rw [reflTransGen_iff_eq_or_transGen]
    constructor
    · rintro ⟨hne, heq | htrans⟩
      · exact (hne heq).elim
      · exact htrans
    · intro htrans
      refine ⟨?_, Or.inr htrans⟩
      rintro rfl
      exact h.acyclic _ htrans
  refine { mem_iff := ?_, closed := ?_, pending := ?_, reached := ?_ }
  · intro j
    simp only [comingAfter, List.mem_filter, hn.mem_iff, Bool.and_eq_true, decide_eq_true_eq,
      List.contains_iff_mem, mem_reachable h.wired hsize, hbehind_iff]
    constructor
    · rintro ⟨⟨-, hji⟩, htrans⟩
      exact ⟨htrans, hji⟩
    · rintro ⟨htrans, hji⟩
      exact ⟨⟨hn.closed latest j hbehind htrans, hji⟩, htrans⟩
  · intro j k hj hjk
    exact hj.trans hjk
  · intro j k hj hjk hki
    have hplace : graph.place latest < graph.place k := (h.place_lt hj).trans_le hjk
    -- what `k` waits for when the latest task is run can only be that task
    obtain ⟨l, hlk, hlplace, hlatestl⟩ := h.exists_later hsize (h.lt_size hki hi) hplace.le
    have hli : ReflTransGen graph.Edge l i := hlk.trans hki
    have hllatest : l ≤ latest := hle l (hn.pending latest l hbehind hlplace hli) hli
    obtain rfl : l = latest := le_antisymm hllatest hlatestl
    refine (hbehind_iff k).mp ⟨?_, hlk⟩
    rintro rfl
    exact lt_irrefl _ hplace
  · intro j hj
    by_cases heq : i = latest
    · exact Or.inr (heq ▸ hj)
    · exact Or.inl ((hbehind_iff i).mp ⟨heq, hreach⟩)

/-- The last delay is the task itself. -/
theorem getLast?_delaysAmong (hn : graph.Narrows i behind tasks) (h : graph.Orderable)
    (hi : i < graph.size) (hbehind : behind i) :
    (graph.delaysAmong tasks).getLast? = some i := by
  induction tasks using delaysAmong.induct graph generalizing behind with
  | case1 tasks hnone =>
      have hmem : i ∈ tasks := (hn.mem_iff i).mpr ⟨hbehind, ReflTransGen.refl⟩
      rw [List.max?_eq_none_iff.mp hnone] at hmem
      cases hmem
  | case2 tasks latest hlatest ih =>
      have hnext := hn.next h hi hlatest
      rw [delaysAmong_of_max? hlatest]
      by_cases heq : latest = i
      · subst heq
        have hempty : graph.comingAfter latest tasks = [] := by
          rw [List.eq_nil_iff_forall_not_mem]
          intro j hj
          obtain ⟨hafter, hback⟩ := (hnext.mem_iff j).mp hj
          exact h.acyclic latest (hafter.trans_left hback)
        rw [hempty, delaysAmong_nil]
        rfl
      · obtain ⟨-, hreach, -⟩ := hn.latest_spec hlatest
        have hafter : TransGen graph.Edge latest i :=
          (reflTransGen_iff_eq_or_transGen.mp hreach).resolve_left (Ne.symm heq)
        rw [List.getLast?_cons, ih hnext hafter]
        rfl

/-- **Of two tasks the one with the lesser delays is run first.** -/
theorem place_lt (hn : graph.Narrows i behind tasks) (h : graph.Orderable) (hi : i < graph.size)
    {j : Nat} (hj : j < graph.size) {others : List Nat} (hn' : graph.Narrows j behind others)
    (hlt : graph.delaysAmong tasks < graph.delaysAmong others) :
    graph.place i < graph.place j := by
  induction tasks using delaysAmong.induct graph generalizing behind others with
  | case1 tasks hnone =>
      cases hlatest' : others.max? with
      | none =>
          rw [List.max?_eq_none_iff.mp hnone, List.max?_eq_none_iff.mp hlatest'] at hlt
          exact (lt_irrefl _ hlt).elim
      | some latest' =>
          obtain ⟨hbehind', hreach', -⟩ := hn'.latest_spec hlatest'
          -- the first task is the last delay so far, and the second one comes after it
          have hdone : ¬ behind i := by
            intro hbehind
            have hmem : i ∈ tasks := (hn.mem_iff i).mpr ⟨hbehind, ReflTransGen.refl⟩
            rw [List.max?_eq_none_iff.mp hnone] at hmem
            cases hmem
          have hafter := (hn.reached latest' hbehind').resolve_left hdone
          exact h.place_lt (hafter.trans_left hreach')
  | case2 tasks latest hlatest ih =>
      obtain ⟨hbehind, hreach, hle⟩ := hn.latest_spec hlatest
      rw [delaysAmong_of_max? hlatest] at hlt
      cases hlatest' : others.max? with
      | none =>
          rw [List.max?_eq_none_iff.mp hlatest', delaysAmong_nil] at hlt
          exact (List.not_lt_nil _ hlt).elim
      | some latest' =>
          obtain ⟨hbehind', hreach', -⟩ := hn'.latest_spec hlatest'
          rw [delaysAmong_of_max? hlatest'] at hlt
          rcases List.cons_lt_cons_iff.mp hlt with hless | ⟨rfl, hrest⟩
          -- when the greater delay is run, nothing as late is left that the first task comes after
          · have hfirst : graph.place i < graph.place latest' := by
              by_contra hnot
              have hsize' : latest' < graph.size := h.lt_size hreach' hj
              obtain ⟨k, hki, hplace, hlatek⟩ := h.exists_later hsize' hi (Nat.not_lt.mp hnot)
              have hkle : k ≤ latest := hle k (hn.pending latest' k hbehind' hplace hki) hki
              omega
            exact hfirst.trans_le (h.place_le hreach')
          · exact ih (hn.next h hi hlatest) (hn'.next h hj hlatest') hrest

end Narrows

/-! ## The order of delays -/

namespace Orderable

theorem getLast?_delays (h : graph.Orderable) {i : Nat} (hi : i < graph.size) :
    (graph.delays i).getLast? = some i :=
  (Narrows.start h.wired hi).getLast?_delaysAmong h hi trivial

/-- **Tasks are run in the order of their delays.** -/
theorem place_lt_iff (h : graph.Orderable) {i j : Nat} (hi : i < graph.size) (hj : j < graph.size) :
    graph.place i < graph.place j ↔ graph.delays i < graph.delays j := by
  have hlesser : ∀ {a b : Nat}, a < graph.size → b < graph.size →
      graph.delays a < graph.delays b → graph.place a < graph.place b :=
    fun ha hb hlt => (Narrows.start h.wired ha).place_lt h ha hb (Narrows.start h.wired hb) hlt
  constructor
  · intro hplace
    rcases lt_trichotomy (graph.delays i) (graph.delays j) with hlt | heq | hgt
    · exact hlt
    -- delays tell the task, since it is the last of them
    · have hlast := h.getLast?_delays hi
      rw [heq, h.getLast?_delays hj, Option.some.injEq] at hlast
      rw [hlast] at hplace
      exact (lt_irrefl _ hplace).elim
    · exact (lt_asymm hplace (hlesser hj hi hgt)).elim
  · exact hlesser hi hj

theorem releaseOrder_pairwise (h : graph.Orderable) :
    graph.releaseOrder.Pairwise fun i j => graph.delays i < graph.delays j := by
  rw [List.pairwise_iff_getElem]
  intro a b ha hb hab
  have hplace : ∀ (k : Nat) (hk : k < graph.releaseOrder.length),
      graph.place graph.releaseOrder[k] = k := fun k hk => h.nodup_releaseOrder.idxOf_getElem k hk
  have hsize : ∀ (k : Nat) (hk : k < graph.releaseOrder.length),
      graph.releaseOrder[k] < graph.size := fun k hk => h.mem_releaseOrder.mp (List.getElem_mem hk)
  rw [← h.place_lt_iff (hsize a ha) (hsize b hb), hplace, hplace]
  exact hab

end Orderable

/-! ## Levels -/

/-- Tasks that are sorted by their delays are in the order of the list if none has greater delays
than a later one. -/
theorem pairwise_lt_iff_delays {tasks : List Nat}
    (h : tasks.Pairwise fun i j => graph.delays i < graph.delays j) :
    tasks.Pairwise (· < ·) ↔
      ∀ i ∈ tasks, ∀ j ∈ tasks, i < j → graph.delays i < graph.delays j := by
  constructor
  · intro hascending i hi j hj hij
    obtain ⟨a, ha, rfl⟩ := List.mem_iff_getElem.mp hi
    obtain ⟨b, hb, rfl⟩ := List.mem_iff_getElem.mp hj
    have hab : a < b := by
      rcases lt_trichotomy a b with hlt | rfl | hgt
      · exact hlt
      · exact (lt_irrefl _ hij).elim
      · exact (lt_asymm hij (List.pairwise_iff_getElem.mp hascending b a hb ha hgt)).elim
    exact List.pairwise_iff_getElem.mp h a b ha hb hab
  · intro hall
    refine h.imp_of_mem ?_
    intro i j hi hj hdelays
    rcases lt_trichotomy i j with hlt | rfl | hgt
    · exact hlt
    · exact (lt_irrefl _ hdelays).elim
    · exact (lt_asymm hdelays (hall j hj i hi hgt)).elim

/-- **Each level is sorted by delays.** The tasks that a graph was made of are put on levels if none
comes before itself. On each level they are in the order of their delays, so they are in the order
of the list exactly if none of them has greater delays than a later one. -/
theorem levels_by_delays {nodes : List Node} (h : ofTasks nodes = .ok graph)
    (hacyclic : ∀ name, ¬ TransGen (Precedes nodes) name name) :
    ∃ levels, graph.levels = .ok levels ∧ ∀ level ∈ levels,
      (positions nodes level).Pairwise (fun i j => graph.delays i < graph.delays j) ∧
      ((positions nodes level).Pairwise (· < ·) ↔
        ∀ i ∈ positions nodes level, ∀ j ∈ positions nodes level,
          i < j → graph.delays i < graph.delays j) := by
  obtain ⟨hwireable, rfl⟩ := ofTasks_eq_ok.mp h
  have horderable : (wiring nodes).Orderable :=
    ⟨wired_wiring hwireable, (acyclic_wiring hwireable).mpr hacyclic⟩
  obtain ⟨order, hok, horder, hpositions⟩ := exists_order_wiring hwireable hacyclic
  obtain ⟨known, hcompact⟩ := compact_nil.levelsFrom order
  refine ⟨levelsFrom [] [] order, by rw [TaskGraph.levels, hok]; rfl, ?_⟩
  intro level hlevel
  obtain ⟨i, hi⟩ := List.mem_iff_getElem?.mp hlevel
  have hsublist : level.Sublist order := by
    have hsub := hcompact.sublist i
    rwa [List.getD_eq_getElem?_getD, hi, Option.getD_some] at hsub
  have hsorted : (positions nodes level).Pairwise
      fun i j => (wiring nodes).delays i < (wiring nodes).delays j := by
    refine horderable.releaseOrder_pairwise.sublist ?_
    rw [← hpositions]
    exact hsublist.map _
  exact ⟨hsorted, pairwise_lt_iff_delays hsorted⟩

/-- Four tasks on two levels. Planing is run before sanding, so varnishing, which waits for it,
comes before painting, although painting is earlier in the list. -/
def woodTasks : List Node :=
  [⟨"paint", ["sand"]⟩, ⟨"varnish", ["plane"]⟩, ⟨"plane", []⟩, ⟨"sand", []⟩]

theorem ofTasks_woodTasks : ofTasks woodTasks = .ok (wiring woodTasks) := rfl

theorem acyclic_woodTasks : (wiring woodTasks).Acyclic :=
  acyclic_of_lt [2, 3, 1, 0].idxOf (by decide)

theorem levels_woodTasks : (wiring woodTasks).levels =
    .ok [[⟨"plane", []⟩, ⟨"sand", []⟩], [⟨"varnish", ["plane"]⟩, ⟨"paint", ["sand"]⟩]] := by
  obtain ⟨hwireable, -⟩ := ofTasks_eq_ok.mp ofTasks_woodTasks
  have hcycle := (findCycle?_eq_none (wired_wiring hwireable)).mpr acyclic_woodTasks
  rw [TaskGraph.levels, order_of_findCycle?_eq_none hcycle]
  rfl

theorem not_precedes_woodTasks (name : String) : ¬ TransGen (Precedes woodTasks) name name := by
  obtain ⟨hwireable, -⟩ := ofTasks_eq_ok.mp ofTasks_woodTasks
  exact (acyclic_wiring hwireable).mp acyclic_woodTasks name

theorem woodTasks_levels_by_delays :
    (∀ name, ¬ TransGen (Precedes woodTasks) name name) ∧
    ∃ graph levels, ofTasks woodTasks = .ok graph ∧ graph.levels = .ok levels ∧
      levels.map (·.map Node.name) = [["plane", "sand"], ["varnish", "paint"]] ∧
      ∀ level ∈ levels,
        (positions woodTasks level).Pairwise (fun i j => graph.delays i < graph.delays j) ∧
        ((positions woodTasks level).Pairwise (· < ·) ↔
          ∀ i ∈ positions woodTasks level, ∀ j ∈ positions woodTasks level,
            i < j → graph.delays i < graph.delays j) := by
  obtain ⟨levels, hlevels, hsorted⟩ := levels_by_delays ofTasks_woodTasks not_precedes_woodTasks
  obtain rfl := Except.ok.inj (hlevels.symm.trans levels_woodTasks)
  exact ⟨not_precedes_woodTasks, _, _, ofTasks_woodTasks, hlevels, rfl, hsorted⟩

example : (wiring woodTasks).delays 1 = [2, 1] ∧ (wiring woodTasks).delays 0 = [3, 0] := by
  constructor <;> cbv

/-- **Not every level is in the order of the list.** -/
theorem woodTasks_level_reversed :
    ¬ ∀ (nodes : List Node) (graph : TaskGraph), ofTasks nodes = .ok graph →
      (∀ name, ¬ TransGen (Precedes nodes) name name) →
      ∀ levels, graph.levels = .ok levels →
        ∀ level ∈ levels, (positions nodes level).Pairwise (· < ·) := by
  intro hall
  have hascending := hall woodTasks _ ofTasks_woodTasks not_precedes_woodTasks _ levels_woodTasks
    [⟨"varnish", ["plane"]⟩, ⟨"paint", ["sand"]⟩] (by simp)
  -- varnishing has the second place in the list, and painting the first
  have hpositions : positions woodTasks [⟨"varnish", ["plane"]⟩, ⟨"paint", ["sand"]⟩] = [1, 0] := by
    decide
  rw [hpositions] at hascending
  exact absurd hascending (by decide)

end Recipe.TaskGraph
