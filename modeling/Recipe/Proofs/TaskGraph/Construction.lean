import Recipe.Proofs.Table
import Recipe.Proofs.TaskGraph.Wiring

/-!
# Task graphs made step by step

A task graph may be made by any calls that add a task or the edges of all needs, in any order. Calls
may fail, and a graph goes on being used after they did. A draft keeps the positions of names in a
table beside the graph, as they were handed out.

After any calls the table is the inverse of the names, and the graph is that of the tasks whose calls
did not fail (`faithful_after`). What carries this is that the edges are at each time those of the
tasks that were there when edges were last added: adding edges again finds these first, and only
those of later tasks are new (`Draft.Sound`, `foldl_wantedEdges`).
-/

set_option autoImplicit false

namespace Recipe.TaskGraph

/-! ## Calls -/

/-- A task graph that is being made, with the position under which each name was added. -/
structure Draft where
  graph : TaskGraph := {}
  positions : Table Nat := []

/-- A call that works on a draft. What it has changed stays when it fails. -/
abbrev Drafting := ExceptT TaskGraphError (StateM Draft)

namespace Draft

/-- The needs of a task among those asked for so far: an edge for each that is known, and each other
one with the name of the task. -/
def request (draft : Draft) (node : Node) (index : Nat)
    (found : List (Nat × Nat) × List (String × String)) (need : String) :
    List (Nat × Nat) × List (String × String) :=
  match draft.positions.lookup need with
  | some position => (found.1 ++ [(position, index)], found.2)
  | none => (found.1, found.2 ++ [(node.name, need)])

/-- The edges that all needs ask for, and the needs that are missing. -/
def requests (draft : Draft) : List (Nat × Nat) × List (String × String) :=
  draft.graph.nodes.zipIdx.foldl
    (fun found (node, index) => node.needs.foldl (draft.request node index) found) ([], [])

end Draft

/-- Adds a task, whose name must not be taken, and gives its position. -/
def Drafting.add (node : Node) : Drafting Nat := do
  if (← get).positions.has node.name then throw (.duplicateTask node.name)
  let index := (← get).graph.size
  modify fun draft =>
    { draft with graph := { draft.graph with nodes := draft.graph.nodes ++ [node] } }
  modify fun draft => { draft with positions := draft.positions.insert node.name index }
  return index

/-- Adds an edge, which has no effect if it is there. -/
def Drafting.connect (edge : Nat × Nat) : Drafting Unit :=
  modify fun draft =>
    { draft with graph := { draft.graph with edges := addNew draft.graph.edges edge } }

/-- Adds the edges of all needs, one after the other. No need may be missing. -/
def Drafting.wire : Drafting Unit := do
  let (edges, missing) := (← get).requests
  if !missing.isEmpty then throw (.missingDependencies missing)
  edges.forM Drafting.connect

/-- A call with what it needs. -/
inductive Call
  | add (node : Node)
  | wire

/-- The work that a call does. -/
def Call.perform : Call → Drafting Unit
  | add node => discard (Drafting.add node)
  | wire => Drafting.wire

namespace Draft

/-- The draft after some calls, those that failed included. -/
def after (draft : Draft) (calls : List Call) : Draft :=
  calls.foldl (fun draft call => (call.perform.run draft).2) draft

/-- The tasks that some calls add, without those whose calls fail. -/
def added (draft : Draft) : List Call → List Node
  | [] => []
  | call :: rest =>
      let (outcome, next) := call.perform.run draft
      match call, outcome with
      | .add node, .ok _ => node :: next.added rest
      | _, _ => next.added rest

end Draft

/-! ## What the calls do -/

variable {draft : Draft} {node : Node}

theorem run_add :
    (Drafting.add node).run draft =
      if draft.positions.has node.name then (.error (.duplicateTask node.name), draft)
      else (.ok draft.graph.size,
        { graph := { draft.graph with nodes := draft.graph.nodes ++ [node] }
          positions := draft.positions.insert node.name draft.graph.size }) := by
  unfold Drafting.add
  show (if draft.positions.has node.name = true then _ else _ : Drafting Nat).run draft = _
  split
  · rfl
  · rfl

theorem run_connect {edges : List (Nat × Nat)} :
    (edges.forM Drafting.connect).run draft =
      (.ok (), { draft with
        graph := { draft.graph with edges := edges.foldl addNew draft.graph.edges } }) := by
  induction edges generalizing draft with
  | nil => rfl
  | cons edge rest ih => exact ih

theorem run_wire :
    Drafting.wire.run draft =
      if draft.requests.2.isEmpty then
        (.ok (), { draft with
          graph := { draft.graph with edges := draft.requests.1.foldl addNew draft.graph.edges } })
      else (.error (.missingDependencies draft.requests.2), draft) := by
  unfold Drafting.wire
  show (if (!draft.requests.2.isEmpty) = true then _ else _ : Drafting Unit).run draft = _
  cases draft.requests.2.isEmpty with
  | true => exact run_connect
  | false => rfl

theorem run_discard {α : Type} {call : Drafting α} :
    (discard call).run draft = (discard (call.run draft).1, (call.run draft).2) := by
  show (Function.const α PUnit.unit <$> call).run draft = _
  rw [ExceptT.run_map]
  rfl

/-- The needs of a task are gone through in turn. -/
theorem foldl_request (hlookup : ∀ name, draft.positions.lookup name = draft.graph.index? name)
    {index : Nat} {needs : List String} {found : List (Nat × Nat) × List (String × String)} :
    needs.foldl (draft.request node index) found =
      (found.1 ++ (needs.filterMap draft.graph.index?).map (·, index),
        found.2 ++ (needs.filter fun need => (draft.graph.index? need).isNone).map
          (node.name, ·)) := by
  induction needs generalizing found with
  | nil => simp
  | cons need rest ih =>
      rw [List.foldl_cons, ih, Draft.request, hlookup]
      cases hneed : draft.graph.index? need with
      | none => simp [hneed]
      | some position => simp [hneed]

/-- So are the tasks. -/
theorem foldl_requests (hlookup : ∀ name, draft.positions.lookup name = draft.graph.index? name)
    {entries : List (Node × Nat)} {found : List (Nat × Nat) × List (String × String)} :
    entries.foldl (fun found (node, index) => node.needs.foldl (draft.request node index) found)
        found =
      (found.1 ++ entries.flatMap fun (node, index) =>
          (node.needs.filterMap draft.graph.index?).map (·, index),
        found.2 ++ (entries.map Prod.fst).flatMap fun node =>
          (node.needs.filter fun need => (draft.graph.index? need).isNone).map
            (node.name, ·)) := by
  induction entries generalizing found with
  | nil => simp
  | cons entry rest ih =>
      obtain ⟨node, index⟩ := entry
      rw [List.foldl_cons, ih]
      simp [foldl_request hlookup]

/-! ## Sound drafts -/

theorem index?_eq_some {graph : TaskGraph} (hnodup : graph.names.Nodup) {name : String} {i : Nat} :
    graph.index? name = some i ↔ graph.names[i]? = some name := by
  rw [names, List.getElem?_map, Option.map_eq_some_iff]
  constructor
  · exact exists_of_index?
  · rintro ⟨node, hnode, rfl⟩
    exact index?_name hnodup hnode

/-- A draft has a position for each name, and its edges are those of the tasks that were there when
edges were last added. -/
structure Draft.Sound (draft : Draft) : Prop where
  names_distinct : draft.graph.names.Nodup
  positions : draft.positions = draft.graph.names.zipIdx
  wired : ∃ earlier later, draft.graph.nodes = earlier ++ later ∧ Wireable earlier ∧
    draft.graph.edges = (wiring earlier).edges

namespace Draft.Sound

theorem names_positions (h : draft.Sound) : draft.positions.names = draft.graph.names := by
  rw [h.positions, Table.names, List.zipIdx_map_fst]

theorem lookup_eq (h : draft.Sound) (name : String) :
    draft.positions.lookup name = draft.graph.index? name := by
  refine Option.ext fun i => ?_
  have hnodup : (draft.positions.map Prod.fst).Nodup := by
    rw [← Table.names, h.names_positions]
    exact h.names_distinct
  rw [Table.lookup_eq_some hnodup, index?_eq_some h.names_distinct, h.positions,
    List.mem_zipIdx_iff_getElem?]

/-- One pass over the tasks finds all edges and all that is missing. -/
theorem requests_eq (h : draft.Sound) :
    draft.requests = (draft.graph.wantedEdges, draft.graph.missing) := by
  rw [Draft.requests, foldl_requests h.lookup_eq, List.zipIdx_map_fst]
  rfl

/-- A call that adds a task does so, and it has no effect if it fails. -/
theorem run_add (h : draft.Sound) (node : Node) :
    (Drafting.add node).run draft =
      match draft.graph.addTask node with
      | .ok next => (.ok draft.graph.size,
          { graph := next, positions := draft.positions ++ [(node.name, draft.graph.size)] })
      | .error fault => (.error fault, draft) := by
  rw [TaskGraph.run_add, addTask]
  by_cases hnew : node.name ∈ draft.graph.names
  · rw [if_pos (Table.has_eq_true.mpr (h.names_positions ▸ hnew)), if_pos (index?_isSome.mpr hnew)]
    rfl
  · have hfree : node.name ∉ draft.positions.names := h.names_positions ▸ hnew
    rw [if_neg (mt Table.has_eq_true.mp hfree), if_neg (mt index?_isSome.mp hnew),
      Table.insert_of_not_mem hfree]
    rfl

/-- A call that adds edges does so, and it has no effect if it fails. -/
theorem run_wire (h : draft.Sound) :
    Drafting.wire.run draft =
      match draft.graph.addDependencyEdges with
      | .ok next => (.ok (), { draft with graph := next })
      | .error fault => (.error fault, draft) := by
  rw [TaskGraph.run_wire, h.requests_eq, addDependencyEdges]
  cases draft.graph.missing.isEmpty with
  | true => rfl
  | false => rfl

end Draft.Sound

/-! ## Edges that are added again -/

/-- The needs of earlier tasks keep their positions when more tasks come behind. -/
theorem index?_append {earlier later : List Node} {name : String}
    (h : name ∈ earlier.map Node.name) :
    ({ nodes := earlier ++ later } : TaskGraph).index? name =
      ({ nodes := earlier } : TaskGraph).index? name := by
  have hsome : ({ nodes := earlier } : TaskGraph).index? name ≠ none := by
    rw [Ne, index?_eq_none, not_not]
    exact h
  obtain ⟨i, hi⟩ := Option.ne_none_iff_exists'.mp hsome
  rw [hi]
  rw [index?] at hi ⊢
  rw [List.findIdx?_append, hi, Option.some_or]

/-- More tasks want the same edges first, if those before want no others. -/
theorem wantedEdges_append {earlier later : List Node} (h : Wireable earlier) :
    ∃ more, ({ nodes := earlier ++ later } : TaskGraph).wantedEdges =
      ({ nodes := earlier } : TaskGraph).wantedEdges ++ more := by
  rw [wantedEdges, List.zipIdx_append, List.flatMap_append]
  refine ⟨_, congrArg (· ++ _) ?_⟩
  refine List.flatMap_congr fun entry hentry => ?_
  obtain ⟨node, index⟩ := entry
  have hnode : node ∈ earlier := (List.mem_zipIdx' hentry).2 ▸ List.getElem_mem _
  refine congrArg (List.map (·, index)) (List.filterMap_congr fun need hneed => ?_)
  exact index?_append (h.needs node hnode need hneed)

/-- Edges that were added for earlier tasks make no difference when the edges of all are added. -/
theorem foldl_wantedEdges {earlier later : List Node} (h : Wireable earlier) :
    ({ nodes := earlier ++ later } : TaskGraph).wantedEdges.foldl addNew (wiring earlier).edges =
      (wiring (earlier ++ later)).edges := by
  obtain ⟨more, hmore⟩ : ∃ more, ({ nodes := earlier ++ later } : TaskGraph).wantedEdges =
      ({ nodes := earlier } : TaskGraph).wantedEdges ++ more := wantedEdges_append h
  rw [wiring, wiring, hmore, List.foldl_append, List.foldl_append]
  congr 1
  rw [foldl_addNew_eq_self]
  intro edge hedge
  exact mem_foldl_addNew.mpr (Or.inr hedge)

namespace Draft.Sound

theorem isEmpty_missing (h : draft.Sound) :
    draft.graph.missing.isEmpty = true ↔ Wireable draft.graph.nodes := by
  rw [List.isEmpty_iff, missing_eq_nil]
  exact ⟨fun hneeds => ⟨h.names_distinct, hneeds⟩, fun hwireable => hwireable.needs⟩

/-- **When edges are added, the graph becomes that of its tasks**, if these can be wired. -/
theorem addDependencyEdges_eq_ok (h : draft.Sound) {next : TaskGraph} :
    draft.graph.addDependencyEdges = .ok next ↔
      Wireable draft.graph.nodes ∧ next = wiring draft.graph.nodes := by
  have hnext : ({ draft.graph with
      edges := draft.graph.wantedEdges.foldl addNew draft.graph.edges } : TaskGraph) =
      wiring draft.graph.nodes := by
    obtain ⟨earlier, later, hnodes, hearlier, hedges⟩ := h.wired
    have hwanted : draft.graph.wantedEdges =
        ({ nodes := earlier ++ later } : TaskGraph).wantedEdges := hnodes ▸ rfl
    rw [hedges, hwanted, foldl_wantedEdges hearlier, ← hnodes]
    rfl
  rw [addDependencyEdges, hnext]
  by_cases hwireable : Wireable draft.graph.nodes
  · rw [if_pos (h.isEmpty_missing.mpr hwireable), pure_eq_ok]
    exact ⟨fun heq => ⟨hwireable, heq.symm⟩, fun hboth => hboth.2.symm⟩
  · rw [if_neg (mt h.isEmpty_missing.mp hwireable), throw_ne_ok]
    exact ⟨False.elim, fun hboth => hwireable hboth.1⟩

end Draft.Sound

/-! ## Steps -/

/-- **What a call does to a draft.** It fails and leaves the draft alone, or it adds its task behind
the others, or it gives the graph all edges. -/
inductive Call.Step (draft : Draft) : Call → Except TaskGraphError Unit → Draft → Prop
  | taken {node : Node} (h : node.name ∈ draft.graph.names) :
      Step draft (.add node) (.error (.duplicateTask node.name)) draft
  | added {node : Node} (h : node.name ∉ draft.graph.names) :
      Step draft (.add node) (.ok ())
        { graph := { draft.graph with nodes := draft.graph.nodes ++ [node] }
          positions := draft.positions ++ [(node.name, draft.graph.size)] }
  | missing (h : ¬ Wireable draft.graph.nodes) :
      Step draft .wire (.error (.missingDependencies draft.graph.missing)) draft
  | wired (h : Wireable draft.graph.nodes) :
      Step draft .wire (.ok ()) { draft with graph := wiring draft.graph.nodes }

namespace Draft.Sound

theorem step (h : draft.Sound) {call : Call} {outcome : Except TaskGraphError Unit} {next : Draft}
    (hrun : call.perform.run draft = (outcome, next)) : call.Step draft outcome next := by
  suffices hstep : call.Step draft (call.perform.run draft).1 (call.perform.run draft).2 by
    rwa [hrun] at hstep
  clear hrun
  cases call with
  | add node =>
      rw [Call.perform, run_discard, h.run_add]
      by_cases hmem : node.name ∈ draft.graph.names
      · have hadd : draft.graph.addTask node = .error (.duplicateTask node.name) :=
          if_pos (index?_isSome.mpr hmem)
        rw [hadd]
        exact .taken hmem
      · rw [addTask_eq_ok.mpr ⟨hmem, rfl⟩]
        exact .added hmem
  | wire =>
      rw [Call.perform, h.run_wire]
      by_cases hwireable : Wireable draft.graph.nodes
      · rw [h.addDependencyEdges_eq_ok.mpr ⟨hwireable, rfl⟩]
        exact .wired hwireable
      · have hwire : draft.graph.addDependencyEdges =
            .error (.missingDependencies draft.graph.missing) :=
          if_neg (mt h.isEmpty_missing.mp hwireable)
        rw [hwire]
        exact .missing hwireable

theorem empty : ({} : Draft).Sound where
  names_distinct := List.nodup_nil
  positions := rfl
  wired := ⟨[], [], rfl, ⟨List.nodup_nil, by simp⟩, rfl⟩

theorem next (h : draft.Sound) {call : Call} {outcome : Except TaskGraphError Unit} {next : Draft}
    (hstep : call.Step draft outcome next) : next.Sound := by
  cases hstep with
  | taken => exact h
  | @added node hnew =>
      obtain ⟨earlier, later, hnodes, hearlier, hedges⟩ := h.wired
      refine
        { names_distinct := ?_
          positions := ?_
          wired := ⟨earlier, later ++ [node], ?_, hearlier, hedges⟩ }
      · rw [names, List.map_append, List.map_singleton, ← names, ← List.concat_eq_append]
        exact h.names_distinct.concat hnew
      · rw [h.positions, names, names, List.map_append, List.zipIdx_append, List.length_map,
          Nat.zero_add]
        rfl
      · rw [← List.append_assoc, ← hnodes]
  | missing => exact h
  | wired hwireable =>
      exact
        { names_distinct := hwireable.nodup
          positions := h.positions
          wired := ⟨draft.graph.nodes, [], (List.append_nil _).symm, hwireable, rfl⟩ }

end Draft.Sound

/-! ## Runs -/

/-- **Calls lead from a sound draft to a sound one**, which has the tasks that they add behind those
that were there. -/
theorem Draft.Sound.after (h : draft.Sound) (calls : List Call) :
    (draft.after calls).Sound ∧
      (draft.after calls).graph.nodes = draft.graph.nodes ++ draft.added calls := by
  induction calls generalizing draft with
  | nil => exact ⟨h, (List.append_nil _).symm⟩
  | cons call rest ih =>
      cases hrun : call.perform.run draft with
      | mk outcome next =>
      have hstep := h.step hrun
      have hafter : draft.after (call :: rest) = next.after rest := by
        rw [Draft.after, List.foldl_cons, hrun]
        rfl
      obtain ⟨hsound, hnodes⟩ := ih (h.next hstep)
      rw [hafter]
      refine ⟨hsound, hnodes.trans ?_⟩
      rw [Draft.added, hrun]
      cases hstep with
      | taken => rfl
      | added => exact List.append_assoc _ _ _
      | missing => rfl
      | wired => rfl

/-- Two graphs give the same order and the same levels, or both have a cycle. -/
structure SameRuns (graph other : TaskGraph) : Prop where
  order : graph.order = other.order
  levels : graph.levels = other.levels
  outcome : (∃ order levels, graph.order = .ok order ∧ graph.levels = .ok levels) ∨
    ∃ path, graph.order = .error (.cycleDetected path) ∧ graph.levels = .error (.cycleDetected path)

theorem SameRuns.refl (graph : TaskGraph) : graph.SameRuns graph where
  order := rfl
  levels := rfl
  outcome := by
    rw [TaskGraph.levels, TaskGraph.order]
    cases graph.findCycle? with
    | none => exact Or.inl ⟨_, _, rfl, rfl⟩
    | some path => exact Or.inr ⟨path, rfl, rfl⟩

/-- **What a draft must be like** to which some tasks were added. -/
structure Draft.Faithful (draft : Draft) (tasks : List Node) : Prop where
  nodes : draft.graph.nodes = tasks
  names_distinct : (tasks.map Node.name).Nodup
  /-- Each name has the position of its task, and there are no other names. -/
  positions : ∀ name index,
    draft.positions.lookup name = some index ↔ (tasks.map Node.name)[index]? = some name
  /-- Each edge is from a task to one that needs it. -/
  edges : ∀ i j, (i, j) ∈ draft.graph.edges →
    ∃ need node, tasks[i]? = some need ∧ tasks[j]? = some node ∧ need.name ∈ node.needs
  edges_distinct : draft.graph.edges.Nodup
  /-- A call adds its task to the graph as `addTask` does. -/
  add : ∀ node, (Drafting.add node).run draft =
    match draft.graph.addTask node with
    | .ok next => (.ok draft.graph.size,
        { graph := next, positions := draft.positions ++ [(node.name, draft.graph.size)] })
    | .error fault => (.error fault, draft)
  /-- A call adds edges to the graph as `addDependencyEdges` does. -/
  wire : Drafting.wire.run draft =
    match draft.graph.addDependencyEdges with
    | .ok next => (.ok (), { draft with graph := next })
    | .error fault => (.error fault, draft)
  /-- A call fails for a name that is taken or for needs that are missing, and changes nothing. -/
  failed : ∀ call fault next, (Call.perform call).run draft = (.error fault, next) → next = draft ∧
    ((∃ node, call = .add node ∧ node.name ∈ tasks.map Node.name ∧
        fault = .duplicateTask node.name) ∨
      call = .wire ∧ ∃ missing, fault = .missingDependencies missing)
  /-- Once edges are added, the graph is run like the one that is made of the tasks at once. -/
  wired : ∀ next, Drafting.wire.run draft = (.ok (), next) →
    ∃ built, ofTasks tasks = .ok built ∧ next.graph.SameRuns built

theorem Draft.Sound.faithful (h : draft.Sound) : draft.Faithful draft.graph.nodes where
  nodes := rfl
  names_distinct := h.names_distinct
  positions := by
    intro name index
    rw [h.lookup_eq]
    exact index?_eq_some h.names_distinct
  edges := by
    intro i j hedge
    obtain ⟨earlier, later, hnodes, hearlier, hedges⟩ := h.wired
    rw [hedges] at hedge
    obtain ⟨need, node, hneed, hnode, hmem⟩ := (edge_wiring hearlier).mp hedge
    have hkept : ∀ {k : Nat} {found : Node}, earlier[k]? = some found →
        draft.graph.nodes[k]? = some found := by
      intro k found hfound
      rw [hnodes, List.getElem?_append_left (List.getElem?_eq_some_iff.mp hfound).1]
      exact hfound
    exact ⟨need, node, hkept hneed, hkept hnode, hmem⟩
  edges_distinct := by
    obtain ⟨earlier, -, -, -, hedges⟩ := h.wired
    rw [hedges]
    exact nodup_foldl_addNew List.nodup_nil
  add := h.run_add
  wire := h.run_wire
  failed := by
    intro call fault next hrun
    cases h.step hrun with
    | taken htaken => exact ⟨rfl, Or.inl ⟨_, rfl, htaken, rfl⟩⟩
    | missing => exact ⟨rfl, Or.inr ⟨rfl, _, rfl⟩⟩
  wired := by
    intro next hrun
    have hstep : Call.wire.Step draft (.ok ()) next := h.step hrun
    cases hstep with
    | wired hwireable =>
        exact ⟨wiring draft.graph.nodes, ofTasks_eq_ok.mpr ⟨hwireable, rfl⟩, SameRuns.refl _⟩

/-- **Every sequence of calls makes a faithful draft**, of the tasks whose calls did not fail. -/
theorem faithful_after (calls : List Call) :
    (({} : Draft).after calls).Faithful (({} : Draft).added calls) := by
  obtain ⟨hsound, hnodes⟩ := Draft.Sound.empty.after calls
  have hadded : (({} : Draft).after calls).graph.nodes = ({} : Draft).added calls := hnodes
  rw [← hadded]
  exact hsound.faithful

/-- Edges are added before and after a task, and two calls fail in between. -/
example :
    let calls : List Call :=
      [.add ⟨"b", []⟩, .add ⟨"a", ["b"]⟩, .wire, .add ⟨"a", []⟩, .add ⟨"d", ["c", "a"]⟩, .wire,
        .add ⟨"c", ["a"]⟩, .wire]
    (({} : Draft).after calls).graph =
      { nodes := [⟨"b", []⟩, ⟨"a", ["b"]⟩, ⟨"d", ["c", "a"]⟩, ⟨"c", ["a"]⟩]
        edges := [(0, 1), (3, 2), (1, 2), (1, 3)] } := by
  decide

end Recipe.TaskGraph
