import Recipe.Proofs.Build.Acceptance
import Recipe.Proofs.Building
import Recipe.Workspace

/-!
# Handles

Any number of DAGs are drafted side by side, with calls on their drafts in any order. Whoever
declares an input gets a handle to it. No handle is given out twice, and in the DAG that is built
from a draft a handle stands for the input it was given out for if it was given out by this draft,
and for nothing if it was not (`handles_own`).

A step begins a draft or is a call on one (`Sound.perform`), and a run is any number of steps
(`sound_after`).
-/

set_option autoImplicit false

namespace Recipe

/-! ## Calls -/

/-- The input that a call declares. -/
def DagCall.declared? : DagCall → Option InputDeclaration
  | .input declaration => some declaration
  | _ => none

namespace DagDraft

theorem inputs_call (draft : DagDraft) (call : DagCall) :
    (draft.call call).inputs =
      draft.inputs ++ (call.declared?.map InputDeclaration.input).toList := by
  cases call with
  | input declaration => rfl
  | _ => exact (List.append_nil _).symm

theorem lt_length_call {draft : DagDraft} {call : DagCall} {index : Nat}
    (h : index < (draft.call call).inputs.length) :
    index < draft.inputs.length ∨
      ∃ declaration, call = .input declaration ∧ index = draft.inputs.length := by
  rw [draft.inputs_call, List.length_append] at h
  cases call with
  | input declaration =>
      have hle : index < draft.inputs.length + 1 := h
      rcases Nat.lt_succ_iff_lt_or_eq.mp hle with hlt | heq
      · exact Or.inl hlt
      · exact Or.inr ⟨declaration, rfl, heq⟩
  | _ => exact Or.inl h

end DagDraft

/-- A workspace with all drafts of DAGs that were begun in it. -/
structure Workbench where
  workspace : Workspace := {}
  drafts : List DagDraft := []

namespace Workbench

/-! ## Steps -/

/-- What can be done: to begin a draft, or to make a call on one, which goes by its place in the
order in which drafts were begun. -/
inductive Step
  | start (name : String) (package : PackageId)
  | change (place : Nat) (call : DagCall)

/-- A handle that was given out, by the draft at a place and for the declaration of an input. -/
structure Issue where
  place : Nat
  handle : InputHandle
  declaration : InputDeclaration

/-- What a call on the draft at a place gives out. -/
def issue? (place : Nat) (draft : DagDraft) (call : DagCall) : Option Issue :=
  call.declared?.map fun declaration => ⟨place, (draft.declare declaration.input).1, declaration⟩

theorem mem_issue? {place : Nat} {draft : DagDraft} {call : DagCall} {issue : Issue} :
    issue ∈ issue? place draft call ↔ ∃ declaration, call = .input declaration ∧
      issue = ⟨place, ⟨draft.id, draft.inputs.length⟩, declaration⟩ := by
  cases call <;> simp [issue?, DagCall.declared?, DagDraft.declare, eq_comm]

/-- What a step gives out, and the drafts after it. A call on a draft that there is not does
nothing. -/
def Step.perform (step : Step) (bench : Workbench) : Option Issue × Workbench :=
  match step with
  | .start name package =>
      let (id, workspace) := bench.workspace.freshId
      (none, { workspace, drafts := bench.drafts ++ [.make id name package] })
  | .change place call =>
      match bench.drafts[place]? with
      | none => (none, bench)
      | some draft =>
          (issue? place draft call,
            { bench with drafts := bench.drafts.set place (draft.call call) })

def run (steps : List Step) : List Issue × Workbench :=
  steps.foldl (fun (issued, bench) step =>
    let (issue, next) := step.perform bench
    (issued ++ issue.toList, next)) ([], {})

/-- The handles that some steps give out, in turn. -/
def issued (steps : List Step) : List Issue := (run steps).1

def after (steps : List Step) : Workbench := (run steps).2

theorem run_append_singleton (steps : List Step) (step : Step) :
    run (steps ++ [step]) =
      (issued steps ++ (step.perform (after steps)).1.toList, (step.perform (after steps)).2) := by
  rw [run, List.foldl_append]
  rfl

theorem issued_append_singleton (steps : List Step) (step : Step) :
    issued (steps ++ [step]) = issued steps ++ (step.perform (after steps)).1.toList := by
  rw [issued, run_append_singleton]

theorem after_append_singleton (steps : List Step) (step : Step) :
    after (steps ++ [step]) = (step.perform (after steps)).2 := by
  rw [after, run_append_singleton]

variable {bench next : Workbench} {place : Nat} {draft : DagDraft}

/-! ## Drafts go on -/

/-- Each draft is still at its place, with its identity, and its inputs are still in front. -/
def Continues (bench next : Workbench) : Prop :=
  ∀ (place : Nat) (draft : DagDraft), bench.drafts[place]? = some draft →
    ∃ later, next.drafts[place]? = some later ∧ later.id = draft.id ∧
      draft.inputs <+: later.inputs

theorem Continues.refl (bench : Workbench) : bench.Continues bench :=
  fun _ draft hdraft => ⟨draft, hdraft, rfl, List.prefix_rfl⟩

theorem Continues.trans {last : Workbench} (h : bench.Continues next) (h' : next.Continues last) :
    bench.Continues last := by
  intro place draft hdraft
  obtain ⟨later, hlater, hid, hinputs⟩ := h place draft hdraft
  obtain ⟨final, hfinal, hid', hinputs'⟩ := h' place later hlater
  exact ⟨final, hfinal, hid'.trans hid, hinputs.trans hinputs'⟩

/-- **Drafts go on in each step.** -/
theorem Step.continues (step : Step) (bench : Workbench) :
    bench.Continues (step.perform bench).2 := by
  cases step with
  | start name package =>
      intro place draft hdraft
      refine ⟨draft, ?_, rfl, List.prefix_rfl⟩
      have hlt := (List.getElem?_eq_some_iff.mp hdraft).1
      exact (List.getElem?_append_left hlt).trans hdraft
  | change place call =>
      simp only [perform]
      cases hfound : bench.drafts[place]? with
      | none => exact Continues.refl bench
      | some found =>
          intro other draft hdraft
          by_cases heq : place = other
          · subst heq
            obtain rfl := Option.some.inj (hfound.symm.trans hdraft)
            have hlt := (List.getElem?_eq_some_iff.mp hdraft).1
            refine ⟨found.call call, List.getElem?_set_self hlt, found.id_call call, ?_⟩
            rw [found.inputs_call]
            exact List.prefix_append _ _
          · exact ⟨draft, (List.getElem?_set_ne heq).trans hdraft, rfl, List.prefix_rfl⟩

theorem continues_after (steps more : List Step) :
    (after steps).Continues (after (steps ++ more)) := by
  induction more using List.reverseRecOn with
  | nil =>
      rw [List.append_nil]
      exact Continues.refl _
  | append_singleton more step ih =>
      rw [← List.append_assoc, after_append_singleton]
      exact ih.trans (step.continues _)

/-! ## What holds after every step -/

def ids (bench : Workbench) : List Nat := bench.drafts.map DagDraft.id

theorem getElem?_ids (hdraft : bench.drafts[place]? = some draft) :
    bench.ids[place]? = some draft.id := by
  rw [ids, List.getElem?_map, hdraft, Option.map_some]

theorem ids_set (hdraft : bench.drafts[place]? = some draft) {later : DagDraft}
    (hid : later.id = draft.id) : (bench.drafts.set place later).map DagDraft.id = bench.ids := by
  obtain ⟨hlt, hget⟩ := List.getElem?_eq_some_iff.mp (getElem?_ids hdraft)
  rw [List.map_set, hid, ← hget]
  exact List.set_getElem_self hlt

/-- The draft that gave out a handle has the input it was given out for at its position. -/
def Keeps (bench : Workbench) (issue : Issue) : Prop :=
  ∃ draft, bench.drafts[issue.place]? = some draft ∧ issue.handle.owner = draft.id ∧
    draft.inputs[issue.handle.index]? = some issue.declaration.input

theorem Continues.keeps (h : bench.Continues next) {issue : Issue} (hkeeps : bench.Keeps issue) :
    next.Keeps issue := by
  obtain ⟨draft, hdraft, howner, hinput⟩ := hkeeps
  obtain ⟨later, hlater, hid, hinputs⟩ := h _ _ hdraft
  refine ⟨later, hlater, howner.trans hid.symm, ?_⟩
  obtain ⟨hlt, hget⟩ := List.getElem?_eq_some_iff.mp hinput
  rw [← hget]
  exact (List.prefix_iff_getElem?.mp hinputs) _ hlt

/-- **What holds of drafts that gave out some handles**: their identities are distinct and none is
still to come, no handle was given out twice, each stands for what it was given out for, and for
each input of a draft one was given out. -/
structure Sound (bench : Workbench) (issued : List Issue) : Prop where
  ids_lt : ∀ id ∈ bench.ids, id < bench.workspace.nextId
  ids_distinct : bench.ids.Nodup
  handles_distinct : (issued.map Issue.handle).Nodup
  keeps : ∀ issue ∈ issued, bench.Keeps issue
  given : ∀ (place : Nat) (draft : DagDraft), bench.drafts[place]? = some draft →
    ∀ index < draft.inputs.length, ∃ declaration, ⟨place, ⟨draft.id, index⟩, declaration⟩ ∈ issued

theorem sound_initial : ({} : Workbench).Sound [] where
  ids_lt := by simp [ids]
  ids_distinct := by simp [ids]
  handles_distinct := by simp
  keeps := by simp
  given := by simp

namespace Sound

variable {issuedSo : List Issue}

theorem place_eq (h : bench.Sound issuedSo) {other : Nat} {found : DagDraft}
    (hdraft : bench.drafts[place]? = some draft) (hfound : bench.drafts[other]? = some found)
    (hid : draft.id = found.id) : place = other := by
  have hlt := (List.getElem?_eq_some_iff.mp (getElem?_ids hdraft)).1
  refine (List.getElem?_inj hlt h.ids_distinct).mp ?_
  rw [getElem?_ids hdraft, getElem?_ids hfound, hid]

/-- A handle that names a draft was given out by it, for the input at its position. -/
theorem keeps_of_owner (h : bench.Sound issuedSo) {issue : Issue} (hissue : issue ∈ issuedSo)
    (hdraft : bench.drafts[place]? = some draft) (howner : issue.handle.owner = draft.id) :
    issue.place = place ∧
      draft.inputs[issue.handle.index]? = some issue.declaration.input := by
  obtain ⟨found, hfound, hfoundowner, hinput⟩ := h.keeps issue hissue
  have hplace : issue.place = place := h.place_eq hfound hdraft (hfoundowner.symm.trans howner)
  rw [hplace, hdraft] at hfound
  obtain rfl := Option.some.inj hfound
  exact ⟨hplace, hinput⟩

theorem handle_new (h : bench.Sound issuedSo) (hdraft : bench.drafts[place]? = some draft)
    (input : Input) : (draft.declare input).1 ∉ issuedSo.map Issue.handle := by
  intro hmem
  obtain ⟨issue, hissue, heq⟩ := List.mem_map.mp hmem
  obtain ⟨-, hinput⟩ := h.keeps_of_owner hissue hdraft (by rw [heq]; rfl)
  have hlt := (List.getElem?_eq_some_iff.mp hinput).1
  rw [heq] at hlt
  exact lt_irrefl _ hlt

/-- **A draft that is begun has an identity of its own, and no inputs.** -/
theorem start (h : bench.Sound issuedSo) (name : String) (package : PackageId) :
    Sound { workspace := bench.workspace.freshId.2
            drafts := bench.drafts ++ [.make bench.workspace.nextId name package] } issuedSo := by
  have hcontinues := (Step.start name package).continues bench
  have hids :
      (bench.drafts ++ [DagDraft.make bench.workspace.nextId name package]).map DagDraft.id =
        bench.ids ++ [bench.workspace.nextId] := by
    rw [List.map_append]
    rfl
  refine
    { ids_lt := ?_
      ids_distinct := ?_
      handles_distinct := h.handles_distinct
      keeps := fun issue hissue => hcontinues.keeps (h.keeps issue hissue)
      given := ?_ }
  · intro id hid
    rw [ids, hids] at hid
    rcases List.mem_append.mp hid with hid | hid
    · exact (h.ids_lt id hid).trans (Nat.lt_succ_self _)
    · rw [List.mem_singleton.mp hid]
      exact Nat.lt_succ_self _
  · rw [ids, hids, List.nodup_append]
    refine ⟨h.ids_distinct, List.nodup_singleton _, ?_⟩
    intro id hid other hother
    rw [List.mem_singleton.mp hother]
    exact (h.ids_lt id hid).ne
  · intro place draft hdraft index hindex
    by_cases hold : place < bench.drafts.length
    · rw [List.getElem?_append_left hold] at hdraft
      exact h.given place draft hdraft index hindex
    · rw [List.getElem?_append_right (Nat.le_of_not_lt hold)] at hdraft
      rw [List.mem_singleton.mp (List.mem_of_getElem? hdraft)] at hindex
      exact (Nat.not_lt_zero _ hindex).elim

theorem handles_distinct_change (h : bench.Sound issuedSo)
    (hdraft : bench.drafts[place]? = some draft) (call : DagCall) :
    ((issuedSo ++ (issue? place draft call).toList).map Issue.handle).Nodup := by
  rw [List.map_append, List.nodup_append]
  refine ⟨h.handles_distinct, by cases issue? place draft call <;> simp, ?_⟩
  intro handle hhandle other hother heq
  obtain ⟨issue, hissue, rfl⟩ := List.mem_map.mp hother
  obtain ⟨declaration, -, rfl⟩ := mem_issue?.mp (Option.mem_toList.mp hissue)
  rw [heq] at hhandle
  exact h.handle_new hdraft declaration.input hhandle

theorem given_change (h : bench.Sound issuedSo) (hdraft : bench.drafts[place]? = some draft)
    {call : DagCall} {index : Nat} (hindex : index < (draft.call call).inputs.length) :
    ∃ declaration, ⟨place, ⟨draft.id, index⟩, declaration⟩ ∈
      issuedSo ++ (issue? place draft call).toList := by
  rcases DagDraft.lt_length_call hindex with hold | ⟨declaration, rfl, rfl⟩
  · obtain ⟨declaration, hgiven⟩ := h.given place draft hdraft index hold
    exact ⟨declaration, List.mem_append_left _ hgiven⟩
  · exact ⟨declaration, List.mem_append_right _ (List.mem_singleton_self _)⟩

/-- **A call on a draft gives out a handle exactly if it declares an input, and for this input.** -/
theorem change (h : bench.Sound issuedSo) (hdraft : bench.drafts[place]? = some draft)
    (call : DagCall) :
    Sound { bench with drafts := bench.drafts.set place (draft.call call) }
      (issuedSo ++ (issue? place draft call).toList) := by
  have hself : (bench.drafts.set place (draft.call call))[place]? = some (draft.call call) :=
    List.getElem?_set_self (List.getElem?_eq_some_iff.mp hdraft).1
  have hids : (bench.drafts.set place (draft.call call)).map DagDraft.id = bench.ids :=
    ids_set hdraft (draft.id_call call)
  have hcontinues := (Step.change place call).continues bench
  rw [Step.perform, hdraft] at hcontinues
  refine
    { ids_lt := ?_
      ids_distinct := ?_
      handles_distinct := h.handles_distinct_change hdraft call
      keeps := ?_
      given := ?_ }
  · rw [ids, hids]
    exact h.ids_lt
  · rw [ids, hids]
    exact h.ids_distinct
  · intro issue hissue
    rcases List.mem_append.mp hissue with hissue | hissue
    · exact hcontinues.keeps (h.keeps issue hissue)
    · obtain ⟨declaration, rfl, rfl⟩ := mem_issue?.mp (Option.mem_toList.mp hissue)
      refine ⟨_, hself, rfl, ?_⟩
      rw [draft.inputs_call]
      exact List.getElem?_concat_length
  · intro other found hfound index hindex
    by_cases heq : place = other
    · subst heq
      obtain rfl := Option.some.inj (hself.symm.trans hfound)
      rw [draft.id_call]
      exact h.given_change hdraft hindex
    · rw [List.getElem?_set_ne heq] at hfound
      obtain ⟨declaration, hgiven⟩ := h.given other found hfound index hindex
      exact ⟨declaration, List.mem_append_left _ hgiven⟩

/-- **Each step keeps drafts sound.** -/
theorem perform (h : bench.Sound issuedSo) (step : Step) :
    (step.perform bench).2.Sound (issuedSo ++ (step.perform bench).1.toList) := by
  cases step with
  | start name package =>
      have hissued : issuedSo ++ ((Step.start name package).perform bench).1.toList = issuedSo :=
        List.append_nil _
      rw [hissued]
      exact h.start name package
  | change place call =>
      simp only [Step.perform]
      cases hdraft : bench.drafts[place]? with
      | none =>
          simp only [Option.toList_none, List.append_nil]
          exact h
      | some draft => exact h.change hdraft call

end Sound

/-- **The invariant holds after all steps.** -/
theorem sound_after (steps : List Step) : (after steps).Sound (issued steps) := by
  induction steps using List.reverseRecOn with
  | nil => exact sound_initial
  | append_singleton steps step ih =>
      rw [after_append_singleton, issued_append_singleton]
      exact ih.perform step

/-! ## What handles stand for -/

/-- **A handle stands for the input it was given out for**, and only in the DAG of the draft that
gave it out. -/
theorem Sound.inputOf?_eq_some {issuedSo : List Issue} (h : bench.Sound issuedSo)
    (hdraft : bench.drafts[place]? = some draft) {dag : Dag} (hbuild : draft.build = .ok dag)
    {handle : InputHandle} {input : Input} :
    dag.inputOf? handle = some input ↔
      ∃ declaration, ⟨place, handle, declaration⟩ ∈ issuedSo ∧ declaration.input = input := by
  obtain ⟨-, rfl⟩ := DagDraft.build_eq_ok.mp hbuild
  obtain ⟨owner, index⟩ := handle
  constructor
  · intro hinput
    rw [Dag.inputOf?] at hinput
    split at hinput
    · next howner =>
        have hlt := (List.getElem?_eq_some_iff.mp hinput).1
        obtain ⟨declaration, hgiven⟩ := h.given place draft hdraft index hlt
        obtain ⟨-, hkept⟩ := h.keeps_of_owner hgiven hdraft rfl
        obtain rfl : owner = draft.id := howner
        exact ⟨declaration, hgiven, Option.some.inj (hkept.symm.trans hinput)⟩
    · cases hinput
  · rintro ⟨declaration, hissued, rfl⟩
    obtain ⟨found, hfound, howner, hinput⟩ := h.keeps _ hissued
    obtain rfl := Option.some.inj (hdraft.symm.trans hfound)
    rw [Dag.inputOf?, if_pos howner]
    exact hinput

/-- **What a handle is resolved to** is the input that it was given out for. -/
theorem Sound.resolve_eq_ok {issuedSo : List Issue} (h : bench.Sound issuedSo)
    (hdraft : bench.drafts[place]? = some draft) {dag : Dag} (hbuild : draft.build = .ok dag)
    {targeted : List TargetedTask} {handle : InputHandle} {site : Site} {reference : Reference} :
    (dag.scope targeted).resolve (.input handle) site = .ok reference ↔
      ∃ declaration, ⟨place, handle, declaration⟩ ∈ issuedSo ∧
        reference = .input (paramName declaration.name) declaration.kind.artifact? := by
  rw [Scope.resolve_eq_ok]
  constructor
  · intro hdenotes
    cases hdenotes with
    | input hinput =>
        rw [Dag.scope_input?, h.inputOf?_eq_some hdraft hbuild] at hinput
        obtain ⟨declaration, hissued, rfl⟩ := hinput
        exact ⟨declaration, hissued, by rw [declaration.name_input, declaration.kind_input]⟩
  · rintro ⟨declaration, hissued, rfl⟩
    have hinput : (dag.scope targeted).input? handle = some declaration.input := by
      rw [Dag.scope_input?]
      exact (h.inputOf?_eq_some hdraft hbuild).mpr ⟨declaration, hissued, rfl⟩
    rw [← declaration.name_input, ← declaration.kind_input]
    exact .input hinput

/-- **A handle that was not given out by the draft is reported.** -/
theorem Sound.resolve_eq_error {issuedSo : List Issue} (h : bench.Sound issuedSo)
    (hdraft : bench.drafts[place]? = some draft) {dag : Dag} (hbuild : draft.build = .ok dag)
    {targeted : List TargetedTask} {handle : InputHandle} {site : Site}
    (hforeign : ∀ declaration, ⟨place, handle, declaration⟩ ∉ issuedSo) :
    (dag.scope targeted).resolve (.input handle) site =
      .error (.unresolvedInput dag.definition.name site.task site.argument) := by
  have hinput : (dag.scope targeted).input? handle = none := by
    rw [Dag.scope_input?, Option.eq_none_iff_forall_ne_some]
    intro input hinput
    obtain ⟨declaration, hissued, -⟩ := (h.inputOf?_eq_some hdraft hbuild).mp hinput
    exact hforeign declaration hissued
  simp only [Scope.resolve, hinput]
  rfl

/-- **A handle that another draft gave out stands for nothing.** -/
theorem Sound.inputOf?_eq_none {issuedSo : List Issue} (h : bench.Sound issuedSo)
    (hdraft : bench.drafts[place]? = some draft) {issue : Issue} (hissue : issue ∈ issuedSo)
    (hplace : issue.place ≠ place) {dag : Dag} (hid : dag.id = draft.id) :
    dag.inputOf? issue.handle = none := by
  have hother : issue.handle.owner ≠ dag.id := by
    intro howner
    exact hplace (h.keeps_of_owner hissue hdraft (howner.trans hid)).1
  rw [Dag.inputOf?, if_neg hother]

/-- **Handles stand for what they were given out for.** After any steps on any number of drafts no
handle was given out twice. In a DAG that is built from one of the drafts, a handle is resolved
exactly if this draft gave it out, and then to the canonical name and the sort of artifact of the
input that was declared for it, and any other one is reported. So there is no graph of a DAG in
which an argument or a loop of a task is a handle that another draft gave out, be it before or
after. -/
theorem handles_own (steps : List Step) :
    ((issued steps).map Issue.handle).Nodup ∧
    ∀ (place : Nat) (draft : DagDraft) (dag : Dag),
      (after steps).drafts[place]? = some draft → draft.build = .ok dag →
      (∀ targeted handle site reference,
        (dag.scope targeted).resolve (.input handle) site = .ok reference ↔
          ∃ declaration, ⟨place, handle, declaration⟩ ∈ issued steps ∧
            reference = .input (paramName declaration.name) declaration.kind.artifact?) ∧
      (∀ targeted handle site, (∀ declaration, ⟨place, handle, declaration⟩ ∉ issued steps) →
        (dag.scope targeted).resolve (.input handle) site =
          .error (.unresolvedInput dag.definition.name site.task site.argument)) ∧
      ∀ more, ∀ issue ∈ issued (steps ++ more), issue.place ≠ place →
        ∀ task ∈ dag.tasks, Argument.input issue.handle ∈ task.values →
          ∀ registry policy, ∃ fault, dag.build registry policy = .error fault := by
  have hsound := sound_after steps
  refine ⟨hsound.handles_distinct, ?_⟩
  intro place draft dag hdraft hbuild
  refine ⟨?_, ?_, ?_⟩
  · exact fun _ _ _ _ => hsound.resolve_eq_ok hdraft hbuild
  · exact fun _ _ _ hforeign => hsound.resolve_eq_error hdraft hbuild hforeign
  · intro more issue hissue hplace task htask hvalue registry policy
    -- the draft is still there when the other handle is given out
    obtain ⟨later, hlater, hid, -⟩ := continues_after steps more place draft hdraft
    have hdag : dag.id = later.id := by
      obtain ⟨-, rfl⟩ := DagDraft.build_eq_ok.mp hbuild
      exact hid.symm
    have hnone := (sound_after (steps ++ more)).inputOf?_eq_none hlater hissue hplace hdag
    cases hgraph : dag.build registry policy with
    | error fault => exact ⟨fault, rfl⟩
    | ok graph =>
        obtain ⟨input, hinput⟩ := Dag.knows_of_build hgraph htask hvalue
        rw [hnone] at hinput
        cases hinput

/-- Two drafts declare inputs of one name in turn, and a task of the second one loops over the input
of the first. -/
def guestSteps : List Step :=
  [.start "Greet" ⟨"letters", "1.0.0"⟩, .start "Invite" ⟨"letters", "1.0.0"⟩,
    .change 0 (.input ⟨"guest_list", .list, []⟩),
    .change 1 (.input ⟨"guest_list", .list, [.optional]⟩),
    .change 0 (.input ⟨"host", .string, []⟩),
    .change 1 (.task ((TaskDeclaration.make "call" ⟨"tools", "speak"⟩).loopOver (.input ⟨1, 0⟩)))]

theorem guestSteps_handles_own :
    (issued guestSteps).map Issue.handle = [⟨1, 0⟩, ⟨2, 0⟩, ⟨1, 1⟩] ∧
    ((issued guestSteps).map Issue.handle).Nodup ∧
    ∃ draft dag, (after guestSteps).drafts[1]? = some draft ∧ draft.build = .ok dag ∧
      (∀ targeted site,
        (dag.scope targeted).resolve (.input ⟨2, 0⟩) site = .ok (.input "guest-list" none) ∧
        (dag.scope targeted).resolve (.input ⟨1, 0⟩) site =
          .error (.unresolvedInput dag.definition.name site.task site.argument)) ∧
      ∀ registry policy, ∃ fault, dag.build registry policy = .error fault := by
  have hissued : issued guestSteps =
      [⟨0, ⟨1, 0⟩, ⟨"guest_list", .list, []⟩⟩, ⟨1, ⟨2, 0⟩, ⟨"guest_list", .list, [.optional]⟩⟩,
        ⟨0, ⟨1, 1⟩, ⟨"host", .string, []⟩⟩] := rfl
  let call := (TaskDeclaration.make "call" ⟨"tools", "speak"⟩).loopOver (.input ⟨1, 0⟩)
  let invite := DagDraft.ofCalls 2 "Invite" ⟨"letters", "1.0.0"⟩
    [.input ⟨"guest_list", .list, [.optional]⟩, .task call]
  have hdraft : (after guestSteps).drafts[1]? = some invite := rfl
  have hok : invite.build.isOk = true := by decide +kernel
  obtain ⟨dag, hbuild⟩ := exists_of_isOk hok
  have htask : call ∈ dag.tasks := by
    obtain ⟨-, rfl⟩ := DagDraft.build_eq_ok.mp hbuild
    exact List.mem_singleton_self call
  obtain ⟨hnodup, hown⟩ := handles_own guestSteps
  obtain ⟨hresolve, hforeign, hnever⟩ := hown 1 invite dag hdraft hbuild
  refine ⟨by rw [hissued]; rfl, hnodup, invite, dag, hdraft, hbuild, ?_, ?_⟩
  · intro targeted site
    have hname : paramName "guest_list" = "guest-list" := by cbv
    constructor
    · refine (hresolve targeted ⟨2, 0⟩ site _).mpr ⟨⟨"guest_list", .list, [.optional]⟩, ?_, ?_⟩
      · simp [hissued]
      · rw [hname]
        rfl
    · refine hforeign targeted ⟨1, 0⟩ site ?_
      intro declaration
      simp [hissued]
  · refine hnever [] ⟨0, ⟨1, 0⟩, ⟨"guest_list", .list, []⟩⟩ ?_ (by decide) call htask ?_
    · rw [List.append_nil, hissued]
      exact List.mem_cons_self
    · exact List.mem_singleton_self _

end Workbench

end Recipe
