import Mathlib
import Recipe.Proofs.Build.Acceptance
import Recipe.Proofs.Placeholder.Settled

/-!
# Texts of built graphs

The texts of a graph come from literals, paths and folders of its declaration. All of them are
renamed when the graph is built, and what happens to a text afterwards does not undo it: in a graph
that was built no text changes when its placeholders are renamed (`Dag.allRenamed_of_build`).
-/

set_option autoImplicit false

namespace Recipe

/-! ## Renamed texts -/

/-- A text that stays the same when its placeholders are renamed. -/
def IsRenamed (text : String) : Prop := renamePlaceholders text = text

theorem isRenamed_renamePlaceholders (text : String) : IsRenamed (renamePlaceholders text) :=
  renamePlaceholders_renamePlaceholders text

theorem isRenamed_of_map {text? : Option String} {text : String}
    (h : text?.map renamePlaceholders = some text) : IsRenamed text := by
  obtain ⟨earlier, -, rfl⟩ := Option.map_eq_some_iff.mp h
  exact isRenamed_renamePlaceholders earlier

/-! ## Texts in values -/

namespace Json

/-- A text is a leaf of a value: the value itself, or a leaf of an item or of a field. -/
inductive HasText : Json → String → Prop
  | string (text : String) : HasText (.string text) text
  | item {items : List Json} {item : Json} {text : String} (hmem : item ∈ items)
      (h : HasText item text) : HasText (.list items) text
  | field {fields : List (String × Json)} {name : String} {value : Json} {text : String}
      (hmem : (name, value) ∈ fields) (h : HasText value text) : HasText (.object fields) text

theorem renameTextsOfItems_eq_map (items : List Json) :
    renameTextsOfItems items = items.map renameTexts := by
  induction items with
  | nil => rfl
  | cons item rest ih => rw [renameTextsOfItems, ih, List.map_cons]

theorem renameTextsOfFields_eq_map (fields : List (String × Json)) :
    renameTextsOfFields fields = fields.map fun field => (field.1, field.2.renameTexts) := by
  induction fields with
  | nil => rfl
  | cons field rest ih => rw [renameTextsOfFields, ih, List.map_cons]

/-- **All texts in a renamed value are renamed.** -/
theorem HasText.isRenamed {value : Json} {text : String} (h : value.renameTexts.HasText text) :
    IsRenamed text := by
  -- the leaf is that of some value with its texts renamed, on which the induction goes
  generalize hrenamed : value.renameTexts = renamed at h
  induction h generalizing value with
  | string text =>
      cases value <;> cases hrenamed
      exact isRenamed_renamePlaceholders _
  | item hmem _ ih =>
      cases value <;> cases hrenamed
      rw [renameTextsOfItems_eq_map] at hmem
      obtain ⟨earlier, -, hearlier⟩ := List.mem_map.mp hmem
      exact ih hearlier
  | field hmem _ ih =>
      cases value <;> cases hrenamed
      rw [renameTextsOfFields_eq_map] at hmem
      obtain ⟨⟨_, earlier⟩, -, hearlier⟩ := List.mem_map.mp hmem
      exact ih (Prod.mk.inj hearlier).2

end Json

/-! ## References -/

/-- All texts in a literal are renamed, and so is the path of a literal artifact. -/
def Reference.AllRenamed : Reference → Prop
  | .value literal => ∀ text, literal.HasText text → IsRenamed text
  | .artifact _ path => IsRenamed path
  | _ => True

theorem Scope.Denotes.allRenamed {scope : Scope} {argument : Argument} {reference : Reference}
    (h : scope.Denotes argument reference) : reference.AllRenamed := by
  cases h with
  | literal value => exact fun text htext => htext.isRenamed
  | input _ => trivial
  | output _ _ => trivial
  | item _ => trivial

/-- A literal text that becomes a path is renamed already. -/
theorem Input.Takes.allRenamed {parameter : Input} {reference bound : Reference}
    (h : parameter.Takes reference bound) (hreference : reference.AllRenamed) :
    bound.AllRenamed := by
  cases h with
  | path _ => exact hreference _ (.string _)
  | same _ => exact hreference

theorem Reference.AllRenamed.fileAsParameter {reference : Reference} (h : reference.AllRenamed) :
    reference.fileAsParameter.AllRenamed := by
  unfold Reference.fileAsParameter
  split
  · trivial
  · exact h

/-! ## Graphs -/

/-- All texts of a task are renamed: those of its arguments and of its loop, the paths inside of its
arguments, those it hands its outputs back to, and its folder. -/
structure GraphTask.AllRenamed (task : GraphTask) : Prop where
  arguments : ∀ argument ∈ task.arguments, argument.source.AllRenamed
  subPaths : ∀ argument ∈ task.arguments, ∀ path, argument.subPath = some path → IsRenamed path
  loop : ∀ source, task.loop = some source → source.AllRenamed
  returns : ∀ ret ∈ task.returns, ∀ path, ret.path = some path → IsRenamed path
  subFolder : ∀ folder, task.subFolder = some folder → IsRenamed folder

/-- **All texts of a graph are renamed**, in its tasks and in the paths of its outputs. -/
structure Graph.AllRenamed (graph : Graph) : Prop where
  tasks : ∀ task ∈ graph.tasks, task.AllRenamed
  outputs : ∀ output ∈ graph.outputs, output.source.AllRenamed

namespace TargetedTask

variable {entry : TargetedTask} {scope : Scope}

theorem Binds.allRenamed {declared : String × Argument} {bound : BoundArgument}
    (h : entry.Binds scope declared bound) : bound.source.AllRenamed := by
  obtain ⟨parameter, reference, -, hdenotes, htakes⟩ := h.source
  exact htakes.allRenamed hdenotes.allRenamed

theorem LoopsOver.allRenamed {argument : Argument} {source : Reference}
    (h : LoopsOver scope argument source) : source.AllRenamed := by
  obtain ⟨⟨reference, hdenotes, rfl⟩, -, -, -⟩ := h
  exact hdenotes.allRenamed.fileAsParameter

/-- The path of a return is trimmed before it is renamed, so it stays renamed. -/
theorem Returns.isRenamed {declaration : ReturnDeclaration} {ret : TaskReturn} {path : String}
    (h : entry.Returns declaration ret) (hpath : ret.path = some path) : IsRenamed path := by
  obtain ⟨spec, -, -, rfl⟩ := h
  simp only at hpath
  split at hpath
  · exact isRenamed_of_map hpath
  · cases hpath

theorem Resolves.allRenamed {policy : NeedsPolicy} {package : PackageId} {task : GraphTask}
    (h : entry.Resolves scope policy package task) : task.AllRenamed := by
  refine { arguments := ?_, subPaths := ?_, loop := ?_, returns := ?_, subFolder := ?_ }
  · intro bound hbound
    obtain ⟨declared, -, hbinds⟩ := exists_of_mem_forall₂ h.arguments bound hbound
    exact hbinds.allRenamed
  · intro bound hbound path hpath
    obtain ⟨declared, -, hbinds⟩ := exists_of_mem_forall₂ h.arguments bound hbound
    exact isRenamed_of_map (hbinds.subPath.symm.trans hpath)
  · intro source hsource
    have hloop := h.loop
    rw [hsource] at hloop
    obtain ⟨declared, -, hloops⟩ := exists_of_optionRel_some hloop
    exact hloops.allRenamed
  · intro ret hret path hpath
    obtain ⟨declaration, -, hreturns⟩ := exists_of_mem_forall₂ h.returns ret hret
    exact hreturns.isRenamed hpath
  · intro folder hfolder
    exact isRenamed_of_map (h.subFolder.symm.trans hfolder)

end TargetedTask

theorem DagOutput.Resolves.allRenamed {output : DagOutput} {scope : Scope} {resolved : GraphOutput}
    (h : output.Resolves scope resolved) : resolved.source.AllRenamed := by
  cases h with
  | path _ => exact isRenamed_renamePlaceholders _
  | output _ hdenotes _ =>
      show (if _ then _ else _ : Reference).AllRenamed
      split
      · exact hdenotes.allRenamed
      · exact hdenotes.allRenamed.fileAsParameter

namespace Dag

variable {dag : Dag} {registry : Registry} {policy : NeedsPolicy} {graph : Graph}

/-- **No text of a graph that was built is left to be renamed.** -/
theorem allRenamed_of_build (hbuild : dag.build registry policy = .ok graph) :
    graph.AllRenamed := by
  obtain ⟨hresolve, -⟩ := build_eq_ok.mp hbuild
  obtain ⟨targeted, h⟩ := resolve_eq_ok.mp hresolve
  constructor
  · intro task htask
    obtain ⟨entry, -, hresolves⟩ := exists_of_mem_forall₂ h.tasks task htask
    exact hresolves.allRenamed
  · intro resolved hresolved
    obtain ⟨output, -, hresolves⟩ := exists_of_mem_forall₂ h.outputs resolved hresolved
    exact hresolves.allRenamed

end Dag

/-! ## An example -/

/-- A function that grinds grain as it is set. -/
def grindGrain : Function where
  definition :=
    { name := "grind"
      kind := .function
      package := ⟨"mill-tools", "1.0.0"⟩
      inputs := [{ name := "grain", kind := .folder }, { name := "settings", kind := .dict }]
      outputs := [{ name := "flour", kind := .file }] }
  body := .command "grind"

/-- A DAG with placeholders in all its literals, paths and folders. -/
def grindAll : Dag where
  id := 4
  definition :=
    { name := "grind-all"
      kind := .dag
      package := ⟨"daylight", "0.1.0"⟩
      outputs := [{ name := "flour", kind := .folder }] }
  tasks :=
    [{ name := "grind"
       template := ⟨"mill-tools", "grind"⟩
       arguments :=
        [("grain", .literal (.string "\x7b\x7bself.a_b\x7d\x7d")),
         ("settings", .literal (.object [("at", .list [.string "\x7b\x7bself.a_b\x7d\x7d"])]))]
       returns := [{ output := "flour", path := some " \x7b\x7bself.a_b\x7d\x7d " }]
       loop := some (.literal (.list [.string "\x7b\x7bself.a_b\x7d\x7d"]))
       subFolder := some "\x7b\x7bself.a_b\x7d\x7d"
       subPaths := [("grain", "\x7b\x7bself.a_b\x7d\x7d")] }]
  outputs :=
    [{ spec := { name := "flour", kind := .folder }
       source := .path "\x7b\x7bself.a_b\x7d\x7d" }]
  grouped := false

def millTools : Registry where
  id := 1
  templates := [.function grindGrain]

theorem grindAll_allRenamed :
    ∃ graph, grindAll.build millTools .strict = .ok graph ∧ graph.AllRenamed := by
  have hok : (grindAll.build millTools .strict).isOk = true := by cbv
  obtain ⟨graph, hbuild⟩ := exists_of_isOk hok
  exact ⟨graph, hbuild, Dag.allRenamed_of_build hbuild⟩

end Recipe
