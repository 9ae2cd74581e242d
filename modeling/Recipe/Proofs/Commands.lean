import Recipe.Proofs.Build.Typing
import Recipe.Proofs.Building
import Recipe.Proofs.Placeholder.Surroundings

/-!
# Inputs named in commands

A command names an input by a placeholder, and a template declares it under some spelling of its
name. Both come to the same canonical name, so the command of a function that was built names its
inputs as the function declares them, and as the tasks of a graph bind them (`inputs_named_alike`).
-/

set_option autoImplicit false

namespace Recipe

open Text

/-! ## References to inputs -/

/-- What stands in front of the name of an input in a reference to it. -/
def owners : List String := ["self.", "inputs."]

/-- **A reference to an input goes by the canonical name**, whichever owner it is written with. -/
theorem renameReference_owner {owner : String} (howner : owner ∈ owners) (name : List Char) :
    renameReference (owner.toList ++ name) = "inputs.".toList ++ name.map hyphenated := by
  have hrenamed := referenceRenamed_renameReference (owner.toList ++ name)
  simp only [owners, List.mem_cons, List.not_mem_nil, or_false] at howner
  generalize hreference : owner.toList ++ name = reference at hrenamed ⊢
  generalize renameReference reference = renamed at hrenamed
  cases hrenamed with
  | self other =>
      rcases howner with rfl | rfl
      · rw [List.append_cancel_left hreference]
      · exact absurd (List.cons.inj hreference).1 (by decide)
  | inputs other =>
      rcases howner with rfl | rfl
      · exact absurd (List.cons.inj hreference).1 (by decide)
      · rw [List.append_cancel_left hreference]
  | other hself hinputs =>
      rcases howner with rfl | rfl
      · exact (hself ⟨name, hreference⟩).elim
      · exact (hinputs ⟨name, hreference⟩).elim

theorem Text.Bare.owner_append {owner : String} (howner : owner ∈ owners) {name : List Char}
    (h : Bare name) : Bare (owner.toList ++ name) := by
  have hends : ∃ first, owner.toList.head? = some first ∧ isBlank first = false ∧
      owner.toList.getLast? = some '.' := by
    simp only [owners, List.mem_cons, List.not_mem_nil, or_false] at howner
    rcases howner with rfl | rfl
    · exact ⟨'s', rfl, by decide, rfl⟩
    · exact ⟨'i', rfl, by decide, rfl⟩
  obtain ⟨first, hfirst, hblank, hlast⟩ := hends
  constructor
  · intro c hc
    rw [List.head?_append, hfirst] at hc
    rw [← Option.some.inj hc]
    exact hblank
  · intro c hc
    rw [List.getLast?_append, hlast] at hc
    cases hname : name.getLast? with
    | none =>
        rw [hname] at hc
        rw [← Option.some.inj hc]
        decide
    | some d =>
        rw [hname] at hc
        rw [← Option.some.inj hc]
        exact h.last d hname

/-! ## Texts that mention an input -/

/-- How a text mentions an input: by its name in some spelling, with blank characters around the
reference, and outside of the placeholder without braces. -/
structure Mention where
  before : String
  lead : String
  name : String
  trail : String
  after : String
  unbraced_before : Unbraced before.toList
  blank_lead : Blank lead.toList
  unbraced_name : Unbraced name.toList
  bare_name : Bare name.toList
  blank_trail : Blank trail.toList
  unbraced_after : Unbraced after.toList

namespace Mention

variable (mention : Mention)

/-- The text with a reference in its placeholder. -/
def text (owner name : String) : String :=
  mention.before ++ "\x7b\x7b" ++ mention.lead ++ owner ++ name ++ mention.trail ++ "\x7d\x7d" ++
    mention.after

theorem toList_text (owner name : String) :
    (mention.text owner name).toList = mention.before.toList ++
      bracketed (mention.lead.toList ++ (owner.toList ++ name.toList) ++ mention.trail.toList) ++
        mention.after.toList := by
  simp [text, bracketed]

theorem toList_paramName : (paramName mention.name).toList = mention.name.toList.map hyphenated := by
  rw [paramName, String.toList_ofList, trimmed_eq_self mention.bare_name]

/-- **A text that mentions an input does so by its canonical name once it is renamed.** -/
theorem renamePlaceholders_text {owner : String} (howner : owner ∈ owners) :
    renamePlaceholders (mention.text owner mention.name) =
      mention.text "inputs." (paramName mention.name) := by
  have howner_unbraced : Unbraced owner.toList := by
    simp only [owners, List.mem_cons, List.not_mem_nil, or_false] at howner
    rcases howner with rfl | rfl <;> simp [Unbraced] <;> decide
  have hinside : Unbraced
      (mention.lead.toList ++ (owner.toList ++ mention.name.toList) ++ mention.trail.toList) := by
    simp only [unbraced_append]
    exact ⟨⟨unbraced_of_blank mention.blank_lead, howner_unbraced, mention.unbraced_name⟩,
      unbraced_of_blank mention.blank_trail⟩
  rw [← String.toList_inj, renamePlaceholders, String.toList_ofList, toList_text, toList_text,
    renameChars_append _ mention.unbraced_before mention.unbraced_after,
    renameChars_bracketed hinside,
    renameInside_append mention.blank_lead mention.blank_trail
      (mention.bare_name.owner_append howner),
    renameReference_owner howner, toList_paramName]

end Mention

/-! ## Functions that were built -/

theorem FunctionDraft.inputs_ofCalls (name : String) (package : PackageId)
    (calls : List FunctionCall) :
    (ofCalls name package calls).inputs = calls.filterMap fun
      | .input declaration => some declaration.input
      | _ => none := by
  have hmore : ∀ (calls : List FunctionCall) (draft : FunctionDraft),
      (calls.foldl FunctionDraft.call draft).inputs = draft.inputs ++ calls.filterMap fun
        | .input declaration => some declaration.input
        | _ => none := by
    intro calls
    induction calls with
    | nil => exact fun draft => (List.append_nil _).symm
    | cons call rest ih =>
        intro draft
        rw [List.foldl_cons, ih]
        cases call <;> simp [FunctionDraft.call]
  exact hmore calls (.make name package)

theorem Definition.input?_name {definition : Definition}
    (hdistinct : (definition.inputs.map Input.name).Nodup) {input : Input}
    (hmem : input ∈ definition.inputs) : definition.input? input.name = some input := by
  cases hfound : definition.input? input.name with
  | none =>
      have hne := List.find?_eq_none.mp hfound input hmem
      simp at hne
  | some other =>
      have hname : other.name = input.name := by simpa using List.find?_some hfound
      rw [List.inj_on_of_nodup_map hdistinct (List.mem_of_find?_eq_some hfound) hmem hname]

/-- What a function runs mentions an input by the name under which the function declares it, and
under which each task that runs the function binds it. -/
structure Function.NamesAlike (run : Function) (draft : FunctionDraft) (mention : Mention)
    (input : Input) : Prop where
  command : ∀ owner ∈ owners, draft.command = some (mention.text owner mention.name) →
    run.body = .command (trim (mention.text "inputs." input.name))
  script : ∀ owner ∈ owners, draft.script = some (mention.text owner mention.name) →
    run.body = .script (mention.text "inputs." input.name)
  declared : run.definition.input? input.name = some input
  bound : ∀ (dag : Dag) (registry : Registry) (policy : NeedsPolicy) (graph : Graph),
    dag.build registry policy = .ok graph → ∀ task ∈ graph.tasks, task.target = run.definition →
      input.required = true → ∃ argument ∈ task.arguments, argument.name = input.name

/-- **An input is mentioned as it is declared.** A text that mentions an input by its name in some
spelling mentions it by the name of the input that is declared under this spelling once the text is
renamed; and so does what a function runs that was built with such an input and such a text. -/
theorem inputs_named_alike (mention : Mention) (kind : Kind) :
    (∀ owner ∈ owners, renamePlaceholders (mention.text owner mention.name) =
      mention.text "inputs." (Input.make mention.name kind).name) ∧
    ∀ (details : List InputDetail) (title : String) (package : PackageId)
      (calls : List FunctionCall) (run : Function),
      FunctionCall.input ⟨mention.name, kind, details⟩ ∈ calls →
      (FunctionDraft.ofCalls title package calls).build = .ok run →
        run.NamesAlike (.ofCalls title package calls) mention
          (InputDeclaration.input ⟨mention.name, kind, details⟩) := by
  refine ⟨fun owner howner => mention.renamePlaceholders_text howner, ?_⟩
  intro details title package calls run hcall hbuild
  obtain ⟨hruns, -, hdeclared, hdefinition⟩ := FunctionDraft.build_eq_ok.mp hbuild
  have hname := InputDeclaration.name_input ⟨mention.name, kind, details⟩
  have hfound : run.definition.input? (InputDeclaration.input ⟨mention.name, kind, details⟩).name =
      some (InputDeclaration.input ⟨mention.name, kind, details⟩) := by
    rw [← hdefinition] at hdeclared
    refine Definition.input?_name hdeclared.inputs_distinct ?_
    rw [hdefinition, FunctionDraft.definition, FunctionDraft.inputs_ofCalls]
    exact List.mem_filterMap.mpr ⟨_, hcall, rfl⟩
  refine { command := ?_, script := ?_, declared := hfound, bound := ?_ }
  · intro owner howner htext
    generalize run.body = body at hruns
    cases hruns with
    | command text hcommand _ =>
        rw [htext, Option.some.injEq] at hcommand
        rw [← hcommand, renamePlaceholders_trim, mention.renamePlaceholders_text howner, hname]
    | script _ hcommand _ =>
        rw [htext] at hcommand
        cases hcommand
  · intro owner howner htext
    generalize run.body = body at hruns
    cases hruns with
    | command _ _ hscript =>
        rw [htext] at hscript
        cases hscript
    | script text _ hscript =>
        rw [htext, Option.some.injEq] at hscript
        rw [← hscript, mention.renamePlaceholders_text howner, hname]
  · intro dag registry policy graph hgraph task htask htarget hrequired
    have hmem := List.mem_of_find?_eq_some hfound
    rw [← htarget] at hmem
    exact ((Dag.wellTyped_of_build hgraph).tasks task htask).required _ hmem hrequired

/-! ## An example -/

/-- A command that mentions an input with an underscore in its name. -/
def sayMention : Mention where
  before := "  say "
  lead := " "
  name := "a_b"
  trail := "\n"
  after := " > c.txt"
  unbraced_before := by simp [Unbraced]; decide
  blank_lead := by simp [Blank]; decide
  unbraced_name := by simp [Unbraced]; decide
  bare_name := ⟨by rintro c ⟨⟩; decide, by rintro c ⟨⟩; decide⟩
  blank_trail := by simp [Blank]; decide
  unbraced_after := by simp [Unbraced]; decide

def sayCalls : List FunctionCall :=
  [.input ⟨"a_b", .string, []⟩, .output ⟨"c", .string, [.path "c.txt"]⟩,
    .command "  say \x7b\x7b self.a_b\n\x7d\x7d > c.txt"]

def say : Function where
  definition :=
    { name := "say"
      kind := .function
      package := ⟨"tools", "1.0.0"⟩
      inputs := [{ name := "a-b", kind := .string }]
      outputs := [{ name := "c", kind := .string, path := some "c.txt" }] }
  body := .command "say \x7b\x7b inputs.a-b\n\x7d\x7d > c.txt"

/-- A DAG with a task that runs the function. -/
def greeting : Dag where
  id := 3
  definition := { name := "greet", kind := .dag, package := ⟨"daylight", "0.1.0"⟩ }
  tasks :=
    [{ name := "greet"
       template := ⟨"tools", "say"⟩
       arguments := [("a-b", .literal (.string "hello"))] }]
  outputs := []
  grouped := false

def greetingTask : GraphTask where
  name := "greet"
  template := "tools/say"
  target := say.definition
  arguments := [{ name := "a-b", source := .value (.string "hello") }]

set_option maxRecDepth 2000 in
theorem say_named_alike :
    (FunctionDraft.ofCalls "Say" ⟨"tools", "1.0.0"⟩ sayCalls).build = .ok say ∧
    renamePlaceholders (sayMention.text "self." "a_b") = sayMention.text "inputs." "a-b" ∧
    say.body = .command (trim (sayMention.text "inputs." "a-b")) ∧
    greeting.build { id := 1, templates := [.function say] } .infer =
      .ok { name := "greet", package := ⟨"daylight", "0.1.0"⟩, tasks := [greetingTask] } ∧
    ∃ argument ∈ greetingTask.arguments, argument.name = "a-b" := by
  have hbuild : (FunctionDraft.ofCalls "Say" ⟨"tools", "1.0.0"⟩ sayCalls).build = .ok say := by cbv
  have hgraph : greeting.build { id := 1, templates := [.function say] } .infer =
      .ok { name := "greet", package := ⟨"daylight", "0.1.0"⟩, tasks := [greetingTask] } := by cbv
  have hname : paramName "a_b" = "a-b" := by decide +kernel
  obtain ⟨htext, hnames⟩ := inputs_named_alike sayMention .string
  have halike := hnames [] "Say" ⟨"tools", "1.0.0"⟩ sayCalls say List.mem_cons_self hbuild
  have hrenamed := htext "self." List.mem_cons_self
  have hbody := halike.command "self." List.mem_cons_self rfl
  have hbound := halike.bound _ _ _ _ hgraph greetingTask List.mem_cons_self rfl rfl
  simp only [InputDeclaration.input, List.foldl_nil, Input.make, sayMention, hname]
    at hrenamed hbody hbound
  exact ⟨hbuild, hrenamed, hbody, hgraph, hbound⟩

end Recipe
