import Recipe.Pipeline
import Recipe.Proofs.Outcome
import Recipe.Proofs.Serialization.Comparison
import Recipe.Proofs.Serialization.RoundTrip

/-!
# Pipelines are written without loss

Two pipelines that are written alike are alike in everything but the packages of their graphs and
the targets of their tasks, which are not written (`written_alike`). The written values may be
compared exactly or by the data they hold, and the values inside the pipelines are compared in the
same way.
-/

set_option autoImplicit false

namespace Recipe

open Json (Comparison optionRel_eq optionRel_of_map eq_of_optionRel_map)

attribute [ext] AliasHandler Alias Input Output BoundArgument TaskReturn GraphOutput PackageMetadata
  Dependency

variable {R : Json → Json → Prop}

/-! ## Likeness -/

/-- Two aliases are alike under a comparison of values. -/
structure Alias.Alike (R : Json → Json → Prop) (entry other : Alias) : Prop where
  name : entry.name = other.name
  kind : entry.kind = other.kind
  platforms : entry.platforms = other.platforms
  handlers : entry.handlers = other.handlers
  description : entry.description = other.description
  default : Option.Rel R entry.default other.default
  annotations : R (.object entry.annotations) (.object other.annotations)

structure Input.Alike (R : Json → Json → Prop) (input other : Input) : Prop where
  name : input.name = other.name
  kind : input.kind = other.kind
  description : input.description = other.description
  default : Option.Rel R input.default other.default
  required : input.required = other.required
  path : input.path = other.path
  schema : Option.Rel R input.schema other.schema
  extensions : input.extensions = other.extensions
  items : input.items = other.items
  aliases : List.Forall₂ (Alias.Alike R) input.aliases other.aliases
  annotations : R (.object input.annotations) (.object other.annotations)

structure Output.Alike (R : Json → Json → Prop) (output other : Output) : Prop where
  name : output.name = other.name
  kind : output.kind = other.kind
  description : output.description = other.description
  required : output.required = other.required
  path : output.path = other.path
  items : output.items = other.items
  aliases : List.Forall₂ (Alias.Alike R) output.aliases other.aliases
  annotations : R (.object output.annotations) (.object other.annotations)

/-- Two references are alike: they are equal, or both are literals with comparable values. -/
def Reference.Alike (R : Json → Json → Prop) : Reference → Reference → Prop
  | value literal, value other => R literal other
  | reference, other => reference = other

structure BoundArgument.Alike (R : Json → Json → Prop) (argument other : BoundArgument) : Prop where
  name : argument.name = other.name
  source : argument.source.Alike R other.source
  subPath : argument.subPath = other.subPath

/-- Two tasks are alike in everything but their targets. -/
structure GraphTask.Alike (R : Json → Json → Prop) (task other : GraphTask) : Prop where
  name : task.name = other.name
  template : task.template = other.template
  arguments : List.Forall₂ (BoundArgument.Alike R) task.arguments other.arguments
  returns : task.returns = other.returns
  needs : task.needs = other.needs
  loop : Option.Rel (Reference.Alike R) task.loop other.loop
  subFolder : task.subFolder = other.subFolder
  annotations : R (.object task.annotations) (.object other.annotations)

structure GraphOutput.Alike (R : Json → Json → Prop) (output other : GraphOutput) : Prop where
  spec : output.spec.Alike R other.spec
  source : output.source.Alike R other.source

/-- Two graphs are alike in everything but their packages and the targets of their tasks. -/
structure Graph.Alike (R : Json → Json → Prop) (graph other : Graph) : Prop where
  name : graph.name = other.name
  inputs : List.Forall₂ (Input.Alike R) graph.inputs other.inputs
  tasks : List.Forall₂ (GraphTask.Alike R) graph.tasks other.tasks
  outputs : List.Forall₂ (GraphOutput.Alike R) graph.outputs other.outputs
  annotations : R (.object graph.annotations) (.object other.annotations)

/-- Two pipelines are alike in everything but the packages of their graphs and the targets of their
tasks. -/
structure Pipeline.Alike (R : Json → Json → Prop) (pipeline other : Pipeline) : Prop where
  metadata : pipeline.metadata = other.metadata
  dependencies : pipeline.dependencies = other.dependencies
  flow : List.Forall₂ (Graph.Alike R) pipeline.flow other.flow

/-! ## What written values say -/

def Reference.tag : Reference → String
  | value _ => "value"
  | artifact _ _ => "value-artifact"
  | input _ _ => "input"
  | output _ _ _ => "task"
  | item _ => "item"

theorem Reference.field?_type (reference : Reference) :
    reference.toJson.field? "type" = some (.string reference.tag) := by
  cases reference <;> simp [toJson, tag, Json.field?]

section Written

variable (hR : Comparison R)

include hR

theorem Kind.eq_of_toJson (kind other : Kind) (h : R kind.toJson other.toJson) : kind = other :=
  Kind.roundTrips.injective (congrArg Json.string (hR.string h))

theorem ArtifactKind.eq_of_toJson (kind other : ArtifactKind) (h : R kind.toJson other.toJson) :
    kind = other :=
  ArtifactKind.roundTrips.injective (congrArg Json.string (hR.string h))

theorem DependencyKind.eq_of_toJson (kind other : DependencyKind)
    (h : R kind.toJson other.toJson) : kind = other :=
  DependencyKind.roundTrips.injective (congrArg Json.string (hR.string h))

theorem AliasHandler.eq_of_toJson (handler other : AliasHandler)
    (h : R handler.toJson other.toJson) : handler = other := by
  have hfield := hR.field h
  simp only [toJson, Json.field?] at hfield
  have hlanguage := hR.string (by simpa using hfield "language")
  have hmodule := hR.string (by simpa using hfield "module")
  have hfunction := hR.string (by simpa using hfield "function")
  have hindex := hR.integer (by simpa using hfield "index")
  exact AliasHandler.ext hlanguage hmodule hfunction (UInt32.toNat_inj.mp (Int.ofNat.inj hindex))

theorem Alias.alike_of_toJson (entry other : Alias) (h : R entry.toJson other.toJson) :
    entry.Alike R other := by
  have hfield := hR.field h
  simp only [toJson, Json.field?, List.lookup_append] at hfield
  exact
    { name := hR.string (by simpa using hfield "name")
      kind := Kind.eq_of_toJson hR _ _ (by simpa using hfield "kind")
      platforms := hR.eq_of_strings (by simpa using hfield "platform")
      handlers := hR.eq_of_map (AliasHandler.eq_of_toJson hR) (by simpa using hfield "handler")
      description := hR.eq_of_optionalString (by simpa using hfield "description")
      default := by simpa using hfield "default"
      annotations := hR.object_of_objectUnlessEmpty (by simpa using hfield "annotations") }

theorem Input.alike_of_toJson (input other : Input) (h : R input.toJson other.toJson) :
    input.Alike R other := by
  have hfield := hR.field h
  simp only [toJson, Json.field?, List.lookup_append] at hfield
  exact
    { name := hR.string (by simpa using hfield "name")
      kind := Kind.eq_of_toJson hR _ _ (by simpa using hfield "kind")
      description := hR.eq_of_optionalString (by simpa using hfield "description")
      default := by simpa using hfield "default"
      required := hR.bool (by simpa using hfield "required")
      path := hR.eq_of_optionalString (by simpa using hfield "path")
      schema := by simpa using hfield "spec"
      extensions :=
        hR.eq_of_listUnlessEmpty (fun _ _ => hR.string) (by simpa using hfield "extensions")
      items := eq_of_optionRel_map (Kind.eq_of_toJson hR) (by simpa using hfield "items_type")
      aliases :=
        hR.forall₂_of_listUnlessEmpty (Alias.alike_of_toJson hR) (by simpa using hfield "alias")
      annotations := hR.object_of_objectUnlessEmpty (by simpa using hfield "annotations") }

/-- The fields of an output say all about it, also among other fields. -/
theorem Output.alike_of_jsonFields {output other : Output}
    (hfield : ∀ name ≠ "from",
      Option.Rel R (output.jsonFields.lookup name) (other.jsonFields.lookup name)) :
    output.Alike R other := by
  simp only [jsonFields, List.lookup_append] at hfield
  exact
    { name := hR.string (by simpa using hfield "name" (by decide))
      kind := Kind.eq_of_toJson hR _ _ (by simpa using hfield "kind" (by decide))
      description := hR.eq_of_optionalString (by simpa using hfield "description" (by decide))
      required := hR.bool (by simpa using hfield "required" (by decide))
      path := hR.eq_of_optionalString (by simpa using hfield "path" (by decide))
      items :=
        eq_of_optionRel_map (Kind.eq_of_toJson hR) (by simpa using hfield "items_type" (by decide))
      aliases :=
        hR.forall₂_of_listUnlessEmpty (Alias.alike_of_toJson hR)
          (by simpa using hfield "alias" (by decide))
      annotations :=
        hR.object_of_objectUnlessEmpty (by simpa using hfield "annotations" (by decide)) }

theorem Reference.alike_of_toJson (reference other : Reference)
    (h : R reference.toJson other.toJson) : reference.Alike R other := by
  have hfield := hR.field h
  have htag : reference.tag = other.tag := by
    have htype := hfield "type"
    rw [Reference.field?_type, Reference.field?_type, Option.rel_some_some] at htype
    exact hR.string htype
  cases reference with
  | value literal =>
      cases other with
      | value other =>
          have hliteral : R literal other := by simpa [toJson, Json.field?] using hfield "value"
          exact hliteral
      | _ => exact absurd htag (by simp [tag])
  | artifact kind path =>
      cases other with
      | artifact otherKind otherPath =>
          simp only [toJson, Json.field?] at hfield
          have hkind := ArtifactKind.eq_of_toJson hR kind otherKind (by simpa using hfield "kind")
          have hpath : path = otherPath := hR.string (by simpa using hfield "path")
          rw [hkind, hpath]
          rfl
      | _ => exact absurd htag (by simp [tag])
  | input name kind =>
      cases other with
      | input otherName otherKind =>
          simp only [toJson, Json.field?] at hfield
          have hname : name = otherName := hR.string (by simpa using hfield "variable")
          have hkind : kind = otherKind :=
            eq_of_optionRel_map (ArtifactKind.eq_of_toJson hR) (by simpa using hfield "artifact")
          rw [hname, hkind]
          rfl
      | _ => exact absurd htag (by simp [tag])
  | output task name kind =>
      cases other with
      | output otherTask otherName otherKind =>
          simp only [toJson, Json.field?] at hfield
          have htask : task = otherTask := hR.string (by simpa using hfield "name")
          have hname : name = otherName := hR.string (by simpa using hfield "variable")
          have hkind : kind = otherKind :=
            eq_of_optionRel_map (ArtifactKind.eq_of_toJson hR) (by simpa using hfield "artifact")
          rw [htask, hname, hkind]
          rfl
      | _ => exact absurd htag (by simp [tag])
  | item field =>
      cases other with
      | item other =>
          have hitem : field = other :=
            hR.eq_of_optionalString (by simpa [toJson, Json.field?] using hfield "variable")
          rw [hitem]
          rfl
      | _ => exact absurd htag (by simp [tag])

theorem BoundArgument.alike_of_toJson (argument other : BoundArgument)
    (h : R argument.toJson other.toJson) : argument.Alike R other := by
  have hfield := hR.field h
  simp only [toJson, Json.field?] at hfield
  exact
    { name := hR.string (by simpa using hfield "name")
      source := Reference.alike_of_toJson hR _ _ (by simpa using hfield "from")
      subPath := hR.eq_of_optionalString (by simpa using hfield "sub_path") }

theorem TaskReturn.eq_of_toJson (ret other : TaskReturn) (h : R ret.toJson other.toJson) :
    ret = other := by
  have hfield := hR.field h
  simp only [toJson, Json.field?, List.lookup_append] at hfield
  have hname := hR.string (by simpa using hfield "name")
  have hdescription := hR.eq_of_optionalString (by simpa using hfield "description")
  have hpath := hR.eq_of_optionalString (by simpa using hfield "path")
  have hartifact := hR.bool (by simpa using hfield "artifact")
  exact TaskReturn.ext hname hdescription hpath hartifact

theorem GraphTask.alike_of_toJson (task other : GraphTask) (h : R task.toJson other.toJson) :
    task.Alike R other := by
  have hfield := hR.field h
  simp only [toJson, Json.field?, List.lookup_append] at hfield
  exact
    { name := hR.string (by simpa using hfield "name")
      template := hR.string (by simpa using hfield "template")
      arguments :=
        hR.forall₂_of_map (BoundArgument.alike_of_toJson hR) (by simpa using hfield "arguments")
      returns :=
        hR.eq_of_listUnlessEmpty (TaskReturn.eq_of_toJson hR) (by simpa using hfield "returns")
      needs := hR.eq_of_listUnlessEmpty (fun _ _ => hR.string) (by simpa using hfield "needs")
      loop := optionRel_of_map (Reference.alike_of_toJson hR) (by simpa using hfield "loop")
      subFolder := hR.eq_of_optionalString (by simpa using hfield "sub_folder")
      annotations := hR.object_of_objectUnlessEmpty (by simpa using hfield "annotations") }

theorem GraphOutput.alike_of_toJson (output other : GraphOutput)
    (h : R output.toJson other.toJson) : output.Alike R other := by
  have hfield := hR.field h
  simp only [toJson, Json.field?, List.lookup_append] at hfield
  have hspec : ∀ name ≠ "from",
      Option.Rel R (output.spec.jsonFields.lookup name) (other.spec.jsonFields.lookup name) := by
    intro name hname
    simpa [hname] using hfield name
  have hfrom : ∀ spec : Output, spec.jsonFields.lookup "from" = none := by
    intro spec
    simp [Output.jsonFields, List.lookup_append]
  exact
    { spec := Output.alike_of_jsonFields hR hspec
      source := Reference.alike_of_toJson hR _ _ (by simpa [hfrom] using hfield "from") }

theorem Graph.alike_of_toJson (graph other : Graph) (h : R graph.toJson other.toJson) :
    graph.Alike R other := by
  have hfield := hR.field h
  simp only [toJson, Json.field?, List.lookup_append] at hfield
  exact
    { name := hR.string (by simpa using hfield "name")
      inputs :=
        hR.forall₂_of_listUnlessEmpty (Input.alike_of_toJson hR) (by simpa using hfield "inputs")
      tasks := hR.forall₂_of_map (GraphTask.alike_of_toJson hR) (by simpa using hfield "tasks")
      outputs :=
        hR.forall₂_of_listUnlessEmpty (GraphOutput.alike_of_toJson hR)
          (by simpa using hfield "outputs")
      annotations := hR.object_of_objectUnlessEmpty (by simpa using hfield "annotations") }

theorem PackageMetadata.eq_of_toJson (metadata other : PackageMetadata)
    (h : R metadata.toJson other.toJson) : metadata = other := by
  have hfield := hR.field h
  simp only [toJson, Json.field?, List.lookup_append] at hfield
  have hname := hR.string (by simpa using hfield "name")
  have htag := hR.string (by simpa using hfield "tag")
  have howner := hR.eq_of_optionalString (by simpa using hfield "owner")
  have hlicense := hR.eq_of_optionalString (by simpa using hfield "license")
  have hkeywords :=
    hR.eq_of_listUnlessEmpty (fun _ _ => hR.string) (by simpa using hfield "keywords")
  exact PackageMetadata.ext hname htag howner hlicense hkeywords

theorem Dependency.eq_of_toJson (dependency other : Dependency)
    (h : R dependency.toJson other.toJson) : dependency = other := by
  have hfield := hR.field h
  simp only [toJson, Json.field?, List.lookup_append] at hfield
  have hkind := DependencyKind.eq_of_toJson hR _ _ (by simpa using hfield "kind")
  have hname := hR.string (by simpa using hfield "name")
  have htag := hR.string (by simpa using hfield "tag")
  have hsource := hR.eq_of_optionalString (by simpa using hfield "source")
  exact Dependency.ext hkind hname htag hsource

theorem Pipeline.alike_of_toJson (pipeline other : Pipeline)
    (h : R pipeline.toJson other.toJson) : pipeline.Alike R other := by
  have hfield := hR.field h
  simp only [toJson, Json.field?] at hfield
  exact
    { metadata := PackageMetadata.eq_of_toJson hR _ _ (by simpa using hfield "metadata")
      dependencies :=
        hR.eq_of_map (Dependency.eq_of_toJson hR) (by simpa using hfield "dependencies")
      flow := hR.forall₂_of_map (Graph.alike_of_toJson hR) (by simpa using hfield "flow") }

end Written

/-! ## Exact likeness -/

@[simp] theorem Alias.alike_eq : Alias.Alike Eq = Eq := by
  funext entry other
  refine propext ⟨?_, ?_⟩
  · intro h
    exact Alias.ext h.name h.kind h.platforms h.handlers h.description (optionRel_eq.mp h.default)
      (Json.object.inj h.annotations)
  · rintro rfl
    exact ⟨rfl, rfl, rfl, rfl, rfl, optionRel_eq.mpr rfl, rfl⟩

@[simp] theorem Input.alike_eq : Input.Alike Eq = Eq := by
  funext input other
  refine propext ⟨?_, ?_⟩
  · intro h
    have haliases : input.aliases = other.aliases := by simpa using h.aliases
    exact Input.ext h.name h.kind h.description (optionRel_eq.mp h.default) h.required h.path
      (optionRel_eq.mp h.schema) h.extensions h.items haliases (Json.object.inj h.annotations)
  · rintro rfl
    exact ⟨rfl, rfl, rfl, optionRel_eq.mpr rfl, rfl, rfl, optionRel_eq.mpr rfl, rfl, rfl,
      by simp, rfl⟩

@[simp] theorem Output.alike_eq : Output.Alike Eq = Eq := by
  funext output other
  refine propext ⟨?_, ?_⟩
  · intro h
    have haliases : output.aliases = other.aliases := by simpa using h.aliases
    exact Output.ext h.name h.kind h.description h.required h.path h.items haliases
      (Json.object.inj h.annotations)
  · rintro rfl
    exact ⟨rfl, rfl, rfl, rfl, rfl, rfl, by simp, rfl⟩

@[simp] theorem Reference.alike_eq : Reference.Alike Eq = Eq := by
  funext reference other
  cases reference <;> cases other <;> simp [Alike]

@[simp] theorem BoundArgument.alike_eq : BoundArgument.Alike Eq = Eq := by
  funext argument other
  refine propext ⟨?_, ?_⟩
  · intro h
    have hsource : argument.source = other.source := by simpa using h.source
    exact BoundArgument.ext h.name hsource h.subPath
  · rintro rfl
    exact ⟨rfl, by simp, rfl⟩

@[simp] theorem GraphOutput.alike_eq : GraphOutput.Alike Eq = Eq := by
  funext output other
  refine propext ⟨?_, ?_⟩
  · intro h
    have hspec : output.spec = other.spec := by simpa using h.spec
    have hsource : output.source = other.source := by simpa using h.source
    exact GraphOutput.ext hspec hsource
  · rintro rfl
    exact ⟨by simp, by simp⟩

theorem GraphTask.Alike.toJson_eq {task other : GraphTask} (h : task.Alike Eq other) :
    task.toJson = other.toJson := by
  have harguments : task.arguments = other.arguments := by simpa using h.arguments
  have hloop : task.loop = other.loop := by simpa [optionRel_eq] using h.loop
  have hannotations := Json.object.inj h.annotations
  simp only [toJson, h.name, h.template, harguments, h.returns, h.needs, hloop, h.subFolder,
    hannotations]

theorem Graph.Alike.toJson_eq {graph other : Graph} (h : graph.Alike Eq other) :
    graph.toJson = other.toJson := by
  have hinputs : graph.inputs = other.inputs := by simpa using h.inputs
  have htasks : other.tasks.map GraphTask.toJson = graph.tasks.map GraphTask.toJson :=
    map_eq_of_forall₂ (fun _ _ htask => htask.toJson_eq.symm) h.tasks
  have houtputs : graph.outputs = other.outputs := by simpa using h.outputs
  have hannotations := Json.object.inj h.annotations
  simp only [toJson, h.name, hinputs, htasks, houtputs, hannotations]

theorem Pipeline.Alike.toJson_eq {pipeline other : Pipeline} (h : pipeline.Alike Eq other) :
    pipeline.toJson = other.toJson := by
  have hflow : other.flow.map Graph.toJson = pipeline.flow.map Graph.toJson :=
    map_eq_of_forall₂ (fun _ _ hgraph => hgraph.toJson_eq.symm) h.flow
  simp only [toJson, h.metadata, h.dependencies, hflow]

/-! ## No loss -/

/-- **Pipelines are written without loss.** Pipelines that are written as the same data are alike in
everything but what is not written, the packages of their graphs and the targets of their tasks; the
values inside them are compared as data as well. They are written exactly alike if and only if they
are exactly alike. So no two references, aliases, inputs, outputs, bound arguments, returns or
outputs of graphs are written alike. -/
theorem written_alike :
    (∀ pipeline other : Pipeline,
        pipeline.toJson.same other.toJson = true → pipeline.Alike (·.same ·) other) ∧
      (∀ pipeline other : Pipeline,
        pipeline.toJson = other.toJson ↔ pipeline.Alike Eq other) ∧
      Function.Injective Reference.toJson ∧ Function.Injective Alias.toJson ∧
      Function.Injective Input.toJson ∧ Function.Injective Output.toJson ∧
      Function.Injective BoundArgument.toJson ∧ Function.Injective TaskReturn.toJson ∧
      Function.Injective GraphOutput.toJson := by
  have hEq := Json.comparison_eq
  refine ⟨Pipeline.alike_of_toJson Json.comparison_same, ?_, ?_, ?_, ?_, ?_, ?_, ?_, ?_⟩
  · intro pipeline other
    exact ⟨Pipeline.alike_of_toJson hEq pipeline other, Pipeline.Alike.toJson_eq⟩
  · intro reference other h
    simpa using Reference.alike_of_toJson hEq reference other h
  · intro entry other h
    simpa using Alias.alike_of_toJson hEq entry other h
  · intro input other h
    simpa using Input.alike_of_toJson hEq input other h
  · intro output other h
    have hfield := hEq.field h
    simpa using Output.alike_of_jsonFields hEq fun name _ => hfield name
  · intro argument other h
    simpa using BoundArgument.alike_of_toJson hEq argument other h
  · exact TaskReturn.eq_of_toJson hEq
  · intro output other h
    simpa using GraphOutput.alike_of_toJson hEq output other h

/-- A pipeline of one task, which draws in a style. -/
def drawing (target : Definition) (style : Json) : Pipeline where
  metadata := { name := "sketches", tag := "1.0.0" }
  flow := [{
    name := "main"
    package := target.package
    tasks := [{
      name := "draw"
      template := "pens/draw"
      target
      arguments := [{ name := "style", source := .value style }] }] }]

/-- A style with its fields in another order, for a target of another tag. -/
theorem drawing_alike :
    (drawing { name := "draw", kind := .function, package := ⟨"pens", "1.0.0"⟩ }
        (.object [("color", .string "red"), ("width", .integer 2)])).Alike (·.same ·)
      (drawing { name := "draw", kind := .function, package := ⟨"pens", "2.0.0"⟩ }
        (.object [("width", .integer 2), ("color", .string "red")])) :=
  written_alike.1 _ _ (by decide +kernel)

end Recipe
