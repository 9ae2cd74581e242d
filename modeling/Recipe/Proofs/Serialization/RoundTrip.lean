import Recipe.Options
import Recipe.Pipeline
import Recipe.Report
import Recipe.Proofs.Serialization.Fields

/-!
# Reading what was written

Kinds, packages, keys, dependencies, options, handlers and reports are written as JSON values and
read from them. What was written is read as it was (`serialized_forms_read_back`), although parts
that are absent or empty may be left out, and although reading takes more forms than those that are
written.
-/

set_option autoImplicit false

namespace Recipe

namespace Json

/-! ## Forms -/

/-- **Reading and writing fit together.** What was written is read as it was. So whatever form a
value was read from, the form it is written in is one that is read as the same value, and writing it
once more changes nothing. -/
structure RoundTrips {α : Type} (read : Json → Option α) (write : α → Json) : Prop where
  read_write : ∀ value, read (write value) = some value
  read_rewritten : ∀ json value, read json = some value → read (write value) = some value
  rewritten : ∀ json other, (read json).map write = some other → (read other).map write = some other

theorem RoundTrips.of_read_write {α : Type} {read : Json → Option α} {write : α → Json}
    (h : ∀ value, read (write value) = some value) : RoundTrips read write where
  read_write := h
  read_rewritten := fun _ value _ => h value
  rewritten := by
    intro json other hother
    obtain ⟨value, -, rfl⟩ := Option.map_eq_some_iff.mp hother
    rw [h, Option.map_some]

theorem RoundTrips.injective {α : Type} {read : Json → Option α} {write : α → Json}
    (h : RoundTrips read write) : Function.Injective write := by
  intro value other hwritten
  have hread : some value = some other := by
    rw [← h.read_write value, ← h.read_write other, hwritten]
  exact Option.some.inj hread

/-! ## Choices -/

/-- The name of an alternative chooses it, if no other has that name. -/
theorem choice?_name {α : Type} {alternatives : List α} {nameOf : α → String}
    (hdistinct : (alternatives.map nameOf).Nodup) {alternative : α}
    (hmem : alternative ∈ alternatives) :
    (string (nameOf alternative)).choice? alternatives nameOf = some alternative := by
  show alternatives.find? (fun other => nameOf other == nameOf alternative) = some alternative
  obtain ⟨before, after, rfl⟩ := List.append_of_mem hmem
  rw [List.find?_append]
  have hbefore : before.find? (fun other => nameOf other == nameOf alternative) = none := by
    rw [List.find?_eq_none]
    intro other hother
    rw [List.map_append, List.map_cons] at hdistinct
    have hne := (List.nodup_append.mp hdistinct).2.2 (nameOf other) (List.mem_map_of_mem hother)
      (nameOf alternative) List.mem_cons_self
    simpa using hne
  rw [hbefore, List.find?_cons]
  simp

theorem roundTrips_choice {α : Type} {alternatives : List α} {nameOf : α → String}
    (hdistinct : (alternatives.map nameOf).Nodup)
    (hall : ∀ alternative, alternative ∈ alternatives) :
    RoundTrips (fun json => json.choice? alternatives nameOf)
      (fun alternative => string (nameOf alternative)) :=
  .of_read_write fun alternative => choice?_name hdistinct (hall alternative)

/-! ## Parts of records -/

namespace Record

variable {α : Type} {fields : List (String × Json)} {position : Nat} {name : String}
  {read : Json → Option α}

theorem required_named : (named fields).required position name read =
    (fields.lookup name).bind read := rfl

theorem withDefault_named {default : α} : (named fields).withDefault position name read default =
    (fields.lookup name).elim (some default) read := by
  have hfield : (named fields).field? position name = fields.lookup name := rfl
  unfold withDefault
  rw [hfield]
  cases fields.lookup name <;> rfl

end Record

/-- A text that is left out when it is absent is read as absent then. -/
theorem elim_optionalString? (text : Option String) :
    text.elim (some none) (optionalString? ∘ string) = some text := by
  cases text <;> rfl

theorem mapM_written {α β : Type} {read : β → Option α} {write : α → β}
    (h : ∀ value, read (write value) = some value) (values : List α) :
    (values.map write).mapM read = some values := by
  induction values with
  | nil => rfl
  | cons value rest ih => simp [List.mapM_cons, h, ih]

theorem strings?_strings (texts : List String) : strings? (strings texts) = some texts := by
  have htext : ∀ text, asString? (string text) = some text := fun _ => rfl
  exact mapM_written htext texts

/-- A list of texts that is left out when it is empty is read as empty then. -/
theorem elim_listUnlessEmpty_strings? (texts : List String) :
    (listUnlessEmpty (texts.map string)).elim (some []) strings? = some texts := by
  cases texts with
  | nil => rfl
  | cons text rest => exact strings?_strings (text :: rest)

end Json

open Json

/-! ## Kinds -/

theorem Kind.roundTrips : RoundTrips ofJson? toJson :=
  roundTrips_choice (by decide) fun kind => by cases kind <;> decide

theorem ArtifactKind.roundTrips : RoundTrips ofJson? toJson :=
  roundTrips_choice (by decide) fun kind => by cases kind <;> decide

theorem TemplateKind.roundTrips : RoundTrips ofJson? toJson :=
  roundTrips_choice (by decide) fun kind => by cases kind <;> decide

theorem DependencyKind.roundTrips : RoundTrips ofJson? toJson :=
  roundTrips_choice (by decide) fun kind => by cases kind <;> decide

theorem NeedsPolicy.roundTrips : RoundTrips ofJson? toJson :=
  roundTrips_choice (by decide) fun policy => by cases policy <;> decide

/-! ## Records -/

theorem PackageId.roundTrips : RoundTrips ofJson? toJson :=
  .of_read_write fun _ => rfl

theorem TemplateKey.roundTrips : RoundTrips ofJson? toJson :=
  .of_read_write fun _ => rfl

theorem PackageMetadata.roundTrips : RoundTrips ofJson? toJson := by
  refine .of_read_write fun metadata => ?_
  simp [ofJson?, toJson, record?, Record.required_named, Record.withDefault_named, asString?,
    List.lookup_append, elim_optionalString?, elim_listUnlessEmpty_strings?]

theorem Dependency.roundTrips : RoundTrips ofJson? toJson := by
  refine .of_read_write fun dependency => ?_
  simp [ofJson?, toJson, record?, Record.required_named, Record.withDefault_named, asString?,
    elim_optionalString?, DependencyKind.roundTrips.read_write]

theorem Options.roundTrips : RoundTrips ofJson? toJson := by
  refine .of_read_write fun options => ?_
  have hsource : optionalString? (orNull (options.dependencySource.map string)) =
      some options.dependencySource := by
    cases options.dependencySource <;> rfl
  simp [ofJson?, toJson, record?, Record.onlyHas, names, Record.withDefault_named, asString?,
    asBool?, hsource, NeedsPolicy.roundTrips.read_write]

theorem AliasHandler.index?_toNat (index : UInt32) : index? (integer index.toNat) = some index := by
  have hlt : index.toNat < UInt32.size := index.toNat_lt
  simp [index?, asNat?, hlt]

theorem AliasHandler.roundTrips : RoundTrips ofJson? toJson := by
  refine .of_read_write fun handler => ?_
  simp [ofJson?, toJson, record?, Record.required_named, Record.withDefault_named, asString?,
    index?_toNat]

theorem TaskOutcome.roundTrips : RoundTrips ofJson? toJson := by
  refine .of_read_write fun outcome => ?_
  simp [ofJson?, toJson, record?, Record.required_named, Record.withDefault_named, asString?,
    asBool?, elim_optionalString?]

theorem ExecutionReport.roundTrips : RoundTrips ofJson? toJson := by
  refine .of_read_write fun report => ?_
  have houtcomes : outcomes? (list (report.outcomes.map TaskOutcome.toJson)) =
      some report.outcomes :=
    mapM_written TaskOutcome.roundTrips.read_write report.outcomes
  simp [ofJson?, toJson, record?, Record.required_named, houtcomes]

/-! ## All of them -/

/-- **What was written is read as it was**, for every type that is both written and read: kinds of
inputs, outputs, artifacts, templates and dependencies, keys, dependencies, options and their needs
policy, packages and what is published about them, handlers, outcomes and reports. Whatever form a
value was read from, it is written in one that is read as the same value. -/
theorem serialized_forms_read_back :
    RoundTrips Kind.ofJson? Kind.toJson ∧ RoundTrips ArtifactKind.ofJson? ArtifactKind.toJson ∧
      RoundTrips TemplateKind.ofJson? TemplateKind.toJson ∧
      RoundTrips TemplateKey.ofJson? TemplateKey.toJson ∧
      RoundTrips DependencyKind.ofJson? DependencyKind.toJson ∧
      RoundTrips Dependency.ofJson? Dependency.toJson ∧
      RoundTrips NeedsPolicy.ofJson? NeedsPolicy.toJson ∧
      RoundTrips Options.ofJson? Options.toJson ∧ RoundTrips PackageId.ofJson? PackageId.toJson ∧
      RoundTrips PackageMetadata.ofJson? PackageMetadata.toJson ∧
      RoundTrips AliasHandler.ofJson? AliasHandler.toJson ∧
      RoundTrips TaskOutcome.ofJson? TaskOutcome.toJson ∧
      RoundTrips ExecutionReport.ofJson? ExecutionReport.toJson :=
  ⟨Kind.roundTrips, ArtifactKind.roundTrips, TemplateKind.roundTrips, TemplateKey.roundTrips,
    DependencyKind.roundTrips, Dependency.roundTrips, NeedsPolicy.roundTrips, Options.roundTrips,
    PackageId.roundTrips, PackageMetadata.roundTrips, AliasHandler.roundTrips,
    TaskOutcome.roundTrips, ExecutionReport.roundTrips⟩

end Recipe
