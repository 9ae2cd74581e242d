import Recipe.Proofs.Enrolment
import Recipe.Proofs.Spelling

/-!
# Templates under their printed names

A template has the key of the name it was declared with, and prints the name in it. Who looks it up
under the name that it prints spells that name again, and so finds the template exactly if its name
is spelled the same again: if the declared name is not jammed (`printed_names_found`).
-/

set_option autoImplicit false

namespace Recipe

/-! ## Keys of templates -/

/-- The template was built from a draft of a name, after some calls. -/
inductive Template.BuiltAs (name : String) : Template → Prop
  | function {package : PackageId} {calls : List FunctionCall} {run : Function}
      (h : (FunctionDraft.ofCalls name package calls).build = .ok run) :
      BuiltAs name (.function run)
  | dag {id : Nat} {package : PackageId} {calls : List DagCall} {dag : Dag}
      (h : (DagDraft.ofCalls id name package calls).build = .ok dag) : BuiltAs name (.dag dag)

theorem FunctionDraft.key_ofCalls (name : String) (package : PackageId)
    (calls : List FunctionCall) :
    (ofCalls name package calls).definition.key = TemplateKey.make package.name name := by
  refine ofCalls_keeps (fun draft => draft.definition.key) ?_ name package calls
  intro draft call
  cases call <;> rfl

theorem DagDraft.key_ofCalls (id : Nat) (name : String) (package : PackageId)
    (calls : List DagCall) :
    (ofCalls id name package calls).definition.key = TemplateKey.make package.name name := by
  refine ofCalls_keeps (fun draft => draft.definition.key) ?_ id name package calls
  intro draft call
  cases call <;> rfl

namespace Template

variable {template : Template} {name : String}

theorem Built.exists_builtAs (h : template.Built) : ∃ name, template.BuiltAs name := by
  cases h with
  | function h => exact ⟨_, .function h⟩
  | dag h => exact ⟨_, .dag h⟩

/-- **A template has the key of the name it was declared with.** -/
theorem BuiltAs.key_eq (h : template.BuiltAs name) :
    template.key = TemplateKey.make template.key.package name := by
  cases h with
  | @function package calls run hbuild =>
      obtain ⟨-, -, -, hdefinition⟩ := FunctionDraft.build_eq_ok.mp hbuild
      have hkey := FunctionDraft.key_ofCalls name package calls
      rw [← hdefinition] at hkey
      rw [key, definition, hkey]
      rfl
  | @dag id package calls dag hbuild =>
      obtain ⟨-, rfl⟩ := DagDraft.build_eq_ok.mp hbuild
      have hkey := DagDraft.key_ofCalls id name package calls
      rw [key, definition, hkey]
      rfl

end Template

/-! ## Keys that are made again -/

/-- A key is the same when it is made again from the name in it, exactly if the name is spelled the
same again. -/
theorem TemplateKey.make_make_eq_iff {package name : String} :
    make package (make package name).name = make package name ↔ ¬ Jammed name := by
  rw [← templateName_templateName_eq_iff]
  simp [make]

theorem Template.BuiltAs.make_eq_key_iff {template : Template} {name : String}
    (h : template.BuiltAs name) :
    TemplateKey.make template.key.package template.key.name = template.key ↔ ¬ Jammed name := by
  have hiff : TemplateKey.make template.key.package
      (TemplateKey.make template.key.package name).name =
      TemplateKey.make template.key.package name ↔ ¬ Jammed name := TemplateKey.make_make_eq_iff
  rwa [← h.key_eq] at hiff

/-- In a registry that holds what it accepted, only the template's own key leads to it. -/
theorem Enrolment.Holds.get_eq_ok_iff {registry : Registry} {accepted : List Template}
    (h : Holds registry accepted) {template : Template} (hmem : template ∈ accepted)
    {key : TemplateKey} : registry.get key = .ok template ↔ key = template.key := by
  rw [h.get_iff]
  exact ⟨fun hkey => hkey.2.symm, fun hkey => ⟨hmem, hkey.symm⟩⟩

/-- **Which names stay the same when they are spelled again.** The name of a template does, and so
does its key, exactly if the name it was declared with has no capital without a lowercase letter
directly behind one that has one; then and only then a registered template is found again under the
name that it prints. Spelled twice, every name stays the same. -/
theorem printed_names_found (name : String) :
    (templateName (templateName name) = templateName name ↔ ¬ Jammed name) ∧
    templateName (templateName (templateName name)) = templateName (templateName name) ∧
    (∀ package, TemplateKey.make package (TemplateKey.make package name).name =
      TemplateKey.make package name ↔ ¬ Jammed name) ∧
    (∀ template : Template, template.BuiltAs name →
      (TemplateKey.make template.key.package template.key.name = template.key ↔ ¬ Jammed name)) ∧
    ∀ requests registry, ∀ template ∈ Enrolment.accepted requests registry,
      (∃ declared, template.BuiltAs declared) ∧ (template.BuiltAs name →
        (((Enrolment.after requests).registry registry).get
          (TemplateKey.make template.key.package template.key.name) = .ok template ↔
            ¬ Jammed name)) := by
  refine ⟨templateName_templateName_eq_iff, ?_, fun package => TemplateKey.make_make_eq_iff,
    fun template h => h.make_eq_key_iff, ?_⟩
  · exact templateName_templateName_eq_iff.mpr (not_jammed_templateName name)
  · intro requests registry template hmem
    have hbuilt := (Enrolment.sound_after requests).accepted_built registry template hmem
    refine ⟨hbuilt.exists_builtAs, fun h => ?_⟩
    rw [(Enrolment.holds_after requests registry).get_eq_ok_iff hmem, h.make_eq_key_iff]

/-! ## Examples -/

/-- The calls that declare a function which prints the date. -/
def dateCalls : List FunctionCall :=
  [.output ⟨"date", .string, [.path "date.txt"]⟩, .command "date"]

def dateFunction (name : String) : Function where
  definition :=
    { name
      kind := .function
      package := ⟨"tools", "1.0.0"⟩
      outputs := [{ name := "date", kind := .string, path := some "date.txt" }] }
  body := .command "date"

/-- The requests that build and register it. -/
def dateRequests (name : String) : List Enrolment.Request :=
  [.buildFunction name ⟨"tools", "1.0.0"⟩ dateCalls, .register "main" 0]

theorem build_date (name : String) :
    (FunctionDraft.ofCalls name ⟨"tools", "1.0.0"⟩ dateCalls).build =
      .ok (dateFunction (templateName name)) := by
  -- the calls do not look at the name, so it need not be spelled
  have hnamed : ∀ canonical : String, (dateCalls.foldl FunctionDraft.call
      { name := canonical, package := ⟨"tools", "1.0.0"⟩ }).build =
        .ok (dateFunction canonical) := by
    intro canonical
    cbv
  exact hnamed (templateName name)

theorem accepted_date (name : String) : Enrolment.accepted (dateRequests name) "main" =
    [.function (dateFunction (templateName name))] := by
  simp only [Enrolment.accepted, Enrolment.run, dateRequests, List.foldl, Enrolment.Request.perform,
    build_date]
  rfl

theorem printDate_found :
    Template.BuiltAs "PrintDate" (.function (dateFunction (templateName "PrintDate"))) ∧
    .function (dateFunction (templateName "PrintDate")) ∈
      Enrolment.accepted (dateRequests "PrintDate") "main" ∧
    templateName "PrintDate" = "print-date" ∧
    TemplateKey.make "tools" "print-date" = ⟨"tools", "print-date"⟩ ∧
    ((Enrolment.after (dateRequests "PrintDate")).registry "main").get
      (TemplateKey.make "tools" "print-date") = .ok (.function (dateFunction "print-date")) := by
  have hname : templateName "PrintDate" = "print-date" := by decide +kernel
  have hbuilt := Template.BuiltAs.function (build_date "PrintDate")
  have hmem : .function (dateFunction (templateName "PrintDate")) ∈
      Enrolment.accepted (dateRequests "PrintDate") "main" := by
    rw [accepted_date]
    exact List.mem_cons_self
  obtain ⟨hsettled, -, -, hkeys, hfound⟩ := printed_names_found "PrintDate"
  have hjammed : ¬ Jammed "PrintDate" := hsettled.mp (by decide +kernel)
  have hkey := (hkeys _ hbuilt).mpr hjammed
  have hget := ((hfound _ _ _ hmem).2 hbuilt).mpr hjammed
  refine ⟨hbuilt, hmem, hname, ?_, ?_⟩
  · rw [hname] at hkey
    exact hkey
  · rw [hname] at hget
    exact hget

set_option maxRecDepth 10000 in
/-- A capital without a lowercase letter starts a word of its own when the name is spelled again,
and so the template is not found under the name that it prints. -/
theorem pde_lost :
    templateName "PDEℂ" = "pdeℂ" ∧ templateName "pdeℂ" = "pde-ℂ" ∧
    .function (dateFunction "pdeℂ") ∈ Enrolment.accepted (dateRequests "PDEℂ") "main" ∧
    ((Enrolment.after (dateRequests "PDEℂ")).registry "main").get
      (TemplateKey.make "tools" "pdeℂ") =
        .error (.invalidTemplate "tools/pde-ℂ" .notRegistered) := by
  have hname : templateName "PDEℂ" = "pdeℂ" := by decide +kernel
  refine ⟨hname, by decide +kernel, ?_, by cbv⟩
  rw [accepted_date, hname]
  exact List.mem_cons_self

end Recipe
