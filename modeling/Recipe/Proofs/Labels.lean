import Recipe.Proofs.Dependencies

/-!
# Labels

The label of a task is all that a pipeline shows of the template which the task runs. Functions,
DAGs of the package and DAGs of other packages have labels of three formats, and what the names of
packages and templates are is free. So one label may stand for two templates, but only if the names
were chosen for it (`shares_label_iff`).
-/

set_option autoImplicit false

namespace Recipe

/-! ## Texts of keys -/

namespace TemplateKey

variable {key other : TemplateKey}

/-- The package of another key ends at a later slash of the same text. -/
def RunsInto (key other : TemplateKey) : Prop :=
  ∃ middle, other.package = key.package ++ "/" ++ middle ∧ key.name = middle ++ "/" ++ other.name

theorem toList_text (key : TemplateKey) :
    key.text.toList = key.package.toList ++ '/' :: key.name.toList := by
  have htext : key.text = key.package ++ "/" ++ key.name := rfl
  rw [htext, String.toList_append, String.toList_append, List.append_assoc]
  rfl

theorem RunsInto.text_eq (h : key.RunsInto other) : key.text = other.text := by
  obtain ⟨middle, hpackage, hname⟩ := h
  calc key.text = key.package ++ "/" ++ key.name := rfl
    _ = key.package ++ "/" ++ (middle ++ "/" ++ other.name) := by rw [hname]
    _ = key.package ++ "/" ++ middle ++ "/" ++ other.name := by simp only [String.append_assoc]
    _ = other.package ++ "/" ++ other.name := by rw [hpackage]

/-- Where the package of one key goes on behind that of another, they are the same up to there, or a
slash is in between. -/
theorem eq_or_runsInto {rest : List Char}
    (hpackage : other.package.toList = key.package.toList ++ rest)
    (hname : '/' :: key.name.toList = rest ++ '/' :: other.name.toList) :
    key = other ∨ key.RunsInto other := by
  cases rest with
  | nil =>
      rw [List.append_nil, String.toList_inj] at hpackage
      rw [List.nil_append, List.cons.injEq, String.toList_inj] at hname
      exact Or.inl (congrArg₂ TemplateKey.mk hpackage.symm hname.2)
  | cons slash middle =>
      rw [List.cons_append, List.cons.injEq] at hname
      obtain ⟨rfl, hname⟩ := hname
      right
      refine ⟨String.ofList middle, ?_, ?_⟩
      · rw [← String.toList_inj, hpackage]
        simp
      · rw [← String.toList_inj, hname]
        simp

/-- **Two keys have one text exactly if they are equal or one runs into the other.** -/
theorem text_eq_iff :
    key.text = other.text ↔ key = other ∨ key.RunsInto other ∨ other.RunsInto key := by
  constructor
  · intro h
    rw [← String.toList_inj, toList_text, toList_text] at h
    rcases List.append_eq_append_iff.mp h with ⟨rest, hpackage, hname⟩ | ⟨rest, hpackage, hname⟩
    · rcases eq_or_runsInto hpackage hname with heq | hruns
      · exact Or.inl heq
      · exact Or.inr (Or.inl hruns)
    · rcases eq_or_runsInto hpackage hname with heq | hruns
      · exact Or.inl heq.symm
      · exact Or.inr (Or.inr hruns)
  · rintro (rfl | h | h)
    · rfl
    · exact h.text_eq
    · exact h.text_eq.symm

end TemplateKey

/-! ## Labels of targets -/

namespace Definition

variable {registry : Registry} {package : PackageId} {target other : Definition}

/-- Two targets are one template, or DAGs of other packages that have one name. -/
def Alike (package : PackageId) (target other : Definition) : Prop :=
  target = other ∨ target.route package = .recipe ∧ other.route package = .recipe ∧
    target.package.name = other.package.name

/-- The name of one target makes up for what its label leaves out of the name of the other. -/
inductive Collides (package : PackageId) (target other : Definition) : Prop
  /-- One function has a slash in its name, and the other one in that of its package. -/
  | functions (h : target.route package = .plugin) (hother : other.route package = .plugin)
      (hruns : target.key.RunsInto other.key)
  /-- The name of a DAG of the package is that of a function with its package. -/
  | functionAndNested (h : target.route package = .plugin) (hother : other.route package = .nested)
      (hname : other.name = target.key.text)
  /-- The name of another package of which a DAG is run is that of a function with its package. -/
  | functionAndRecipe (h : target.route package = .plugin) (hother : other.route package = .recipe)
      (hname : other.package.name = target.key.text)
  /-- A DAG of the package has the name of another package of which a DAG is run. -/
  | nestedAndRecipe (h : target.route package = .nested) (hother : other.route package = .recipe)
      (hname : other.package.name = target.name)

/-- What a label is made of goes by the way on which its target becomes part of the pipeline. -/
theorem label_eq (target : Definition) (package : PackageId) :
    TargetedTask.label target package =
      match target.route package with
      | .plugin => target.key.text
      | .nested => target.name
      | .recipe => target.package.name := by
  unfold TargetedTask.label route
  cases target.kind with
  | function => rfl
  | dag =>
      by_cases hpackage : target.package = package
      · simp only [if_pos hpackage]
      · simp only [if_neg hpackage]

theorem label_plugin (h : target.route package = .plugin) :
    TargetedTask.label target package = target.key.text := by
  rw [label_eq, h]

theorem label_nested (h : target.route package = .nested) :
    TargetedTask.label target package = target.name := by
  rw [label_eq, h]

theorem label_recipe (h : target.route package = .recipe) :
    TargetedTask.label target package = target.package.name := by
  rw [label_eq, h]

theorem Alike.label_eq (h : target.Alike package other) :
    TargetedTask.label target package = TargetedTask.label other package := by
  rcases h with rfl | ⟨h, hother, hname⟩
  · rfl
  · rw [label_recipe h, label_recipe hother, hname]

theorem Collides.label_eq (h : target.Collides package other) :
    TargetedTask.label target package = TargetedTask.label other package := by
  cases h with
  | functions h hother hruns => rw [label_plugin h, label_plugin hother, hruns.text_eq]
  | functionAndNested h hother hname => rw [label_plugin h, label_nested hother, hname]
  | functionAndRecipe h hother hname => rw [label_plugin h, label_recipe hother, hname]
  | nestedAndRecipe h hother hname => rw [label_nested h, label_recipe hother, hname]

theorem eq_of_key_eq (h : registry.definition target.key = .ok target)
    (hother : registry.definition other.key = .ok other) (hkey : target.key = other.key) :
    target = other := by
  rw [hkey, hother] at h
  exact (Except.ok.inj h).symm

/-- **Two registered templates have one label exactly if they are alike or their names collide.** -/
theorem label_eq_iff (h : registry.definition target.key = .ok target)
    (hother : registry.definition other.key = .ok other) :
    TargetedTask.label target package = TargetedTask.label other package ↔
      target.Alike package other ∨ target.Collides package other ∨
        other.Collides package target := by
  constructor
  · intro hlabel
    -- the three formats against each other
    cases hroute : target.route package with
    | plugin =>
        rw [label_plugin hroute] at hlabel
        cases hroute' : other.route package with
        | plugin =>
            rw [label_plugin hroute'] at hlabel
            rcases TemplateKey.text_eq_iff.mp hlabel with hkey | hruns | hruns
            · exact Or.inl (Or.inl (eq_of_key_eq h hother hkey))
            · exact Or.inr (Or.inl (.functions hroute hroute' hruns))
            · exact Or.inr (Or.inr (.functions hroute' hroute hruns))
        | nested =>
            rw [label_nested hroute'] at hlabel
            exact Or.inr (Or.inl (.functionAndNested hroute hroute' hlabel.symm))
        | recipe =>
            rw [label_recipe hroute'] at hlabel
            exact Or.inr (Or.inl (.functionAndRecipe hroute hroute' hlabel.symm))
    | nested =>
        rw [label_nested hroute] at hlabel
        cases hroute' : other.route package with
        | plugin =>
            rw [label_plugin hroute'] at hlabel
            exact Or.inr (Or.inr (.functionAndNested hroute' hroute hlabel))
        | nested =>
            rw [label_nested hroute'] at hlabel
            have hpackage := (route_eq_nested.mp hroute).2
            have hpackage' := (route_eq_nested.mp hroute').2
            refine Or.inl (Or.inl (eq_of_key_eq h hother ?_))
            rw [key, key, hpackage, hpackage', hlabel]
        | recipe =>
            rw [label_recipe hroute'] at hlabel
            exact Or.inr (Or.inl (.nestedAndRecipe hroute hroute' hlabel.symm))
    | recipe =>
        rw [label_recipe hroute] at hlabel
        cases hroute' : other.route package with
        | plugin =>
            rw [label_plugin hroute'] at hlabel
            exact Or.inr (Or.inr (.functionAndRecipe hroute' hroute hlabel))
        | nested =>
            rw [label_nested hroute'] at hlabel
            exact Or.inr (Or.inr (.nestedAndRecipe hroute' hroute hlabel))
        | recipe =>
            rw [label_recipe hroute'] at hlabel
            exact Or.inl (Or.inr ⟨hroute, hroute', hlabel⟩)
  · rintro (halike | hcollides | hcollides)
    · exact halike.label_eq
    · exact hcollides.label_eq
    · exact hcollides.label_eq.symm

theorem slash_mem_text (key : TemplateKey) : '/' ∈ key.text.toList := by
  rw [TemplateKey.toList_text]
  simp

/-- Without slashes there is one way left for names to collide. -/
theorem not_collides (hpackage : '/' ∉ other.package.name.toList)
    (hname : other.route package = .nested → '/' ∉ other.name.toList)
    (hapart : target.route package = .nested → other.route package = .recipe →
      other.package.name ≠ target.name) :
    ¬ target.Collides package other := by
  intro h
  cases h with
  | functions h hother hruns =>
      obtain ⟨middle, hmiddle, -⟩ := hruns
      apply hpackage
      replace hmiddle : other.package.name = target.package.name ++ "/" ++ middle := hmiddle
      rw [hmiddle]
      simp
  | functionAndNested h hother hsame => exact hname hother (hsame ▸ slash_mem_text target.key)
  | functionAndRecipe h hother hsame => exact hpackage (hsame ▸ slash_mem_text target.key)
  | nestedAndRecipe h hother hsame => exact hapart h hother hsame

end Definition

/-! ## Labels in a pipeline -/

/-- The tasks of a graph run registered templates and have the labels of these. -/
theorem Registry.Builds.label {registry : Registry} {policy : NeedsPolicy} {key : TemplateKey}
    {graph : Graph} (h : registry.Builds policy key graph) {task : GraphTask}
    (htask : task ∈ graph.tasks) :
    registry.definition task.target.key = .ok task.target ∧
      task.template = TargetedTask.label task.target graph.package := by
  refine ⟨h.definition_target ⟨task, htask, rfl⟩, ?_⟩
  obtain ⟨dag, -, hbuild⟩ := h
  obtain ⟨targeted, hresolves⟩ := Dag.resolve_eq_ok.mp (Dag.build_eq_ok.mp hbuild).1
  obtain ⟨found, -, -, -, -, htasks⟩ := hresolves.exists_declared htask
  rw [htasks.template, htasks.target, hresolves.package]

/-- **So do the tasks of all graphs in a pipeline**, which are of one package. -/
theorem labels_of_compile {registry : Registry} {options : Options} {provider : MetadataProvider}
    {entry : TemplateKey} {metadata : Option PackageMetadata} {pipeline : Pipeline}
    (h : compile registry options provider entry metadata = .ok pipeline) :
    ∃ package, ∀ graph ∈ pipeline.flow, graph.package = package ∧ ∀ task ∈ graph.tasks,
      registry.definition task.target.key = .ok task.target ∧
        task.template = TargetedTask.label task.target package := by
  obtain ⟨first, manifest, hbuild, hcollect, hmade⟩ := madeFrom_of_compile h
  refine ⟨first.package, ?_⟩
  intro graph hgraph
  rw [hmade.flow] at hgraph
  rcases List.mem_cons.mp hgraph with rfl | hgraph
  · exact ⟨rfl, fun task htask => hbuild.label htask⟩
  · obtain ⟨found, hfound, rfl⟩ := List.mem_map.mp hgraph
    obtain ⟨hnested, hpackage, -⟩ := nested_of_collect hbuild hcollect hfound
    rw [← hpackage]
    exact ⟨rfl, fun task htask => hnested.label htask⟩

namespace Pipeline

/-- Tasks with one label run the same template, or DAGs of other packages that have one name. -/
def Unambiguous (pipeline : Pipeline) : Prop :=
  ∀ graph ∈ pipeline.flow, ∀ task ∈ graph.tasks, ∀ other ∈ pipeline.flow, ∀ second ∈ other.tasks,
    task.template = second.template → task.target = second.target ∨
      task.target.route graph.package = .recipe ∧ second.target.route other.package = .recipe ∧
        task.target.package.name = second.target.package.name

/-- No name in the pipeline looks like a label of another format. -/
structure PlainNames (pipeline : Pipeline) : Prop where
  /-- Names of packages have no slash. -/
  packages : ∀ graph ∈ pipeline.flow, ∀ target, graph.RunsTarget target →
    '/' ∉ target.package.name.toList
  /-- Nor have the names of DAGs of the package. -/
  nested : ∀ graph ∈ pipeline.flow, ∀ target, graph.RunsTarget target →
    target.route graph.package = .nested → '/' ∉ target.name.toList
  /-- None of these is the name of another package of which a DAG is run. -/
  apart : ∀ graph ∈ pipeline.flow, ∀ target, graph.RunsTarget target →
    target.route graph.package = .nested → ∀ other ∈ pipeline.flow, ∀ recipe,
    other.RunsTarget recipe → recipe.route other.package = .recipe →
    recipe.package.name ≠ target.name

theorem PlainNames.not_collides {pipeline : Pipeline} (h : pipeline.PlainNames)
    {graph other : Graph} (hgraph : graph ∈ pipeline.flow) (hother : other ∈ pipeline.flow)
    (hpackage : other.package = graph.package) {task second : GraphTask}
    (htask : task ∈ graph.tasks) (hsecond : second ∈ other.tasks) :
    ¬ task.target.Collides graph.package second.target := by
  refine Definition.not_collides (h.packages other hother _ ⟨second, hsecond, rfl⟩) ?_ ?_
  · rw [← hpackage]
    exact h.nested other hother _ ⟨second, hsecond, rfl⟩
  · intro hnested hrecipe
    rw [← hpackage] at hrecipe
    exact h.apart graph hgraph _ ⟨task, htask, rfl⟩ hnested other hother _ ⟨second, hsecond, rfl⟩
      hrecipe

end Pipeline

section Compiled

variable {registry : Registry} {options : Options} {provider : MetadataProvider}
  {entry : TemplateKey} {metadata : Option PackageMetadata} {pipeline : Pipeline}

/-- Two tasks of a pipeline have one label exactly if their targets are alike or collide. -/
theorem template_eq_iff (h : compile registry options provider entry metadata = .ok pipeline)
    {graph other : Graph} (hgraph : graph ∈ pipeline.flow) (hother : other ∈ pipeline.flow)
    {task second : GraphTask} (htask : task ∈ graph.tasks) (hsecond : second ∈ other.tasks) :
    other.package = graph.package ∧ registry.definition task.target.key = .ok task.target ∧
      (task.template = second.template ↔
        task.target.Alike graph.package second.target ∨
          task.target.Collides graph.package second.target ∨
          second.target.Collides graph.package task.target) := by
  obtain ⟨package, hlabels⟩ := labels_of_compile h
  obtain ⟨rfl, htasks⟩ := hlabels graph hgraph
  obtain ⟨hpackage, hseconds⟩ := hlabels other hother
  obtain ⟨hregistered, hlabel⟩ := htasks task htask
  obtain ⟨hregistered', hlabel'⟩ := hseconds second hsecond
  refine ⟨hpackage, hregistered, ?_⟩
  rw [hlabel, hlabel']
  exact Definition.label_eq_iff hregistered hregistered'

/-- **Plain names make labels unambiguous.** -/
theorem Pipeline.PlainNames.unambiguous (hplain : pipeline.PlainNames)
    (h : compile registry options provider entry metadata = .ok pipeline) :
    pipeline.Unambiguous := by
  intro graph hgraph task htask other hother second hsecond hsame
  obtain ⟨hpackage, -, hiff⟩ := template_eq_iff h hgraph hother htask hsecond
  rcases hiff.mp hsame with halike | hcollides | hcollides
  · rw [hpackage]
    exact halike
  · exact (hplain.not_collides hgraph hother hpackage htask hsecond hcollides).elim
  · rw [← hpackage] at hcollides
    exact (hplain.not_collides hother hgraph hpackage.symm hsecond htask hcollides).elim

end Compiled

/-! ## After every history -/

namespace History

/-- **Two tasks of a pipeline have one label exactly if they run the same template, or DAGs of other
packages that have one name, or templates whose names collide.** All graphs are of one package, also
those without tasks. Where names are plain, none collide, and labels are unambiguous. -/
theorem shares_label_iff (history : List Operation) (name : String) {options : Options}
    {provider : MetadataProvider} {entry : TemplateKey} {metadata : Option PackageMetadata}
    {pipeline : Pipeline}
    (h : (after history).compiled name options provider entry metadata = .ok pipeline) :
    (∃ package, ∀ graph ∈ pipeline.flow, graph.package = package) ∧
    (∀ graph ∈ pipeline.flow, ∀ task ∈ graph.tasks, ∀ other ∈ pipeline.flow,
      ∀ second ∈ other.tasks, other.package = graph.package ∧
        ((after history).registry name).definition task.target.key = .ok task.target ∧
        (task.template = second.template ↔
          task.target.Alike graph.package second.target ∨
            task.target.Collides graph.package second.target ∨
            second.target.Collides graph.package task.target)) ∧
    (pipeline.PlainNames → pipeline.Unambiguous) := by
  rw [(sound_after history).compiled_eq] at h
  obtain ⟨package, hlabels⟩ := labels_of_compile h
  refine ⟨⟨package, fun graph hgraph => (hlabels graph hgraph).1⟩, ?_,
    fun hplain => hplain.unambiguous h⟩
  intro graph hgraph task htask other hother second hsecond
  exact template_eq_iff h hgraph hother htask hsecond

/-- What the flow of a ferry runs: two DAGs of different packages, and a function. -/
def ferryTargets : List Definition :=
  [(leg ⟨"journeys", "there"⟩ [] 0).definition, (leg ⟨"islands", "ferry"⟩ [] 0).definition,
    setSail.definition]

theorem ferryHistory_shares_label :
    ∃ pipeline,
      (after ferryHistory).compiled "main" {} (MetadataProvider.ofList []) ⟨"journeys", "leave"⟩
        none = .ok pipeline ∧
      pipeline.flow.map (fun graph => graph.tasks.map (·.template)) =
        [["there"], ["islands", "boats/set-sail"]] ∧
      pipeline.PlainNames ∧ pipeline.Unambiguous := by
  have hrun : (fun pipeline : Pipeline =>
      (pipeline.flow.map (fun graph => graph.tasks.map (·.template)),
        pipeline.flow.map fun graph => (graph.package, graph.tasks.map (·.target)))) <$>
      (after ferryHistory).compiled "main" {} (MetadataProvider.ofList [])
        ⟨"journeys", "leave"⟩ none =
      .ok ([["there"], ["islands", "boats/set-sail"]],
        [(⟨"journeys", "1.0.0"⟩, ferryTargets.take 1),
          (⟨"journeys", "1.0.0"⟩, ferryTargets.drop 1)]) := by cbv
  obtain ⟨pipeline, hpipeline, hparts⟩ := map_eq_ok.mp hrun
  obtain ⟨htemplates, htargets⟩ := Prod.mk.inj hparts
  have hruns : ∀ graph ∈ pipeline.flow, ∀ target, graph.RunsTarget target →
      graph.package = ⟨"journeys", "1.0.0"⟩ ∧ target ∈ ferryTargets := by
    rintro graph hgraph _ ⟨task, htask, rfl⟩
    have htarget := List.mem_map_of_mem (f := GraphTask.target) htask
    have hmem := List.mem_map_of_mem (f := fun graph : Graph =>
      (graph.package, graph.tasks.map (·.target))) hgraph
    rw [htargets, List.mem_cons, List.mem_singleton] at hmem
    rcases hmem with hparts | hparts
    · obtain ⟨hpackage, htasks⟩ := Prod.mk.inj hparts
      exact ⟨hpackage, List.mem_of_mem_take (htasks ▸ htarget)⟩
    · obtain ⟨hpackage, htasks⟩ := Prod.mk.inj hparts
      exact ⟨hpackage, List.mem_of_mem_drop (htasks ▸ htarget)⟩
  have hplain : pipeline.PlainNames := by
    refine ⟨?_, ?_, ?_⟩
    · intro graph hgraph target htarget
      have hslash : ∀ target ∈ ferryTargets, '/' ∉ target.package.name.toList := by decide
      exact hslash target (hruns graph hgraph target htarget).2
    · intro graph hgraph target htarget hnested
      have hslash : ∀ target ∈ ferryTargets, '/' ∉ target.name.toList := by decide
      exact hslash target (hruns graph hgraph target htarget).2
    · intro graph hgraph target htarget hnested other hother recipe hrecipe hroute
      have hapart : ∀ target ∈ ferryTargets, ∀ recipe ∈ ferryTargets,
          recipe.package.name ≠ target.name := by decide
      exact hapart target (hruns graph hgraph target htarget).2 recipe
        (hruns other hother recipe hrecipe).2
  exact ⟨pipeline, hpipeline, htemplates, hplain,
    (shares_label_iff ferryHistory "main" hpipeline).2.2 hplain⟩

/-- A function with the name that packages and DAGs are given. -/
def sail : Function where
  definition := { setSail.definition with name := "sail" }
  body := .command "sail"

/-- A history with a DAG that runs a function, a DAG of its package and one of another package. -/
def harbourHistory : List Operation :=
  [.declare (leg ⟨"journeys", "leave"⟩
     [⟨"journeys", "boats/sail"⟩, ⟨"boats/sail", "ferry"⟩, sail.key]),
   .declare (leg ⟨"journeys", "boats/sail"⟩ []), .declare (leg ⟨"boats/sail", "ferry"⟩ []),
   .registerFunction "main" sail,
   .registerDag "main" 0, .registerDag "main" 1, .registerDag "main" 2]

/-- **Names may be chosen so that a DAG of the package, a DAG of another package and a function have
one label.** -/
theorem harbourHistory_ambiguous :
    ∃ pipeline,
      (after harbourHistory).compiled "main" {} (MetadataProvider.ofList []) ⟨"journeys", "leave"⟩
        none = .ok pipeline ∧
      (∃ graph ∈ pipeline.flow, graph.tasks.map (fun task => (task.template, task.target.key)) =
        [("boats/sail", ⟨"journeys", "boats/sail"⟩), ("boats/sail", ⟨"boats/sail", "ferry"⟩),
          ("boats/sail", ⟨"boats", "sail"⟩)]) ∧
      ¬ pipeline.Unambiguous := by
  have hrun : (fun pipeline : Pipeline => pipeline.flow.map fun graph =>
        graph.tasks.map (fun task => (task.template, task.target.key))) <$>
      (after harbourHistory).compiled "main" {} (MetadataProvider.ofList [])
        ⟨"journeys", "leave"⟩ none =
      .ok [[("boats/sail", ⟨"journeys", "boats/sail"⟩), ("boats/sail", ⟨"boats/sail", "ferry"⟩),
          ("boats/sail", ⟨"boats", "sail"⟩)], []] := by cbv
  obtain ⟨pipeline, hpipeline, hlabels⟩ := map_eq_ok.mp hrun
  obtain ⟨graph, rest, hflow, htasks, -⟩ := List.map_eq_cons_iff.mp hlabels
  have hgraph : graph ∈ pipeline.flow := hflow ▸ List.mem_cons_self
  refine ⟨pipeline, hpipeline, ⟨graph, hgraph, htasks⟩, ?_⟩
  intro hunambiguous
  obtain ⟨nested, others, hall, hnested, hothers⟩ := List.map_eq_cons_iff.mp htasks
  obtain ⟨recipe, others, rfl, hrecipe, -⟩ := List.map_eq_cons_iff.mp hothers
  obtain ⟨hlabel, hkey⟩ := Prod.mk.inj hnested
  obtain ⟨hlabel', hkey'⟩ := Prod.mk.inj hrecipe
  have htask : nested ∈ graph.tasks := hall ▸ List.mem_cons_self
  have hsecond : recipe ∈ graph.tasks := hall ▸ List.mem_cons_of_mem _ List.mem_cons_self
  -- the packages of alike targets have one name, but those of the two DAGs have not
  have hpackage : nested.target.key.package = recipe.target.key.package := by
    rcases hunambiguous graph hgraph nested htask graph hgraph recipe hsecond
      (hlabel.trans hlabel'.symm) with hsame | ⟨-, -, hname⟩
    · rw [hsame]
    · exact hname
  rw [hkey, hkey'] at hpackage
  exact absurd hpackage (by decide)

end History

end Recipe
