import Recipe.Json.Printer
import Recipe.Kind

/-!
# Errors

What can be wrong with a recipe, by cause. All of it is found while a recipe is compiled, never
while the compiled pipeline runs. The wording of an error, its code and its advice are functions
of the cause.
-/

set_option autoImplicit false

namespace Recipe

def commaSeparated (items : List String) : String := ", ".intercalate items

/-! ## Causes -/

/-- Where a reference stands. -/
inductive Place
  | argument (task argument : String)
  | loop (task : String)
  | returns (task : String)
  | needs (task : String)
  | task (task : String)
  | output (output graph : String)
  | described (text : String)

def Place.text : Place → String
  | argument name parameter => s!"task '{name}' argument '{parameter}'"
  | loop name => s!"loop of task '{name}'"
  | returns name => s!"returns of task '{name}'"
  | needs name => s!"needs of task '{name}'"
  | task name => s!"task '{name}'"
  | output name graph => s!"output '{name}' of '{graph}'"
  | described text => text

/-- What is wrong with a reference. -/
inductive ReferenceFault
  | undeclared (task : String)
  | undeclaredIn (task graph : String)
  | undeclaredInGraph (task : String)
  | unknownOutput (output template : String)
  | unknownOutputOf (output template task : String)
  | boundTwice
  | itemOutsideLoop
  | loopOverItem
  | loopOverValue (found : Json)
  | described (text : String)

def ReferenceFault.text : ReferenceFault → String
  | undeclared task => s!"task '{task}' is not declared"
  | undeclaredIn task graph => s!"task '{task}' is not declared in '{graph}'"
  | undeclaredInGraph task => s!"task '{task}' is not declared in the graph"
  | unknownOutput output template => s!"'{output}' is not an output of '{template}'"
  | unknownOutputOf output template task =>
      s!"'{output}' is not an output of '{template}' used by task '{task}'"
  | boundTwice => "argument is bound more than once"
  | itemOutsideLoop => "the loop item is only available to tasks that loop"
  | loopOverItem => "a task cannot loop over its own loop item"
  | loopOverValue found => s!"a literal loop source must be a list, found {found.compact}"
  | described text => text

/-- What is wrong with a template. -/
inductive TemplateFault
  | commandAndScript
  | neitherCommandNorScript
  | noOutputs
  | inputWithoutPath (kind : Kind) (input : String)
  | outputWithoutPath (output : String)
  | alreadyRegistered
  | notRegistered
  | notDag
  | sharesEntryPoint (entryPoint : String)
  | missingFromPipeline (task graph : String)
  | described (text : String)

def TemplateFault.text : TemplateFault → String
  | commandAndScript => "a function has either a command or a script, not both"
  | neitherCommandNorScript => "a function needs a command or a script"
  | noOutputs => "a function must declare at least one output"
  | inputWithoutPath kind input => s!"{kind.name} input '{input}' needs a path"
  | outputWithoutPath output => s!"output '{output}' needs a path"
  | alreadyRegistered => "a template with this name is already registered in the package"
  | notRegistered => "not a registered function or DAG"
  | notDag => "expected a DAG but found a function"
  | sharesEntryPoint entryPoint => s!"a nested DAG cannot share the entry point name '{entryPoint}'"
  | missingFromPipeline task graph =>
      s!"task '{task}' of '{graph}' runs a template missing from the pipeline"
  | described text => text

/-- What breaks the rules of grouped graphs. -/
inductive GroupFault
  | loops (task : String)
  | returnsParameter (task output : String)
  | severalMainTasks (tasks : List String)
  | described (text : String)

def GroupFault.text : GroupFault → String
  | loops task => s!"task '{task}' loops, which grouped graphs do not allow"
  | returnsParameter task output =>
      s!"task '{task}' returns parameter '{output}'; only files and folders can be returned"
  | severalMainTasks tasks => s!"more than one main task: {commaSeparated tasks}"
  | described text => text

/-- What is wrong with a default. -/
inductive DefaultFault
  | notPath (kind : Kind)
  | notOfKind (kind : Kind) (found : Json)
  | itemNotOfKind (kind : Kind) (found : Json)
  | otherExtension (path : String) (extensions : List String)
  | described (text : String)

def DefaultFault.text : DefaultFault → String
  | notPath kind => s!"a {kind.name} default must be a path string"
  | notOfKind kind found => s!"expected a {kind.name} value, found {found.compact}"
  | itemNotOfKind kind found => s!"expected {kind.name} items, found {found.compact}"
  | otherExtension path extensions =>
      s!"'{path}' does not have one of the extensions {commaSeparated extensions}"
  | described text => text

/-- What is wrong with the declaration of an input, an output or an alias. -/
inductive DeclarationFault
  | linked
  | itemsOf (kind : Kind)
  | linkedItems
  | schemaNotObject
  | extensionsOf (kind : Kind)
  | noPlatform
  | noHandler
  | described (text : String)

def DeclarationFault.text : DeclarationFault → String
  | linked => "only aliases can be linked"
  | itemsOf kind => s!"an item kind only applies to lists, not {kind.name}"
  | linkedItems => "list items cannot be linked"
  | schemaNotObject => "a schema must be a JSON object"
  | extensionsOf kind => s!"extensions only apply to file and path inputs, not {kind.name}"
  | noPlatform => "an alias must name at least one platform"
  | noHandler => "an alias needs at least one handler"
  | described text => text

/-- What is wrong with the options of a compilation or with its surroundings. -/
inductive ConfigurationFault
  | blankEntryPoint
  | invalidOptions
  | missingFile (path : String)
  | described (text : String)

def ConfigurationFault.text : ConfigurationFault → String
  | blankEntryPoint => "entry-point must not be empty"
  | invalidOptions => "invalid compiler options"
  | missingFile path => s!"failed to read {path}: No such file or directory (os error 2)"
  | described text => text

/-- What is wrong with a recipe. -/
inductive Error
  | unresolvedInput (graph task argument : String)
  | malformedReference (place : Place) (fault : ReferenceFault)
  | missingArgument (task template : String) (arguments : List String)
  | missingReturnPath (task output : String)
  | invalidTemplate (template : String) (fault : TemplateFault)
  | duplicateTaskName (graph name : String)
  | cyclicDependency (path : List String)
  | groupedGraphViolation (graph : String) (fault : GroupFault)
  | unknownArgument (task template argument : String) (valid : List String)
  | artifactMismatch (task argument expected found : String)
  | undeclaredNeed (task dependency : String)
  | duplicateInputName (template name : String)
  | invalidDefault (name : String) (fault : DefaultFault)
  | invalidIo (name : String) (fault : DeclarationFault)
  | configuration (fault : ConfigurationFault)
  | serialization (message : String)
  | publish (message : String)
  | execution (message : String)

/-! ## Wording -/

namespace Error

def message : Error → String
  | unresolvedInput graph task argument =>
      s!"Task '{task}' argument '{argument}' references an input that is not declared on '{graph}'"
  | malformedReference place fault => s!"Invalid reference in {place.text}: {fault.text}"
  | missingArgument task template arguments =>
      s!"Missing value for argument(s) in task '{task}' -> {commaSeparated arguments}. " ++
        s!"All required arguments of '{template}' must be bound"
  | missingReturnPath task output =>
      s!"Missing destination path for return '{output}' of task '{task}'"
  | invalidTemplate template fault => s!"Invalid template '{template}': {fault.text}"
  | duplicateTaskName graph name => s!"Task name '{name}' is used more than once in '{graph}'"
  | cyclicDependency path => "Cyclic dependency: " ++ " -> ".intercalate path
  | groupedGraphViolation graph fault => s!"Grouped graph '{graph}' is invalid: {fault.text}"
  | unknownArgument task template argument valid =>
      s!"'{argument}' is not a valid argument for '{template}' in task '{task}'. " ++
        s!"Valid arguments are: {commaSeparated valid}"
  | artifactMismatch task argument expected found =>
      s!"Task '{task}' argument '{argument}' expects {expected} but is bound to {found}"
  | undeclaredNeed task dependency =>
      s!"Task '{task}' references task '{dependency}' which is not listed in its needs"
  | duplicateInputName template name => s!"Name '{name}' is declared more than once on '{template}'"
  | invalidDefault name fault => s!"Invalid default for '{name}': {fault.text}"
  | invalidIo name fault => s!"Invalid declaration of '{name}': {fault.text}"
  | configuration fault => s!"Configuration error: {fault.text}"
  | serialization message => s!"Serialization error: {message}"
  | publish message => s!"Publishing failed: {message}"
  | execution message => s!"Execution failed: {message}"

/-- The name of an error's cause. -/
def kind : Error → String
  | unresolvedInput .. => "UnresolvedInput"
  | malformedReference .. => "MalformedReference"
  | missingArgument .. => "MissingArgument"
  | missingReturnPath .. => "MissingReturnPath"
  | invalidTemplate .. => "InvalidTemplate"
  | duplicateTaskName .. => "DuplicateTaskName"
  | cyclicDependency .. => "CyclicDependency"
  | groupedGraphViolation .. => "GroupedGraphViolation"
  | unknownArgument .. => "UnknownArgument"
  | artifactMismatch .. => "ArtifactMismatch"
  | undeclaredNeed .. => "UndeclaredNeed"
  | duplicateInputName .. => "DuplicateInputName"
  | invalidDefault .. => "InvalidDefault"
  | invalidIo .. => "InvalidIo"
  | configuration .. => "Configuration"
  | serialization .. => "Serialization"
  | publish .. => "Publish"
  | execution .. => "Execution"

/-- The code under which an error is documented. -/
def code : Error → String
  | unresolvedInput .. => "honeycomb::reference::unresolved_input"
  | malformedReference .. => "honeycomb::reference::malformed"
  | missingArgument .. => "honeycomb::task::missing_argument"
  | missingReturnPath .. => "honeycomb::task::missing_return_path"
  | invalidTemplate .. => "honeycomb::template::invalid"
  | duplicateTaskName .. => "honeycomb::task::duplicate_name"
  | cyclicDependency .. => "honeycomb::graph::cycle"
  | groupedGraphViolation .. => "honeycomb::graph::grouped"
  | unknownArgument .. => "honeycomb::task::unknown_argument"
  | artifactMismatch .. => "honeycomb::task::artifact_mismatch"
  | undeclaredNeed .. => "honeycomb::task::undeclared_need"
  | duplicateInputName .. => "honeycomb::template::duplicate_name"
  | invalidDefault .. => "honeycomb::io::invalid_default"
  | invalidIo .. => "honeycomb::io::invalid"
  | configuration .. => "honeycomb::config::invalid"
  | serialization .. => "honeycomb::serialization"
  | publish .. => "honeycomb::publish"
  | execution .. => "honeycomb::execution"

/-- Advice on how to mend an error, where there is some. -/
def help? : Error → Option String
  | unresolvedInput .. => some "Pass the handle returned by `input()` on the same DAG builder"
  | missingReturnPath .. => some "All file and folder returns must provide a target path"
  | groupedGraphViolation .. =>
      some ("Grouped graphs cannot loop, can only return files or folders, and have at most one " ++
        "main task")
  | undeclaredNeed _ dependency =>
      some s!"Add '{dependency}' to the task's needs or use the `infer` needs policy"
  | _ => none

end Error

end Recipe
