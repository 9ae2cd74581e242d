import Recipe.Kind

/-!
# References

Where the value of a task's argument comes from: a literal, an input of the graph, an output of
another task, or the item of the loop.
-/

set_option autoImplicit false

namespace Recipe

/-- The source of a value in a compiled graph. -/
inductive Reference
  | value (value : Json)
  | artifact (kind : ArtifactKind) (path : String)
  | input (name : String) (artifact : Option ArtifactKind)
  | output (task name : String) (artifact : Option ArtifactKind)
  | item (field : Option String)

namespace Reference

/-- The kind of artifact that is referenced, if it is one. -/
def artifact? : Reference → Option ArtifactKind
  | artifact kind _ => some kind
  | input _ kind => kind
  | output _ _ kind => kind
  | value _ => none
  | item _ => none

def isArtifact (reference : Reference) : Bool := reference.artifact?.isSome

def isItem : Reference → Bool
  | item _ => true
  | _ => false

/-- The task whose output is referenced. -/
def producer? : Reference → Option String
  | output task _ _ => some task
  | _ => none

/-- The words for the kind of a source: an artifact's kind, or that it is a parameter. -/
def sort : Option ArtifactKind → String
  | some kind => kind.name
  | none => "parameter"

/-- The words for a source in messages. -/
def describe : Reference → String
  | value _ => "a literal value"
  | artifact kind _ => s!"a literal {kind.name} path"
  | input name kind => s!"{sort kind} input '{name}'"
  | output task name kind => s!"{sort kind} output '{name}' of task '{task}'"
  | item _ => "the loop item"

/-- The JSON form of a reference, an object tagged with its type. -/
def toJson : Reference → Json
  | value literal => .object [("type", .string "value"), ("value", literal)]
  | artifact kind path =>
      .object [("type", .string "value-artifact"), ("kind", kind.toJson), ("path", .string path)]
  | input name kind =>
      .object <|
        [("type", .string "input"), ("variable", .string name)] ++
          Json.optional "artifact" (kind.map ArtifactKind.toJson)
  | output task name kind =>
      .object <|
        [("type", .string "task"), ("name", .string task), ("variable", .string name)] ++
          Json.optional "artifact" (kind.map ArtifactKind.toJson)
  | item field =>
      .object ([("type", .string "item")] ++ Json.optional "variable" (field.map .string))

/-- A file that a task hands back, read as the parameter written in it. -/
def fileAsParameter : Reference → Reference
  | output task name (some .file) => output task name none
  | other => other

end Reference

end Recipe
