import Recipe.Alias
import Recipe.Placeholder
import Recipe.Table

/-!
# Inputs and outputs

The declarations of a template's inputs and outputs. A declaration is made from a name and a kind
and then completed; making it puts names and paths into their canonical form, and `validate`
checks what can only be checked in the end.
-/

set_option autoImplicit false

namespace Recipe

/-! ## Shared rules -/

/-- Checks the kind, the kind of items and the aliases of an input or output. -/
def checkDeclaration (name : String) (kind : Kind) (items : Option Kind) (aliases : List Alias) :
    Except Error Unit :=
  if kind = .linked then throw (.invalidIo name .linked)
  else if items.isSome ∧ kind ≠ .list then throw (.invalidIo name (.itemsOf kind))
  else if items = some .linked then throw (.invalidIo name .linkedItems)
  else aliases.forM Alias.validate

/-! ## Inputs -/

structure Input where
  name : String
  kind : Kind
  description : Option String := none
  default : Option Json := none
  required : Bool := true
  path : Option String := none
  schema : Option Json := none
  extensions : List String := []
  items : Option Kind := none
  aliases : List Alias := []
  annotations : Table Json := []

namespace Input

/-- An input of a kind, under its canonical name. -/
def make (name : String) (kind : Kind) : Input := { name := paramName name, kind }

/-- The input with a default, which makes it optional. -/
def withDefault (input : Input) (value : Json) : Input :=
  { input with default := some value, required := false }

/-- The input without the duty to bind it. -/
def optional (input : Input) : Input := { input with required := false }

def withPath (input : Input) (path : String) : Input :=
  { input with path := some (renamePlaceholders path) }

/-- An extension without white space around it and points in front. -/
def bareExtension (extension : String) : String :=
  String.ofList ((Text.trimmed extension.toList).dropWhile (· == '.'))

def withExtensions (input : Input) (extensions : List String) : Input :=
  { input with extensions := extensions.map bareExtension }

def withAnnotation (input : Input) (name : String) (value : Json) : Input :=
  { input with annotations := Table.insert name value input.annotations }

def isArtifact (input : Input) : Bool := input.kind.isArtifact

def toJson (input : Input) : Json :=
  .object <|
    [("name", .string input.name), ("kind", input.kind.toJson)] ++
      Json.optional "description" (input.description.map .string) ++
      Json.optional "default" input.default ++
      [("required", .bool input.required)] ++
      Json.optional "path" (input.path.map .string) ++
      Json.optional "spec" input.schema ++
      Json.nonempty "extensions" (input.extensions.map .string) ++
      Json.optional "items_type" (input.items.map Kind.toJson) ++
      Json.nonempty "alias" (input.aliases.map Alias.toJson) ++
      Json.nonemptyObject "annotations" input.annotations

/-- Whether a path ends in a point and one of the extensions, in any mix of upper and lower case. -/
def hasExtension (extensions : List String) (path : String) : Bool :=
  extensions.any fun extension =>
    ('.' :: (Text.lowercase extension).toList).isSuffixOf (Text.lowercase path).toList

/-- Checks a default against the kind, the kind of items and the extensions of an input. -/
def validateDefault (input : Input) (default : Json) : Except Error Unit := do
  if !input.kind.accepts default then
    throw (.invalidDefault input.name
      (if input.isArtifact then .notPath input.kind else .notOfKind input.kind default))
  if let some kind := input.items then
    if let some found := (default.asList?.getD []).find? (!kind.accepts ·) then
      throw (.invalidDefault input.name (.itemNotOfKind kind found))
  if let some path := default.asString? then
    if !input.extensions.isEmpty && !hasExtension input.extensions path then
      throw (.invalidDefault input.name (.otherExtension path input.extensions))

def validate (input : Input) : Except Error Unit := do
  checkDeclaration input.name input.kind input.items input.aliases
  if input.schema.any (!·.isObject) then throw (.invalidIo input.name .schemaNotObject)
  if !input.extensions.isEmpty && input.kind != .file && input.kind != .path then
    throw (.invalidIo input.name (.extensionsOf input.kind))
  if let some default := input.default then input.validateDefault default

end Input

/-! ## Outputs -/

structure Output where
  name : String
  kind : Kind
  description : Option String := none
  required : Bool := true
  path : Option String := none
  items : Option Kind := none
  aliases : List Alias := []
  annotations : Table Json := []

namespace Output

def make (name : String) (kind : Kind) : Output := { name := paramName name, kind }

def optional (output : Output) : Output := { output with required := false }

def withPath (output : Output) (path : String) : Output :=
  { output with path := some (renamePlaceholders path) }

def withAnnotation (output : Output) (name : String) (value : Json) : Output :=
  { output with annotations := Table.insert name value output.annotations }

def isArtifact (output : Output) : Bool := output.kind.isArtifact

/-- The fields of the JSON form of an output. -/
def jsonFields (output : Output) : List (String × Json) :=
  [("name", .string output.name), ("kind", output.kind.toJson)] ++
    Json.optional "description" (output.description.map .string) ++
    [("required", .bool output.required)] ++
    Json.optional "path" (output.path.map .string) ++
    Json.optional "items_type" (output.items.map Kind.toJson) ++
    Json.nonempty "alias" (output.aliases.map Alias.toJson) ++
    Json.nonemptyObject "annotations" output.annotations

def toJson (output : Output) : Json := .object output.jsonFields

def validate (output : Output) : Except Error Unit :=
  checkDeclaration output.name output.kind output.items output.aliases

end Output

end Recipe
