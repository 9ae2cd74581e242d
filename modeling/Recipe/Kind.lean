import Recipe.Json.Record

/-!
# Kinds of inputs and outputs

An input or output is a parameter, whose value is plain data, or an artifact, which the engine moves
between folders. The two are never interchangeable.
-/

set_option autoImplicit false

namespace Recipe

/-! ## Artifacts -/

/-- The kinds of artifacts. -/
inductive ArtifactKind
  | file
  | folder
  | path
deriving DecidableEq

namespace ArtifactKind

def all : List ArtifactKind := [file, folder, path]

def name : ArtifactKind → String
  | file => "file"
  | folder => "folder"
  | path => "path"

def toJson (kind : ArtifactKind) : Json := .string kind.name

def ofJson? (value : Json) : Option ArtifactKind := value.choice? all name

end ArtifactKind

/-! ## Inputs and outputs -/

/-- The kinds of inputs and outputs. -/
inductive Kind
  | generic
  | string
  | integer
  | number
  | boolean
  | dict
  | list
  | file
  | folder
  | path
  | linked
deriving DecidableEq

namespace Kind

def all : List Kind :=
  [generic, string, integer, number, boolean, dict, list, file, folder, path, linked]

def name : Kind → String
  | generic => "generic"
  | string => "string"
  | integer => "integer"
  | number => "number"
  | boolean => "boolean"
  | dict => "dict"
  | list => "list"
  | file => "file"
  | folder => "folder"
  | path => "path"
  | linked => "linked"

def toJson (kind : Kind) : Json := .string kind.name

def ofJson? (value : Json) : Option Kind := value.choice? all name

/-- The kind of artifact, for the kinds that are artifacts. -/
def artifact? : Kind → Option ArtifactKind
  | file => some .file
  | folder => some .folder
  | path => some .path
  | _ => none

def isArtifact (kind : Kind) : Bool := kind.artifact?.isSome

/-- Whether the kind can have the value as a default. An artifact's default is the text of its path,
and a linked object's the text that names it. -/
def accepts (kind : Kind) (value : Json) : Bool :=
  match kind with
  | generic => true
  | string | file | folder | path | linked => value.isString
  | integer => value.isInteger
  | number => value.isNumber
  | boolean => value.isBool
  | dict => value.isObject
  | list => value.isList

end Kind

end Recipe
