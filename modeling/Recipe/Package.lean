import Recipe.Error
import Recipe.Json.Record

/-!
# Packages

A package is known by its name and tag. What is published about it is looked up by a metadata
provider, a function that may fail.
-/

set_option autoImplicit false

namespace Recipe

/-! ## Identity -/

/-- A package, by name and tag. -/
structure PackageId where
  name : String
  tag : String
deriving DecidableEq

namespace PackageId

def text (package : PackageId) : String := s!"{package.name}:{package.tag}"

def toJson (package : PackageId) : Json :=
  .object [("name", .string package.name), ("tag", .string package.tag)]

def ofJson? (value : Json) : Option PackageId := do
  let record ← value.record? 2
  let name ← record.required 0 "name" Json.asString?
  let tag ← record.required 1 "tag" Json.asString?
  return { name, tag }

end PackageId

/-! ## Metadata -/

/-- What is published about a package. -/
structure PackageMetadata where
  name : String
  tag : String
  owner : Option String := none
  license : Option String := none
  keywords : List String := []
deriving DecidableEq

namespace PackageMetadata

/-- The metadata of a package about which nothing is published. -/
def ofPackage (package : PackageId) : PackageMetadata :=
  { name := package.name, tag := package.tag }

def toJson (metadata : PackageMetadata) : Json :=
  .object <|
    [("name", .string metadata.name), ("tag", .string metadata.tag)] ++
      Json.optional "owner" (metadata.owner.map .string) ++
      Json.optional "license" (metadata.license.map .string) ++
      Json.nonempty "keywords" (metadata.keywords.map .string)

def ofJson? (value : Json) : Option PackageMetadata := do
  let record ← value.record? 5
  let name ← record.required 0 "name" Json.asString?
  let tag ← record.required 1 "tag" Json.asString?
  let owner ← record.withDefault 2 "owner" Json.optionalString? none
  let license ← record.withDefault 3 "license" Json.optionalString? none
  let keywords ← record.withDefault 4 "keywords" Json.strings? []
  return { name, tag, owner, license, keywords }

end PackageMetadata

/-! ## Providers -/

/-- Where metadata is looked up. A provider knows nothing of a package, or something, or fails. -/
abbrev MetadataProvider := PackageId → Except Error (Option PackageMetadata)

/-- The provider of a list of metadata, found by the name of the package; of two entries for one
name the later counts. -/
def MetadataProvider.ofList (entries : List PackageMetadata) : MetadataProvider :=
  fun package => .ok (entries.reverse.find? (·.name == package.name))

end Recipe
