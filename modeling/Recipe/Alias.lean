import Recipe.Error
import Recipe.Json.Record
import Recipe.Table
import Recipe.Text.Blank

/-!
# Aliases

An alias tells a client application how an input or output looks on its platform, and which handlers
convert it. The engine never reads aliases; they travel with the compiled graph.
-/

set_option autoImplicit false

namespace Recipe

/-! ## Handlers -/

/-- A function that converts a value for a client application. -/
structure AliasHandler where
  language : String
  moduleName : String
  functionName : String
  index : UInt32 := 0
deriving DecidableEq

namespace AliasHandler

def toJson (handler : AliasHandler) : Json :=
  .object
    [("language", .string handler.language), ("module", .string handler.moduleName),
      ("function", .string handler.functionName), ("index", .integer handler.index.toNat)]

/-- An index, a natural number of 32 bits. -/
def index? (value : Json) : Option UInt32 := do
  let index ← value.asNat?
  if index < UInt32.size then some (UInt32.ofNat index) else none

def ofJson? (value : Json) : Option AliasHandler := do
  let record ← value.record? 4
  let language ← record.required 0 "language" Json.asString?
  let moduleName ← record.required 1 "module" Json.asString?
  let functionName ← record.required 2 "function" Json.asString?
  let index ← record.withDefault 3 "index" index? 0
  return { language, moduleName, functionName, index }

end AliasHandler

/-! ## Aliases -/

/-- How an input or output looks on some platforms. -/
structure Alias where
  name : String
  kind : Kind
  platforms : List String
  handlers : List AliasHandler := []
  description : Option String := none
  default : Option Json := none
  annotations : Table Json := []

namespace Alias

/-- Whether a client has to give a value: there is no default. -/
def required (entry : Alias) : Bool := entry.default.isNone

def toJson (entry : Alias) : Json :=
  .object <|
    [("name", .string entry.name), ("kind", entry.kind.toJson),
      ("platform", .strings entry.platforms),
      ("handler", .list (entry.handlers.map AliasHandler.toJson))] ++
      Json.optional "description" (entry.description.map .string) ++
      Json.optional "default" entry.default ++
      [("required", .bool entry.required)] ++
      Json.nonemptyObject "annotations" entry.annotations

/-- Checks that an alias names a platform and a handler, and that its default is of its kind. -/
def validate (entry : Alias) : Except Error Unit :=
  if entry.platforms.all Text.isBlankText then throw (.invalidIo entry.name .noPlatform)
  else if entry.handlers.isEmpty then throw (.invalidIo entry.name .noHandler)
  else match entry.default with
    | none => pure ()
    | some default =>
        if entry.kind.accepts default then pure ()
        else throw (.invalidDefault entry.name (.notOfKind entry.kind default))

end Alias

end Recipe
