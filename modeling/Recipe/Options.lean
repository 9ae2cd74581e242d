import Recipe.Error
import Recipe.Json.Record
import Recipe.Text.Blank

/-!
# Options of a compilation

Every option has a default. Whether tasks must list all tasks whose outputs they read is the needs
policy.
-/

set_option autoImplicit false

namespace Recipe

/-! ## Needs -/

/-- What happens to a task that reads the output of a task it does not list as a need: the need is
inferred, or it is an error. -/
inductive NeedsPolicy
  | infer
  | strict
deriving DecidableEq

namespace NeedsPolicy

def all : List NeedsPolicy := [infer, strict]

def name : NeedsPolicy → String
  | infer => "infer"
  | strict => "strict"

def toJson (policy : NeedsPolicy) : Json := .string policy.name

def ofJson? (value : Json) : Option NeedsPolicy := value.choice? all name

end NeedsPolicy

/-! ## Options -/

/-- The options of a compilation. -/
structure Options where
  entryPoint : String := "main"
  dependencySource : Option String := none
  needsPolicy : NeedsPolicy := .infer
  warnSingleTaskGroup : Bool := true
deriving DecidableEq

namespace Options

def names : List String :=
  ["entry-point", "dependency-source", "needs-policy", "warn-single-task-group"]

/-- The JSON form of options, all of them written out. -/
def toJson (options : Options) : Json :=
  .object
    [("entry-point", .string options.entryPoint),
      ("dependency-source", .orNull (options.dependencySource.map .string)),
      ("needs-policy", options.needsPolicy.toJson),
      ("warn-single-task-group", .bool options.warnSingleTaskGroup)]

/-- The options that a JSON value describes. Options that are not there have their default, and
others than the known ones are refused. -/
def ofJson? (value : Json) : Option Options := do
  let record ← value.record? 4
  if !record.onlyHas names then none
  else
    let entryPoint ← record.withDefault 0 "entry-point" Json.asString? "main"
    let dependencySource ← record.withDefault 1 "dependency-source" Json.optionalString? none
    let needsPolicy ← record.withDefault 2 "needs-policy" NeedsPolicy.ofJson? .infer
    let warnSingleTaskGroup ← record.withDefault 3 "warn-single-task-group" Json.asBool? true
    return { entryPoint, dependencySource, needsPolicy, warnSingleTaskGroup }

/-- Checks that the entry point has a name. -/
def validate (options : Options) : Except Error Unit :=
  if Text.isBlankText options.entryPoint then throw (.configuration .blankEntryPoint) else pure ()

end Options

end Recipe
