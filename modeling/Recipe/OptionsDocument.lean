import Recipe.Options
import Recipe.Toml.Reader

/-!
# Options in TOML

Options are read from a TOML document in which all of them may be left out. A needs policy is
named by a string, or by the only key of a table with nothing under it. A document with anything
else in it, or with a blank entry point, is refused.
-/

set_option autoImplicit false

namespace Recipe

def NeedsPolicy.ofToml? (value : Toml) : Option NeedsPolicy :=
  let named (name : String) := all.find? (·.name == name)
  match value with
  | .string name => named name
  | .table _ [(name, inner)] => if inner.isEmpty then named name else none
  | _ => none

namespace Options

/-- The options with one of them set. -/
def set? (options : Options) (name : String) (value : Toml) : Option Options :=
  match name with
  | "entry-point" => do return { options with entryPoint := ← value.asString? }
  | "dependency-source" => do return { options with dependencySource := some (← value.asString?) }
  | "needs-policy" => do return { options with needsPolicy := ← NeedsPolicy.ofToml? value }
  | "warn-single-task-group" => do
      return { options with warnSingleTaskGroup := ← value.asBool? }
  | _ => none

/-- The options of a TOML document, not yet validated. -/
def ofToml? (text : String) : Option Options := do
  (← Toml.parse? text).foldlM (fun options entry => options.set? entry.1 entry.2) {}

def read (text : String) : Except Error Options :=
  match ofToml? text with
  | none => throw (.configuration .invalidOptions)
  | some options => do
      options.validate
      return options

end Options

end Recipe
