import Recipe.Json.Value

/-!
# Records in JSON

Reading values of a fixed form. A record is written as an object with named fields, or as the list
of its fields in order; a field may have a default, which is taken when the object does not have
the field or the list ends before it. A choice is written as the name of the chosen alternative, or
as an object with that name alone and null as its value.
-/

set_option autoImplicit false

namespace Recipe.Json

/-! ## Scalars -/

/-- A string, or nothing for null. -/
def optionalString? : Json → Option (Option String)
  | null => some none
  | string text => some (some text)
  | _ => none

def strings? (value : Json) : Option (List String) := do
  (← value.asList?).mapM asString?

/-! ## Records -/

/-- A record as it is written: by the names of its fields or by their order. -/
inductive Record
  | named (fields : List (String × Json))
  | ordered (items : List Json)

/-- The record behind a value; a list has as many items as the record has fields at most. -/
def record? (size : Nat) : Json → Option Record
  | object fields => some (.named fields)
  | list items => if items.length ≤ size then some (.ordered items) else none
  | _ => none

namespace Record

/-- The value of the field with a name and a position. -/
def field? (record : Record) (position : Nat) (name : String) : Option Json :=
  match record with
  | named fields => fields.lookup name
  | ordered items => items[position]?

/-- The value of a field that must be there. -/
def required {α : Type} (record : Record) (position : Nat) (name : String)
    (read : Json → Option α) : Option α :=
  (record.field? position name).bind read

/-- The value of a field that has a default. -/
def withDefault {α : Type} (record : Record) (position : Nat) (name : String)
    (read : Json → Option α) (default : α) : Option α :=
  match record.field? position name with
  | some value => read value
  | none => some default

/-- Whether all named fields are among the known ones. -/
def onlyHas (record : Record) (known : List String) : Bool :=
  match record with
  | named fields => fields.all fun field => known.contains field.1
  | ordered _ => true

end Record

/-! ## Choices -/

/-- The name of the alternative that a value chooses. -/
def chosenName? : Json → Option String
  | string name => some name
  | object [(name, null)] => some name
  | _ => none

/-- The alternative that a value chooses, among all of them and their names. -/
def choice? {α : Type} (value : Json) (alternatives : List α) (nameOf : α → String) : Option α := do
  let name ← chosenName? value
  alternatives.find? fun alternative => nameOf alternative == name

end Recipe.Json
