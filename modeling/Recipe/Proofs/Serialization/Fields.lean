import Recipe.Json.Record

/-!
# Fields of written records

What is found under the name of a field. A record is written as the list of its fields, and some of
them are left out when they are absent or empty; a look-up finds nothing under their names then.
-/

set_option autoImplicit false

namespace Recipe.Json

/-! ## Parts that may be left out -/

def listUnlessEmpty (items : List Json) : Option Json :=
  if items.isEmpty then none else some (list items)

def objectUnlessEmpty (fields : List (String × Json)) : Option Json :=
  if fields.isEmpty then none else some (object fields)

@[simp] theorem nonempty_eq_optional (name : String) (items : List Json) :
    nonempty name items = optional name (listUnlessEmpty items) := by
  cases items <;> rfl

@[simp] theorem nonemptyObject_eq_optional (name : String) (fields : List (String × Json)) :
    nonemptyObject name fields = optional name (objectUnlessEmpty fields) := by
  cases fields <;> rfl

/-! ## Look-ups -/

@[simp] theorem lookup_field (name other : String) (value : Json) (fields : List (String × Json)) :
    ((name, value) :: fields).lookup other =
      if other == name then some value else fields.lookup other := by
  rw [List.lookup_cons]
  cases other == name <;> rfl

@[simp] theorem lookup_optional (name other : String) (value : Option Json) :
    (optional name value).lookup other = if other == name then value else none := by
  cases value with
  | none => simp [optional]
  | some present => rw [optional, lookup_field, List.lookup_nil]

end Recipe.Json
