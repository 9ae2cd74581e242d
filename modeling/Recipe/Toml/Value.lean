/-!
# TOML tables

The tables of a TOML document that options can be made of: strings, truth values, empty arrays and
tables of those. A table remembers how it was defined, because that decides whether the document may
still add to it.
-/

set_option autoImplicit false

namespace Recipe

/-- How a table came to be: in braces, by a header, as the parent of one that a header defines, or
by the first part of a dotted key. -/
inductive Toml.Origin
  | braces
  | header
  | parent
  | dotted
deriving DecidableEq

/-- A value of a TOML document. -/
inductive Toml where
  | string (text : String)
  | bool (value : Bool)
  | emptyArray
  | table (origin : Toml.Origin) (entries : List (String × Toml))

namespace Toml

def asString? : Toml → Option String
  | string text => some text
  | _ => none

def asBool? : Toml → Option Bool
  | bool value => some value
  | _ => none

def isEmpty : Toml → Bool
  | emptyArray => true
  | table _ entries => entries.isEmpty
  | _ => false

/-! ## Entries -/

/-- The entries with the value of one key replaced. -/
def replace (key : String) (value : Toml) (entries : List (String × Toml)) :
    List (String × Toml) :=
  entries.map fun entry => if entry.1 == key then (key, value) else entry

/-- The entries with a value under a dotted key, which must be new. The tables on the way may only
be ones that other dotted keys define. -/
def assign? (value : Toml) : List String → List (String × Toml) → Option (List (String × Toml))
  | [], _ => none
  | [key], entries =>
      if (entries.lookup key).isSome then none else some (entries ++ [(key, value)])
  | key :: path, entries =>
      match entries.lookup key with
      | none => do return entries ++ [(key, table .dotted (← assign? value path []))]
      | some (table .dotted inner) => do
          return replace key (table .dotted (← assign? value path inner)) entries
      | some _ => none

/-- The entries with the table that a header defines, which must be new or only a parent so far. -/
def define? : List String → List (String × Toml) → Option (List (String × Toml))
  | [], _ => none
  | [key], entries =>
      match entries.lookup key with
      | none => some (entries ++ [(key, table .header [])])
      | some (table .parent inner) => some (replace key (table .header inner) entries)
      | some _ => none
  | key :: path, entries =>
      match entries.lookup key with
      | none => do return entries ++ [(key, table .parent (← define? path []))]
      | some (table .braces _) => none
      | some (table origin inner) => do
          return replace key (table origin (← define? path inner)) entries
      | some _ => none

/-- The entries with a change to those of the table at a path. -/
def within? (change : List (String × Toml) → Option (List (String × Toml))) :
    List String → List (String × Toml) → Option (List (String × Toml))
  | [], entries => change entries
  | key :: path, entries =>
      match entries.lookup key with
      | some (table origin inner) => do
          return replace key (table origin (← within? change path inner)) entries
      | _ => none

end Toml

end Recipe
