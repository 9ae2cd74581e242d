/-!
# Tables

Values under names, in the order in which the names were first written. Writing a name again
replaces its value and keeps its place.
-/

set_option autoImplicit false

namespace Recipe

abbrev Table (α : Type) := List (String × α)

namespace Table

variable {α : Type}

/-- The table with a value under a name, in the place of the name's earlier value if it has one. -/
def insert (name : String) (value : α) : Table α → Table α
  | [] => [(name, value)]
  | (other, old) :: rest =>
      if other = name then (name, value) :: rest else (other, old) :: insert name value rest

/-- The table of a list of values under names; of two values under one name the later counts. -/
def ofList (entries : List (String × α)) : Table α :=
  entries.foldl (fun table entry => insert entry.1 entry.2 table) []

def names (table : Table α) : List String := table.map Prod.fst

def has (table : Table α) (name : String) : Bool := table.any (·.1 == name)

/-! ## Laws -/

/-- The value just written is the one found. -/
theorem lookup_insert_self (name : String) (value : α) (table : Table α) :
    (insert name value table).lookup name = some value := by
  induction table with
  | nil => simp [insert]
  | cons entry rest ih =>
      obtain ⟨other, old⟩ := entry
      by_cases h : other = name
      · simp [insert, h]
      · have h' : (name == other) = false := by simp [Ne.symm h]
        simp [insert, h, List.lookup_cons, h', ih]

/-- Writing a name leaves the others alone. -/
theorem lookup_insert_of_ne {name other : String} (h : other ≠ name) (value : α)
    (table : Table α) : (insert name value table).lookup other = table.lookup other := by
  have hne : (other == name) = false := by simp [h]
  induction table with
  | nil => simp [insert, List.lookup_cons, hne]
  | cons entry rest ih =>
      obtain ⟨key, old⟩ := entry
      by_cases hk : key = name
      · simp [insert, hk, List.lookup_cons, hne]
      · simp [insert, hk, List.lookup_cons, ih]

theorem mem_names_insert {name other : String} {value : α} {table : Table α} :
    other ∈ names (insert name value table) ↔ other = name ∨ other ∈ names table := by
  induction table with
  | nil => simp [insert, names]
  | cons entry rest ih =>
      obtain ⟨key, old⟩ := entry
      simp only [names] at ih
      by_cases hk : key = name
      · simp [insert, hk, names]
      · simp only [insert, hk, if_false, names, List.map_cons, List.mem_cons, ih]
        exact or_left_comm

theorem nodup_names_insert {name : String} {value : α} {table : Table α}
    (h : (names table).Nodup) : (names (insert name value table)).Nodup := by
  induction table with
  | nil => simp [insert, names]
  | cons entry rest ih =>
      obtain ⟨key, old⟩ := entry
      simp only [names, List.map_cons, List.nodup_cons] at h
      by_cases hk : key = name
      · subst hk
        simpa [insert, names] using h
      · simp only [insert, hk, if_false, names, List.map_cons, List.nodup_cons]
        refine ⟨fun hmem => ?_, ih h.2⟩
        rcases mem_names_insert.mp hmem with hname | hrest
        · exact hk hname
        · exact h.1 hrest

end Table

end Recipe
