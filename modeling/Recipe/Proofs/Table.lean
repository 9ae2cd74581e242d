import Recipe.Table
import Mathlib.Data.List.Basic
import Mathlib.Data.List.Nodup

/-!
# Tables with distinct names

In a table whose names are distinct, what is found under a name is what the table has under it, from
whichever end the search starts.
-/

set_option autoImplicit false

namespace Recipe.Table

/-! ## Looking up -/

section Lookup

variable {κ α : Type} [BEq κ] [LawfulBEq κ] {entries : List (κ × α)}

theorem mem_of_lookup {key : κ} {value : α} (h : entries.lookup key = some value) :
    (key, value) ∈ entries := by
  obtain ⟨before, after, rfl, -⟩ := List.lookup_eq_some_iff.mp h
  simp

theorem lookup_eq_some (hnodup : (entries.map Prod.fst).Nodup) {key : κ} {value : α} :
    entries.lookup key = some value ↔ (key, value) ∈ entries := by
  refine ⟨mem_of_lookup, ?_⟩
  intro h
  obtain ⟨before, after, rfl⟩ := List.append_of_mem h
  refine List.lookup_eq_some_iff.mpr ⟨before, after, rfl, ?_⟩
  intro entry hentry
  rw [List.map_append, List.map_cons] at hnodup
  have hne := (List.nodup_append.mp hnodup).2.2 entry.1 (List.mem_map_of_mem hentry) key (by simp)
  simpa using hne.symm

theorem lookup_reverse_eq_some (hnodup : (entries.map Prod.fst).Nodup) {key : κ} {value : α} :
    entries.reverse.lookup key = some value ↔ (key, value) ∈ entries := by
  rw [lookup_eq_some (by simpa using List.nodup_reverse.mpr hnodup), List.mem_reverse]

end Lookup

/-! ## Names -/

variable {α : Type} {table : Table α}

theorem has_eq_true {name : String} : table.has name = true ↔ name ∈ table.names := by
  simp only [has, List.any_eq_true, beq_iff_eq, names, List.mem_map]

theorem insert_of_not_mem {name : String} {value : α} (h : name ∉ table.names) :
    table.insert name value = table ++ [(name, value)] := by
  induction table with
  | nil => rfl
  | cons entry rest ih =>
      obtain ⟨other, old⟩ := entry
      rw [names, List.map_cons, List.mem_cons, not_or] at h
      rw [insert, if_neg (Ne.symm h.1), ih h.2]
      rfl

/-- What is in a table after a value was written, if names were distinct before. -/
theorem mem_insert (h : table.names.Nodup) {name : String} {value : α} {entry : String × α} :
    entry ∈ table.insert name value ↔
      entry = (name, value) ∨ entry ∈ table ∧ entry.1 ≠ name := by
  induction table with
  | nil => simp [insert]
  | cons first rest ih =>
      obtain ⟨other, old⟩ := first
      rw [names, List.map_cons, List.nodup_cons] at h
      have hrest : ∀ entry ∈ rest, entry.1 ≠ other := by
        intro entry hentry heq
        exact h.1 (List.mem_map.mpr ⟨entry, hentry, heq⟩)
      by_cases hname : other = name
      · subst hname
        rw [insert, if_pos rfl, List.mem_cons, List.mem_cons]
        constructor
        · rintro (rfl | hentry)
          · exact Or.inl rfl
          · exact Or.inr ⟨Or.inr hentry, hrest entry hentry⟩
        · rintro (rfl | ⟨rfl | hentry, hne⟩)
          · exact Or.inl rfl
          · exact (hne rfl).elim
          · exact Or.inr hentry
      · rw [insert, if_neg hname, List.mem_cons, List.mem_cons, ih h.2]
        constructor
        · rintro (rfl | rfl | ⟨hentry, hne⟩)
          · exact Or.inr ⟨Or.inl rfl, hname⟩
          · exact Or.inl rfl
          · exact Or.inr ⟨Or.inr hentry, hne⟩
        · rintro (rfl | ⟨rfl | hentry, hne⟩)
          · exact Or.inr (Or.inl rfl)
          · exact Or.inl rfl
          · exact Or.inr (Or.inr ⟨hentry, hne⟩)

end Recipe.Table
