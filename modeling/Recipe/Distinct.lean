/-!
# First occurrences

Lists without repetitions, in the order in which their members first occurred.
-/

set_option autoImplicit false

namespace Recipe

variable {α : Type} [DecidableEq α]

/-- The list with one more member, unless it has it already. -/
def addNew (xs : List α) (x : α) : List α := if x ∈ xs then xs else xs ++ [x]

/-- The first occurrences of the members of a list. -/
def distinct (xs : List α) : List α := xs.foldl addNew []

/-! ## Laws -/

theorem mem_addNew {xs : List α} {x y : α} : y ∈ addNew xs x ↔ y ∈ xs ∨ y = x := by
  unfold addNew
  split
  · next h =>
      constructor
      · exact Or.inl
      · rintro (hy | rfl)
        · exact hy
        · exact h
  · simp

theorem nodup_addNew {xs : List α} {x : α} (h : xs.Nodup) : (addNew xs x).Nodup := by
  unfold addNew
  split
  · exact h
  · next hx =>
      rw [List.nodup_append]
      refine ⟨h, by simp, ?_⟩
      intro a ha b hb hab
      simp only [List.mem_singleton] at hb
      subst hb
      exact hx (hab ▸ ha)

theorem mem_foldl_addNew {xs start : List α} {y : α} :
    y ∈ xs.foldl addNew start ↔ y ∈ start ∨ y ∈ xs := by
  induction xs generalizing start with
  | nil => simp
  | cons x rest ih =>
      rw [List.foldl_cons, ih, mem_addNew, List.mem_cons, or_assoc]

theorem nodup_foldl_addNew {xs start : List α} (h : start.Nodup) :
    (xs.foldl addNew start).Nodup := by
  induction xs generalizing start with
  | nil => exact h
  | cons x rest ih => exact ih (nodup_addNew h)

theorem mem_distinct {xs : List α} {y : α} : y ∈ distinct xs ↔ y ∈ xs := by
  rw [distinct, mem_foldl_addNew]
  simp

/-- The members of a second list come after those of the first. -/
theorem distinct_append (xs ys : List α) : distinct (xs ++ ys) = ys.foldl addNew (distinct xs) :=
  List.foldl_append

/-- Nothing is added exactly if all is there already. -/
theorem foldl_addNew_eq_self {xs ys : List α} : ys.foldl addNew xs = xs ↔ ∀ y ∈ ys, y ∈ xs := by
  constructor
  · intro h y hy
    rw [← h, mem_foldl_addNew]
    exact Or.inr hy
  · intro h
    induction ys with
    | nil => rfl
    | cons y rest ih =>
        have hsame : addNew xs y = xs := if_pos (h y List.mem_cons_self)
        rw [List.foldl_cons, hsame]
        exact ih fun other hother => h other (List.mem_cons_of_mem _ hother)

theorem nodup_distinct (xs : List α) : (distinct xs).Nodup :=
  nodup_foldl_addNew List.nodup_nil

end Recipe
