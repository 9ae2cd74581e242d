/-!
# What a search has not seen

The number of members of a list that a search has not seen yet. It goes down whenever the search
sees one more, and so bounds every walk that enters a member only once.
-/

set_option autoImplicit false

namespace Recipe

variable {α : Type} [DecidableEq α]

/-- The number of members of a list that are not among those seen. -/
def unseen (members seen : List α) : Nat := members.countP fun x => decide (x ∉ seen)

/-- What has been seen only grows, so what has not only shrinks. -/
theorem unseen_le {members seen more : List α} (hsub : ∀ x ∈ seen, x ∈ more) :
    unseen members more ≤ unseen members seen := by
  apply List.countP_mono_left
  intro x _ hx
  simp only [decide_eq_true_eq] at hx ⊢
  exact fun hseen => hx (hsub x hseen)

/-- A search that sees one more member has fewer left. -/
theorem unseen_lt {members seen more : List α} {x : α} (hsub : ∀ y ∈ seen, y ∈ more)
    (hmem : x ∈ members) (hseen : x ∉ seen) (hmore : x ∈ more) :
    unseen members more < unseen members seen := by
  induction members with
  | nil => simp at hmem
  | cons y ys ih =>
      have hle : unseen ys more ≤ unseen ys seen := unseen_le hsub
      simp only [unseen, List.countP_cons, decide_eq_true_eq] at hle ih ⊢
      by_cases hy : y = x
      · subst hy
        rw [if_neg (fun h => h hmore), if_pos hseen]
        omega
      · have hlt := ih (List.mem_of_ne_of_mem (Ne.symm hy) hmem)
        by_cases hs : y ∈ seen
        · rw [if_neg (fun h => h (hsub y hs)), if_neg (fun h => h hs)]
          exact hlt
        · rw [if_pos hs]
          split <;> omega

theorem unseen_cons_lt {members seen : List α} {x : α} (hmem : x ∈ members) (hseen : x ∉ seen) :
    unseen members (x :: seen) < unseen members seen :=
  unseen_lt (fun _ hy => List.mem_cons_of_mem x hy) hmem hseen List.mem_cons_self

theorem unseen_append_lt {members seen : List α} {x : α} (hmem : x ∈ members) (hseen : x ∉ seen) :
    unseen members (seen ++ [x]) < unseen members seen :=
  unseen_lt (fun _ hy => List.mem_append_left [x] hy) hmem hseen (by simp)

end Recipe
