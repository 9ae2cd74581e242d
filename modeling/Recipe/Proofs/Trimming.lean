import Recipe.Name
import Mathlib.Data.List.TakeWhile

/-!
# Trimming

A text is blank characters, then the trimmed text, then blank characters again, and the trimmed text
is what neither starts nor ends with a blank character. So trimming is settled after one time, and
so are canonical names.
-/

set_option autoImplicit false

namespace Recipe

namespace Text

def Blank (cs : List Char) : Prop := ∀ c ∈ cs, isBlank c = true

/-- The characters neither start nor end with a blank one. -/
structure Bare (cs : List Char) : Prop where
  head : ∀ c, cs.head? = some c → isBlank c = false
  last : ∀ c, cs.getLast? = some c → isBlank c = false

variable {cs lead trail : List Char}

theorem head?_dropWhile_isBlank {c : Char} (h : (cs.dropWhile isBlank).head? = some c) :
    isBlank c = false := by
  have hnot := List.head?_dropWhile_not isBlank cs
  rwa [h] at hnot

theorem exists_trimEnd_append (cs : List Char) : ∃ trail, Blank trail ∧ cs = trimEnd cs ++ trail := by
  refine ⟨(cs.reverse.takeWhile isBlank).reverse, ?_, ?_⟩
  · intro c hc
    exact List.mem_takeWhile_imp (List.mem_reverse.mp hc)
  · rw [trimEnd, ← List.reverse_append, List.takeWhile_append_dropWhile, List.reverse_reverse]

/-- **A text is the trimmed text with blank characters around it.** -/
theorem exists_blank_append_trimmed (cs : List Char) :
    ∃ lead trail, Blank lead ∧ Blank trail ∧ cs = lead ++ trimmed cs ++ trail := by
  obtain ⟨trail, htrail, hsplit⟩ := exists_trimEnd_append (cs.dropWhile isBlank)
  refine ⟨cs.takeWhile isBlank, trail, fun c hc => List.mem_takeWhile_imp hc, htrail, ?_⟩
  calc cs = cs.takeWhile isBlank ++ cs.dropWhile isBlank := List.takeWhile_append_dropWhile.symm
    _ = cs.takeWhile isBlank ++ trimmed cs ++ trail := by
        rw [List.append_assoc, trimmed, ← hsplit]

/-- **A trimmed text is bare.** -/
theorem bare_trimmed (cs : List Char) : Bare (trimmed cs) := by
  obtain ⟨trail, -, hsplit⟩ := exists_trimEnd_append (cs.dropWhile isBlank)
  constructor
  -- the trimmed text starts where the blank characters in front end
  · intro c hc
    have hfirst : (cs.dropWhile isBlank).head? = some c := by
      rw [trimmed] at hc
      rw [hsplit, List.head?_append, hc, Option.some_or]
    exact head?_dropWhile_isBlank hfirst
  · intro c hc
    rw [trimmed, trimEnd, List.getLast?_reverse] at hc
    exact head?_dropWhile_isBlank hc

theorem trimEnd_append (hcs : Bare cs) (htrail : Blank trail) : trimEnd (cs ++ trail) = cs := by
  have hlast : cs.reverse.dropWhile isBlank = cs.reverse := by
    cases hreverse : cs.reverse with
    | nil => rfl
    | cons c rest =>
        have hc : cs.getLast? = some c := by rw [← List.head?_reverse, hreverse, List.head?_cons]
        rw [List.dropWhile_cons_of_neg (by simp [hcs.last c hc])]
  have hreverse : ∀ c ∈ trail.reverse, isBlank c = true :=
    fun c hc => htrail c (List.mem_reverse.mp hc)
  rw [trimEnd, List.reverse_append, List.dropWhile_append_of_pos hreverse, hlast,
    List.reverse_reverse]

/-- A bare text is found again behind blank characters, unless it is empty. -/
theorem dropWhile_append (hlead : Blank lead) (hcs : Bare cs) (hne : cs ≠ []) (trail : List Char) :
    (lead ++ cs ++ trail).dropWhile isBlank = cs ++ trail ∧
      (lead ++ cs ++ trail).takeWhile isBlank = lead := by
  obtain ⟨c, rest, rfl⟩ := List.exists_cons_of_ne_nil hne
  have hc : isBlank c = false := hcs.head c rfl
  rw [List.append_assoc, List.dropWhile_append_of_pos hlead, List.takeWhile_append_of_pos hlead]
  simp [hc]

theorem trimmed_eq_nil_iff : trimmed cs = [] ↔ Blank cs := by
  constructor
  · intro h c hc
    obtain ⟨lead, trail, hlead, htrail, hsplit⟩ := exists_blank_append_trimmed cs
    rw [hsplit, h, List.append_nil] at hc
    exact (List.mem_append.mp hc).elim (hlead c) (htrail c)
  · intro h
    have hdrop : cs.dropWhile isBlank = [] := List.dropWhile_eq_nil_iff.mpr h
    simp [trimmed, trimEnd, hdrop]

/-- A blank text is one that trimming leaves empty. -/
theorem isBlankText_iff (text : String) : isBlankText text = true ↔ trim text = "" := by
  rw [trim, String.ofList_eq_empty_iff, trimmed_eq_nil_iff, isBlankText, List.all_eq_true]
  rfl

/-- **Nothing but the blank characters around a bare text is lost.** -/
theorem trimmed_append (hlead : Blank lead) (hcs : Bare cs) (htrail : Blank trail) :
    trimmed (lead ++ cs ++ trail) = cs := by
  by_cases hne : cs = []
  · subst hne
    refine trimmed_eq_nil_iff.mpr ?_
    intro c hc
    rcases List.mem_append.mp hc with hc | hc
    · exact hlead c (by simpa using hc)
    · exact htrail c hc
  · rw [trimmed, (dropWhile_append hlead hcs hne trail).1, trimEnd_append hcs htrail]

theorem trimmed_eq_self (h : Bare cs) : trimmed cs = cs := by
  have hnil : Blank [] := fun _ hc => (List.not_mem_nil hc).elim
  have happend : trimmed ([] ++ cs ++ []) = cs := trimmed_append hnil h hnil
  simpa using happend

end Text

/-! ## Canonical names -/

open Text

/-- What does not tell a hyphen from an underscore does not tell a hyphenated character from what it
was. -/
theorem apply_hyphenated {test : Char → Bool} (h : test '-' = test '_') (c : Char) :
    test (hyphenated c) = test c := by
  unfold hyphenated
  split
  · next hc =>
      rw [hc]
      exact h
  · rfl

theorem isBlank_hyphenated (c : Char) : isBlank (hyphenated c) = isBlank c :=
  apply_hyphenated (by decide) c

theorem hyphenated_hyphenated (c : Char) : hyphenated (hyphenated c) = hyphenated c := by
  unfold hyphenated
  split
  · decide
  · next h => rfl

theorem hyphenated_ne_underscore (c : Char) : hyphenated c ≠ '_' := by
  unfold hyphenated
  split
  · decide
  · next h => exact h

theorem Text.Bare.map_hyphenated {cs : List Char} (h : Bare cs) : Bare (cs.map hyphenated) where
  head := by
    intro c hc
    rw [List.head?_map, Option.map_eq_some_iff] at hc
    obtain ⟨d, hd, rfl⟩ := hc
    rw [isBlank_hyphenated, h.head d hd]
  last := by
    intro c hc
    rw [List.getLast?_map, Option.map_eq_some_iff] at hc
    obtain ⟨d, hd, rfl⟩ := hc
    rw [isBlank_hyphenated, h.last d hd]

/-- **A canonical name is its own canonical name.** -/
theorem paramName_paramName (name : String) : paramName (paramName name) = paramName name := by
  have hbare := (bare_trimmed name.toList).map_hyphenated
  have hsettled : ∀ cs : List Char, (cs.map hyphenated).map hyphenated = cs.map hyphenated := by
    intro cs
    simp [hyphenated_hyphenated]
  simp only [paramName, String.toList_ofList]
  rw [trimmed_eq_self hbare, hsettled]

end Recipe
