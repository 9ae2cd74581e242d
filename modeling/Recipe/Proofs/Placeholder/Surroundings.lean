import Recipe.Proofs.Placeholder.Settled

/-!
# Text around placeholders

Where there are no braces there are no placeholders, so text without braces on either side of another
text changes nothing about how that one is renamed (`renameChars_append`). A renamed text is blank
exactly if it was blank before (`isBlankText_renamePlaceholders`).
-/

set_option autoImplicit false

namespace Recipe

open Text

variable {cs before inside after lead trail : List Char} {pieces : List Piece}

/-! ## Characters without braces -/

theorem unbraced_of_blank (h : Blank cs) : Unbraced cs := by
  intro c hc
  rw [Bool.eq_false_iff]
  intro hbrace
  have hblank := h c hc
  simp only [isBrace, Bool.or_eq_true, beq_iff_eq] at hbrace
  rcases hbrace with rfl | rfl <;> exact absurd hblank (by decide)

theorem unbraced_append {other : List Char} :
    Unbraced (cs ++ other) ↔ Unbraced cs ∧ Unbraced other :=
  List.forall_mem_append

/-- **A placeholder in front of text without braces is one without that text.** -/
theorem PlaceholderAt.of_append (h : PlaceholderAt (cs ++ trail) before inside after)
    (htrail : Unbraced trail) : ∃ rest, PlaceholderAt cs before inside rest := by
  rcases List.append_eq_append_iff.mp h.split with ⟨shared, hbefore, hshared⟩ | ⟨rest, hcs, -⟩
  · cases shared with
    | nil => exact ⟨[], h.unbraced, by simpa using hbefore.symm⟩
    | cons c last =>
        -- the braces at the end of the placeholder would be in the text behind
        have hlast : (before ++ bracketed inside).getLast? = some '\x7d' := by
          rw [bracketed, ← List.append_assoc, List.getLast?_append]
          rfl
        rw [hbefore, List.getLast?_append, List.getLast?_cons, Option.some_or] at hlast
        have hmem : '\x7d' ∈ c :: last := List.mem_of_getLast? (List.getLast?_cons.trans hlast)
        rw [hshared] at htrail
        exact absurd (htrail _ (List.mem_append_left _ hmem)) (by decide)
  · exact ⟨rest, h.unbraced, hcs⟩

/-! ## Pieces -/

theorem Proper.renameChars_eq (h : Proper pieces) :
    renameChars (assembled pieces) = assembled (pieces.map Piece.rename) := by
  obtain ⟨others, hothers, hassembled, hrenamed⟩ := exists_proper (assembled pieces)
  rw [hrenamed, hothers.unique h hassembled]

/-- Characters without braces in front are pieces of their own. -/
theorem Proper.map_char_append (h : Proper pieces) (hlead : Unbraced lead) :
    Proper (lead.map .char ++ pieces) := by
  induction lead with
  | nil => exact h
  | cons c lead ih =>
      refine .char (not_placeholderAt ?_) (ih fun d hd => hlead d (List.mem_cons_of_mem _ hd))
      intro _ hc _
      have hbrace := hlead c List.mem_cons_self
      rw [hc] at hbrace
      exact absurd hbrace (by decide)

/-- So are those behind. -/
theorem Proper.append_map_char (h : Proper pieces) (htrail : Unbraced trail) :
    Proper (pieces ++ trail.map .char) := by
  induction h with
  | nil => simpa using Proper.nil.map_char_append htrail
  | placeholder hinside _ ih => exact .placeholder hinside ih
  | @char c rest hc _ ih =>
      refine .char ?_ ih
      intro inside after hat
      have hassembled :
          c :: assembled (rest ++ trail.map .char) = (c :: assembled rest) ++ trail := by
        rw [assembled_append, assembled_map_char, List.cons_append]
      obtain ⟨earlier, hat⟩ := (hassembled ▸ hat).of_append htrail
      exact hc inside earlier hat

theorem map_rename_map_char (run : List Char) :
    (run.map Piece.char).map Piece.rename = run.map Piece.char := by
  rw [List.map_map]
  rfl

/-- **Text without braces on either side stays, and so does what is between it.** -/
theorem renameChars_append (cs : List Char) (hlead : Unbraced lead) (htrail : Unbraced trail) :
    renameChars (lead ++ cs ++ trail) = lead ++ renameChars cs ++ trail := by
  obtain ⟨pieces, hproper, rfl, hrenamed⟩ := exists_proper cs
  have hall := ((hproper.map_char_append hlead).append_map_char htrail).renameChars_eq
  simp only [List.map_append, assembled_append, assembled_map_char, map_rename_map_char] at hall
  rw [hall, hrenamed]

theorem renameChars_bracketed (h : Unbraced inside) :
    renameChars (bracketed inside) = bracketed (renameInside inside) := by
  have hproper : Proper [.placeholder inside] := .placeholder h .nil
  have hrenamed := hproper.renameChars_eq
  simpa [Piece.rename] using hrenamed

/-! ## Blank texts -/

theorem blank_assembled_map_rename (pieces : List Piece) :
    Blank (assembled (pieces.map Piece.rename)) ↔ Blank (assembled pieces) := by
  have hbracketed : ∀ inside rest : List Char, ¬ Blank (bracketed inside ++ rest) := by
    intro inside rest h
    exact absurd (h '\x7b' List.mem_cons_self) (by decide)
  induction pieces with
  | nil => rfl
  | cons piece rest ih =>
      cases piece with
      | char c =>
          simp only [Blank, List.map_cons, Piece.rename, assembled_char, List.forall_mem_cons]
          exact and_congr_right fun _ => ih
      | placeholder inside => simp [Piece.rename, hbracketed]

theorem isBlankText_eq_true {text : String} : isBlankText text = true ↔ Blank text.toList :=
  List.all_eq_true

/-- **A renamed text is blank exactly if it was blank before.** -/
theorem isBlankText_renamePlaceholders (text : String) :
    isBlankText (renamePlaceholders text) = isBlankText text := by
  obtain ⟨pieces, -, hassembled, hrenamed⟩ := exists_proper text.toList
  rw [Bool.eq_iff_iff, isBlankText_eq_true, isBlankText_eq_true, renamePlaceholders,
    String.toList_ofList, hrenamed, blank_assembled_map_rename, hassembled]

/-! ## Trimming -/

/-- The first character stays, or it is the first brace of a placeholder. -/
theorem head?_assembled_map_rename (pieces : List Piece) :
    (assembled (pieces.map Piece.rename)).head? = (assembled pieces).head? := by
  match pieces with
  | [] => rfl
  | .char c :: _ => rfl
  | .placeholder inside :: _ => rfl

/-- So does the last one. -/
theorem getLast?_assembled_map_rename (pieces : List Piece) :
    (assembled (pieces.map Piece.rename)).getLast? = (assembled pieces).getLast? := by
  have hbracketed : ∀ inside : List Char, (bracketed inside).getLast? = some '\x7d' := by
    intro inside
    rw [bracketed, List.getLast?_append]
    rfl
  rcases List.eq_nil_or_concat pieces with rfl | ⟨first, piece, rfl⟩
  · rfl
  · rw [List.concat_eq_append, List.map_append, assembled_append, assembled_append,
      List.getLast?_append, List.getLast?_append]
    cases piece with
    | char c => rfl
    | placeholder inside => simp [Piece.rename, hbracketed]

theorem bare_renameChars (h : Bare cs) : Bare (renameChars cs) := by
  obtain ⟨pieces, -, rfl, hrenamed⟩ := exists_proper cs
  rw [hrenamed]
  constructor
  · rw [head?_assembled_map_rename]
    exact h.head
  · rw [getLast?_assembled_map_rename]
    exact h.last

/-- **It is all one whether a text is trimmed before it is renamed or afterwards.** -/
theorem renamePlaceholders_trim (text : String) :
    renamePlaceholders (trim text) = trim (renamePlaceholders text) := by
  obtain ⟨lead, trail, hlead, htrail, hsplit⟩ := exists_blank_append_trimmed text.toList
  have hrenamed := renameChars_append (trimmed text.toList) (unbraced_of_blank hlead)
    (unbraced_of_blank htrail)
  rw [← hsplit] at hrenamed
  simp only [renamePlaceholders, trim, String.toList_ofList]
  rw [hrenamed, trimmed_append hlead (bare_renameChars (bare_trimmed _)) htrail]

end Recipe
