import Recipe.Proofs.Outcome
import Recipe.Proofs.Placeholder.Pieces
import Recipe.Resolve

/-!
# Renaming twice

Renaming a text leaves only references that renaming does not change (`Settled`), and neither makes
nor breaks a placeholder (`Proper.map_rename`). So renaming a second time changes nothing, be it of a
text or of all texts in a value (`renaming_settled`).
-/

set_option autoImplicit false

namespace Recipe

open Text

/-! ## References -/

/-- A reference that is in its canonical form, if it is one to an input. -/
structure Settled (reference : List Char) : Prop where
  self : ¬ "self.".toList <+: reference
  inputs : "inputs.".toList <+: reference → '_' ∉ reference

theorem settled_renameReference (reference : List Char) : Settled (renameReference reference) := by
  have hinput : ∀ name : List Char, Settled ("inputs.".toList ++ name.map hyphenated) := by
    intro name
    constructor
    · rintro ⟨rest, hrest⟩
      exact absurd (List.cons.inj hrest).1 (by decide)
    · intro _ hmem
      rcases List.mem_append.mp hmem with hmem | hmem
      · exact absurd hmem (by decide)
      · obtain ⟨c, -, hc⟩ := List.mem_map.mp hmem
        exact hyphenated_ne_underscore c hc
  have hrenamed := referenceRenamed_renameReference reference
  generalize renameReference reference = renamed at hrenamed
  cases hrenamed with
  | self name => exact hinput name
  | inputs name => exact hinput name
  | other hself hinputs => exact ⟨hself, fun h => (hinputs h).elim⟩

/-- **A settled reference stays as it is.** -/
theorem Settled.renameReference_eq {reference : List Char} (h : Settled reference) :
    renameReference reference = reference := by
  have hrenamed := referenceRenamed_renameReference reference
  generalize renameReference reference = renamed at hrenamed
  cases hrenamed with
  | self name => exact (h.self (List.prefix_append _ _)).elim
  | inputs name =>
      have hsame : name.map hyphenated = name := by
        refine (List.map_congr_left fun c hc => ?_).trans (List.map_id name)
        have hne : c ≠ '_' := by
          rintro rfl
          exact h.inputs (List.prefix_append _ _) (List.mem_append_right _ hc)
        rw [hyphenated, if_neg hne, id]
      rw [hsame]
  | other _ _ => rfl

theorem isBrace_hyphenated (c : Char) : isBrace (hyphenated c) = isBrace c :=
  apply_hyphenated (by decide) c

theorem Unbraced.renameReference {reference : List Char} (h : Unbraced reference) :
    Unbraced (renameReference reference) := by
  have hlead : Unbraced "inputs.".toList := by
    have hall : "inputs.".toList.all (fun c => !isBrace c) = true := by decide
    simpa [Unbraced] using hall
  have hinput : ∀ name : List Char, (∀ c ∈ name, c ∈ reference) →
      Unbraced ("inputs.".toList ++ name.map hyphenated) := by
    intro name hname c hc
    rcases List.mem_append.mp hc with hc | hc
    · exact hlead c hc
    · obtain ⟨d, hd, rfl⟩ := List.mem_map.mp hc
      rw [isBrace_hyphenated]
      exact h d (hname d hd)
  have hrenamed := referenceRenamed_renameReference reference
  generalize Recipe.renameReference reference = renamed at hrenamed
  cases hrenamed with
  | self name => exact hinput name fun c hc => List.mem_append_right _ hc
  | inputs name => exact hinput name fun c hc => List.mem_append_right _ hc
  | other _ _ => exact h

theorem Text.Bare.renameReference {reference : List Char} (h : Bare reference) :
    Bare (renameReference reference) := by
  -- the name has the same end as the reference, or there is none and the point in front ends it
  have hinput : ∀ lead name : List Char, Bare (lead ++ name) →
      Bare ("inputs.".toList ++ name.map hyphenated) := by
    intro lead name hbare
    constructor
    · intro c hc
      have hi : c = 'i' := (Option.some.inj hc).symm
      rw [hi]
      decide
    · intro c hc
      cases hlast : name.getLast? with
      | none =>
          rw [List.getLast?_eq_none_iff] at hlast
          subst hlast
          have hpoint : c = '.' := (Option.some.inj hc).symm
          rw [hpoint]
          decide
      | some d =>
          rw [List.getLast?_append, List.getLast?_map, hlast] at hc
          have hd : hyphenated d = c := Option.some.inj hc
          rw [← hd, isBlank_hyphenated]
          refine hbare.last d ?_
          rw [List.getLast?_append, hlast]
          rfl
  have hrenamed := referenceRenamed_renameReference reference
  generalize Recipe.renameReference reference = renamed at hrenamed
  cases hrenamed with
  | self name => exact hinput _ name h
  | inputs name => exact hinput _ name h
  | other _ _ => exact h

/-! ## Insides -/

theorem trimmed_renameInside (inside : List Char) :
    trimmed (renameInside inside) = renameReference (trimmed inside) := by
  obtain ⟨lead, trail, hlead, htrail, hsplit⟩ := exists_blank_append_trimmed inside
  have hbare := bare_trimmed inside
  have hrenamed := renameInside_append hlead htrail hbare
  rw [← hsplit] at hrenamed
  rw [hrenamed, trimmed_append hlead hbare.renameReference htrail]

theorem renameInside_renameInside (inside : List Char) :
    renameInside (renameInside inside) = renameInside inside := by
  obtain ⟨lead, trail, hlead, htrail, hsplit⟩ := exists_blank_append_trimmed inside
  have hbare := bare_trimmed inside
  have hrenamed := renameInside_append hlead htrail hbare
  rw [← hsplit] at hrenamed
  rw [hrenamed, renameInside_append hlead htrail hbare.renameReference,
    (settled_renameReference _).renameReference_eq]

theorem Unbraced.renameInside {inside : List Char} (h : Unbraced inside) :
    Unbraced (renameInside inside) := by
  obtain ⟨lead, trail, hlead, htrail, hsplit⟩ := exists_blank_append_trimmed inside
  have hrenamed := renameInside_append hlead htrail (bare_trimmed inside)
  rw [← hsplit] at hrenamed
  rw [hsplit] at h
  have hreference : Unbraced (trimmed inside) :=
    fun c hc => h c (List.mem_append_left _ (List.mem_append_right _ hc))
  rw [hrenamed]
  intro c hc
  rcases List.mem_append.mp hc with hc | hc
  · rcases List.mem_append.mp hc with hc | hc
    · exact h c (List.mem_append_left _ (List.mem_append_left _ hc))
    · exact hreference.renameReference c hc
  · exact h c (List.mem_append_right _ hc)

/-! ## Pieces -/

variable {pieces : List Piece}

theorem Piece.rename_rename (piece : Piece) : piece.rename.rename = piece.rename := by
  cases piece with
  | char c => rfl
  | placeholder inside => rw [rename, rename, renameInside_renameInside]

/-- Characters that are no opening braces are pieces of their own. -/
theorem exists_of_assembled_eq {run after : List Char} (hrun : '\x7b' ∉ run)
    (h : assembled pieces = run ++ after) :
    ∃ rest, pieces = run.map .char ++ rest ∧ assembled rest = after := by
  induction run generalizing pieces with
  | nil => exact ⟨pieces, rfl, h⟩
  | cons c run ih =>
      obtain ⟨hc, hrest⟩ := not_or.mp (mt List.mem_cons.mpr hrun)
      match pieces, h with
      | [], h => cases h
      | .placeholder inside :: others, h => exact (hc (List.cons.inj h).1).elim
      | .char d :: others, h =>
          obtain ⟨rfl, hothers⟩ := List.cons.inj h
          obtain ⟨rest, rfl, hassembled⟩ := ih hrest hothers
          exact ⟨rest, rfl, hassembled⟩

/-- What is a character after renaming was one before. -/
theorem exists_of_map_rename_eq {run : List Char} {rest : List Piece}
    (h : pieces.map Piece.rename = run.map .char ++ rest) :
    ∃ others, pieces = run.map .char ++ others := by
  induction run generalizing pieces with
  | nil => exact ⟨pieces, rfl⟩
  | cons c run ih =>
      match pieces, h with
      | [], h => cases h
      | .placeholder inside :: _, h => cases (List.cons.inj h).1
      | .char d :: others, h =>
          obtain ⟨hd, hothers⟩ := List.cons.inj h
          cases hd
          obtain ⟨later, rfl⟩ := ih hothers
          exact ⟨later, rfl⟩

theorem assembled_map_char (run : List Char) : assembled (run.map .char) = run := by
  induction run with
  | nil => rfl
  | cons c run ih => rw [List.map_cons, assembled_char, ih]

/-- **Renaming makes no placeholder**, and breaks none. -/
theorem Proper.map_rename (h : Proper pieces) : Proper (pieces.map Piece.rename) := by
  induction h with
  | nil => exact .nil
  | placeholder hinside _ ih => exact .placeholder hinside.renameInside ih
  | @char c rest hc _ ih =>
      refine .char ?_ ih
      intro inside after hat
      have hsplit := hat.split
      rw [List.nil_append, bracketed_append] at hsplit
      obtain ⟨rfl, hrest⟩ := List.cons.inj hsplit
      -- the second opening brace is a piece of its own, for no placeholder starts in another
      match rest, hrest with
      | .placeholder other :: others, hrest =>
          have hopening : inside ++ '\x7d' :: '\x7d' :: after = [] ++ '\x7b' ::
              (renameInside other ++ ['\x7d', '\x7d'] ++ assembled (others.map Piece.rename)) :=
            (List.cons.inj hrest).2.symm
          obtain ⟨between, hnil, -⟩ := exists_of_opening [] hat.unbraced hopening
          simp at hnil
      | .char d :: others, hrest =>
          obtain ⟨rfl, htail⟩ := List.cons.inj hrest
          -- so is all up to the closing braces, which were there before renaming
          have hrun : '\x7b' ∉ inside ++ ['\x7d', '\x7d'] := by
            intro hmem
            rcases List.mem_append.mp hmem with hmem | hmem
            · exact absurd (hat.unbraced _ hmem) (by decide)
            · exact absurd hmem (by decide)
          have hafter : assembled (others.map Piece.rename) =
              (inside ++ ['\x7d', '\x7d']) ++ after := by
            rw [List.append_assoc]
            exact htail
          obtain ⟨later, hlater, -⟩ := exists_of_assembled_eq hrun hafter
          obtain ⟨kept, rfl⟩ := exists_of_map_rename_eq hlater
          refine hc inside (assembled kept) ⟨hat.unbraced, ?_⟩
          rw [assembled_char, assembled_append, assembled_map_char, List.nil_append, bracketed]
          simp

/-! ## Texts -/

/-- **Renaming a text again changes nothing.** -/
theorem renamePlaceholders_renamePlaceholders (text : String) :
    renamePlaceholders (renamePlaceholders text) = renamePlaceholders text := by
  obtain ⟨pieces, hproper, -, hrenamed⟩ := exists_proper text.toList
  obtain ⟨others, hothers, hassembled, hagain⟩ := exists_proper (renameChars text.toList)
  have hsame : others = pieces.map Piece.rename :=
    hothers.unique hproper.map_rename (hassembled.trans hrenamed)
  have hsettled : others.map Piece.rename = others := by
    rw [hsame, List.map_map]
    exact List.map_congr_left fun piece _ => piece.rename_rename
  rw [hsettled, hassembled] at hagain
  simp only [renamePlaceholders, String.toList_ofList]
  rw [hagain]

theorem settled_of_placeholderAt {text : String} {before inside after : List Char}
    (h : PlaceholderAt (renamePlaceholders text).toList before inside after) :
    Settled (trimmed inside) := by
  obtain ⟨pieces, hproper, -, hrenamed⟩ := exists_proper text.toList
  rw [renamePlaceholders, String.toList_ofList, hrenamed] at h
  obtain ⟨first, rest, hpieces, -, -⟩ := hproper.map_rename.placeholderAt_iff.mp h
  have hmem : Piece.placeholder inside ∈ pieces.map Piece.rename := by
    rw [hpieces]
    simp
  obtain ⟨piece, -, hpiece⟩ := List.mem_map.mp hmem
  cases piece with
  | char c => cases hpiece
  | placeholder earlier =>
      obtain rfl : renameInside earlier = inside := Piece.placeholder.inj hpiece
      rw [trimmed_renameInside]
      exact settled_renameReference _

/-! ## Values -/

namespace Json

mutual

/-- The second value is the first one with its texts renamed: lists keep their length and objects
the names of their fields in their order, and a leaf that is no text is the same. -/
inductive TextsRenamed : Json → Json → Prop
  | null : TextsRenamed .null .null
  | bool (value : Bool) : TextsRenamed (.bool value) (.bool value)
  | integer (value : Int) : TextsRenamed (.integer value) (.integer value)
  | double (value : Double) : TextsRenamed (.double value) (.double value)
  | string (text : String) : TextsRenamed (.string text) (.string (renamePlaceholders text))
  | list {items others : List Json} (h : ItemsRenamed items others) :
      TextsRenamed (.list items) (.list others)
  | object {fields others : List (String × Json)} (h : FieldsRenamed fields others) :
      TextsRenamed (.object fields) (.object others)

/-- The same for the items of a list. -/
inductive ItemsRenamed : List Json → List Json → Prop
  | nil : ItemsRenamed [] []
  | cons {item other : Json} {rest others : List Json} (hitem : TextsRenamed item other)
      (hrest : ItemsRenamed rest others) : ItemsRenamed (item :: rest) (other :: others)

/-- The same for the fields of an object. -/
inductive FieldsRenamed : List (String × Json) → List (String × Json) → Prop
  | nil : FieldsRenamed [] []
  | cons (name : String) {value other : Json} {rest others : List (String × Json)}
      (hvalue : TextsRenamed value other) (hrest : FieldsRenamed rest others) :
      FieldsRenamed ((name, value) :: rest) ((name, other) :: others)

end

mutual

theorem textsRenamed_renameTexts : ∀ value : Json, TextsRenamed value value.renameTexts
  | .null => .null
  | .bool value => .bool value
  | .integer value => .integer value
  | .double value => .double value
  | .string text => .string text
  | .list items => .list (itemsRenamed_renameTexts items)
  | .object fields => .object (fieldsRenamed_renameTexts fields)

theorem itemsRenamed_renameTexts : ∀ items : List Json, ItemsRenamed items (renameTextsOfItems items)
  | [] => .nil
  | item :: rest => .cons (textsRenamed_renameTexts item) (itemsRenamed_renameTexts rest)

theorem fieldsRenamed_renameTexts :
    ∀ fields : List (String × Json), FieldsRenamed fields (renameTextsOfFields fields)
  | [] => .nil
  | (name, value) :: rest =>
      .cons name (textsRenamed_renameTexts value) (fieldsRenamed_renameTexts rest)

end

mutual

/-- **Renaming the texts of a value again changes nothing.** -/
theorem renameTexts_renameTexts : ∀ value : Json, value.renameTexts.renameTexts = value.renameTexts
  | .null => rfl
  | .bool _ => rfl
  | .integer _ => rfl
  | .double _ => rfl
  | .string text => by
      rw [renameTexts, renameTexts, renamePlaceholders_renamePlaceholders]
  | .list items => by
      rw [renameTexts, renameTexts, renameTextsOfItems_renameTextsOfItems items]
  | .object fields => by
      rw [renameTexts, renameTexts, renameTextsOfFields_renameTextsOfFields fields]

theorem renameTextsOfItems_renameTextsOfItems :
    ∀ items : List Json, renameTextsOfItems (renameTextsOfItems items) = renameTextsOfItems items
  | [] => rfl
  | item :: rest => by
      rw [renameTextsOfItems, renameTextsOfItems, renameTexts_renameTexts item,
        renameTextsOfItems_renameTextsOfItems rest]

theorem renameTextsOfFields_renameTextsOfFields :
    ∀ fields : List (String × Json),
      renameTextsOfFields (renameTextsOfFields fields) = renameTextsOfFields fields
  | [] => rfl
  | (name, value) :: rest => by
      rw [renameTextsOfFields, renameTextsOfFields, renameTexts_renameTexts value,
        renameTextsOfFields_renameTextsOfFields rest]

end

end Json

/-- **Renaming is settled after one time.** A renamed text stays the same when it is renamed again,
and no placeholder in it refers to an input but by its canonical name. A literal is resolved, in
every scope, to one of the same shape, which is resolved to itself. -/
theorem renaming_settled :
    (∀ text : String, renamePlaceholders (renamePlaceholders text) = renamePlaceholders text ∧
      ∀ before inside after,
        PlaceholderAt (renamePlaceholders text).toList before inside after →
          ¬ "self.".toList <+: trimmed inside ∧
            ("inputs.".toList <+: trimmed inside → '_' ∉ trimmed inside)) ∧
    ∀ value : Json, ∃ renamed : Json, value.TextsRenamed renamed ∧
      (∀ (scope : Scope) (site : Site),
        scope.resolve (.literal value) site = .ok (.value renamed)) ∧
      ∀ (scope : Scope) (site : Site),
        scope.resolve (.literal renamed) site = .ok (.value renamed) := by
  refine ⟨?_, ?_⟩
  · intro text
    refine ⟨renamePlaceholders_renamePlaceholders text, ?_⟩
    intro before inside after hat
    have hsettled := settled_of_placeholderAt hat
    exact ⟨hsettled.self, hsettled.inputs⟩
  · intro value
    refine ⟨value.renameTexts, value.textsRenamed_renameTexts, fun _ _ => rfl, ?_⟩
    intro scope site
    rw [Scope.resolve, pure_eq_ok, value.renameTexts_renameTexts]

end Recipe
