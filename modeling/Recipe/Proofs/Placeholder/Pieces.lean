import Recipe.Placeholder
import Recipe.Proofs.Trimming
import Mathlib.Data.List.Forall2

/-!
# Texts and their placeholders

Placeholders never overlap, so a text is in one way a sequence of placeholders and single characters
between them (`Proper`). Renaming works on these pieces one by one: the characters stay, and of a
placeholder only the reference changes (`placeholders_renamed`).
-/

set_option autoImplicit false

namespace Recipe

open Text

/-! ## References -/

theorem afterLead?_eq_some {lead cs rest : List Char} :
    afterLead? lead cs = some rest ↔ cs = lead ++ rest := by
  induction lead generalizing cs with
  | nil => simp [afterLead?]
  | cons l lead ih =>
      cases cs with
      | nil => simp [afterLead?]
      | cons c cs =>
          by_cases hc : l = c
          · simp [afterLead?, hc, ih]
          · simp [afterLead?, hc, Ne.symm hc]

theorem afterLead?_eq_none {lead cs : List Char} : afterLead? lead cs = none ↔ ¬ lead <+: cs := by
  rw [Option.eq_none_iff_forall_ne_some]
  simp only [ne_eq, afterLead?_eq_some]
  constructor
  · rintro h ⟨rest, hrest⟩
    exact h rest hrest.symm
  · rintro h rest rfl
    exact h (List.prefix_append _ _)

/-- How a reference is renamed: one to an input goes by the input's canonical name from then on, and
any other stays as it is. -/
inductive ReferenceRenamed : List Char → List Char → Prop
  | self (name : List Char) :
      ReferenceRenamed ("self.".toList ++ name) ("inputs.".toList ++ name.map hyphenated)
  | inputs (name : List Char) :
      ReferenceRenamed ("inputs.".toList ++ name) ("inputs.".toList ++ name.map hyphenated)
  | other {reference : List Char} (hself : ¬ "self.".toList <+: reference)
      (hinputs : ¬ "inputs.".toList <+: reference) : ReferenceRenamed reference reference

theorem referenceRenamed_renameReference (reference : List Char) :
    ReferenceRenamed reference (renameReference reference) := by
  unfold renameReference
  cases hself : afterLead? "self.".toList reference with
  | some name =>
      rw [afterLead?_eq_some] at hself
      subst hself
      exact .self name
  | none =>
      cases hinputs : afterLead? "inputs.".toList reference with
      | some name =>
          rw [afterLead?_eq_some] at hinputs
          subst hinputs
          exact .inputs name
      | none => exact .other (afterLead?_eq_none.mp hself) (afterLead?_eq_none.mp hinputs)

/-! ## Insides -/

/-- How the inside of a placeholder is renamed: the blank characters around the reference stay. -/
inductive InsideRenamed : List Char → List Char → Prop
  | around {lead reference renamed trail : List Char} (hlead : Blank lead) (htrail : Blank trail)
      (hbare : Bare reference) (hrenamed : ReferenceRenamed reference renamed) :
      InsideRenamed (lead ++ reference ++ trail) (lead ++ renamed ++ trail)

theorem renameInside_append {lead reference trail : List Char} (hlead : Blank lead)
    (htrail : Blank trail) (hbare : Bare reference) :
    renameInside (lead ++ reference ++ trail) = lead ++ renameReference reference ++ trail := by
  by_cases hne : reference = []
  -- without a reference all of the inside counts as blank characters in front
  · subst hne
    have hblank : Blank (lead ++ [] ++ trail) := by
      intro c hc
      rcases List.mem_append.mp hc with hc | hc
      · exact hlead c (by simpa using hc)
      · exact htrail c hc
    have hdrop : (lead ++ [] ++ trail).dropWhile isBlank = [] := List.dropWhile_eq_nil_iff.mpr hblank
    have htake : (lead ++ [] ++ trail).takeWhile isBlank = lead ++ [] ++ trail :=
      List.takeWhile_eq_self_iff.mpr hblank
    have hnone : renameReference [] = [] := by decide
    have hend : trimEnd [] = [] := rfl
    simp only [renameInside, hdrop, htake, hend, hnone]
    simp
  · obtain ⟨hdrop, htake⟩ := dropWhile_append hlead hbare hne trail
    simp only [renameInside, hdrop, htake, trimEnd_append hbare htrail, List.drop_left]

theorem insideRenamed_renameInside (inside : List Char) :
    InsideRenamed inside (renameInside inside) := by
  obtain ⟨lead, trail, hlead, htrail, hsplit⟩ := exists_blank_append_trimmed inside
  have hbare := bare_trimmed inside
  have hrenamed := renameInside_append hlead htrail hbare
  rw [← hsplit] at hrenamed
  have haround := InsideRenamed.around hlead htrail hbare (referenceRenamed_renameReference _)
  rwa [← hrenamed, ← hsplit] at haround

/-! ## Placeholders -/

def Unbraced (cs : List Char) : Prop := ∀ c ∈ cs, isBrace c = false

/-- The characters between two braces on either side. -/
def bracketed (inside : List Char) : List Char :=
  '\x7b' :: '\x7b' :: inside ++ ['\x7d', '\x7d']

/-- There is a placeholder in a text, behind `before` and in front of `after`. -/
structure PlaceholderAt (cs before inside after : List Char) : Prop where
  unbraced : Unbraced inside
  split : cs = before ++ bracketed inside ++ after

variable {cs inside rest : List Char}

/-- **The inside of a placeholder ends at its closing braces**, and at no brace before. -/
theorem inside?_eq_some :
    inside? cs = some (inside, rest) ↔ Unbraced inside ∧ cs = inside ++ '\x7d' :: '\x7d' :: rest := by
  constructor
  · intro h
    unfold inside? at h
    split at h
    · next after hafter =>
        obtain ⟨rfl, rfl⟩ := Prod.mk.inj (Option.some.inj h)
        refine ⟨fun c hc => by simpa using List.mem_takeWhile_imp hc, ?_⟩
        rw [← hafter, List.takeWhile_append_dropWhile]
    · cases h
  · rintro ⟨hinside, rfl⟩
    have hpos : ∀ c ∈ inside, (!isBrace c) = true := by
      intro c hc
      rw [hinside c hc]
      rfl
    have hclose : (!isBrace '\x7d') = false := by decide
    unfold inside?
    rw [List.dropWhile_append_of_pos hpos, List.takeWhile_append_of_pos hpos,
      List.dropWhile_cons_of_neg (by simp [hclose]), List.takeWhile_cons_of_neg (by simp [hclose])]
    simp

theorem bracketed_append (inside after : List Char) :
    bracketed inside ++ after =
      '\x7b' :: '\x7b' :: (inside ++ '\x7d' :: '\x7d' :: after) := by
  simp [bracketed]

/-- A text starts with one placeholder at most. -/
theorem bracketed_append_inj {other after after' : List Char} (hinside : Unbraced inside)
    (hother : Unbraced other) (h : bracketed inside ++ after = bracketed other ++ after') :
    inside = other ∧ after = after' := by
  rw [bracketed_append, bracketed_append] at h
  have hfirst : inside? (inside ++ '\x7d' :: '\x7d' :: after) = some (inside, after) :=
    inside?_eq_some.mpr ⟨hinside, rfl⟩
  have hsecond := inside?_eq_some.mpr ⟨hother, (List.cons.inj (List.cons.inj h).2).2⟩
  exact Prod.mk.inj (Option.some.inj (hfirst.symm.trans hsecond))

/-- An opening brace behind those of a placeholder is behind the whole placeholder. -/
theorem exists_of_opening (before : List Char) {after later : List Char}
    (hinside : Unbraced inside)
    (h : inside ++ '\x7d' :: '\x7d' :: after = before ++ '\x7b' :: later) :
    ∃ between, before = inside ++ '\x7d' :: '\x7d' :: between ∧
      after = between ++ '\x7b' :: later := by
  induction inside generalizing before with
  | nil =>
      match before, h with
      | [], h => exact absurd (List.cons.inj h).1 (by decide)
      | [_], h => exact absurd (List.cons.inj (List.cons.inj h).2).1 (by decide)
      | _ :: _ :: between, h =>
          simp only [List.nil_append, List.cons_append, List.cons.injEq] at h
          obtain ⟨rfl, rfl, hafter⟩ := h
          exact ⟨between, rfl, hafter⟩
  | cons c inside ih =>
      cases before with
      | nil =>
          have hc : isBrace c = false := hinside c List.mem_cons_self
          rw [(List.cons.inj h).1] at hc
          exact absurd hc (by decide)
      | cons b before =>
          obtain ⟨rfl, hrest⟩ := List.cons.inj h
          have hunbraced : Unbraced inside := fun d hd => hinside d (List.mem_cons_of_mem _ hd)
          obtain ⟨between, rfl, hafter⟩ := ih before hunbraced hrest
          exact ⟨between, rfl, hafter⟩

/-- **No placeholder starts inside of another.** -/
theorem eq_nil_or_exists_of_bracketed {other before after after' : List Char}
    (hinside : Unbraced inside)
    (h : bracketed inside ++ after = before ++ (bracketed other ++ after')) :
    before = [] ∨ ∃ between, before = bracketed inside ++ between ∧
      after = between ++ (bracketed other ++ after') := by
  rw [bracketed_append, bracketed_append] at h
  match before, h with
  | [], _ => exact Or.inl rfl
  | [_], h =>
      have htail := (List.cons.inj (List.cons.inj h).2).2
      obtain ⟨between, hnil, -⟩ := exists_of_opening [] hinside htail
      simp at hnil
  | _ :: _ :: before, h =>
      simp only [List.cons_append, List.cons.injEq] at h
      obtain ⟨rfl, rfl, hrest⟩ := h
      obtain ⟨between, rfl, hafter⟩ := exists_of_opening before hinside hrest
      refine Or.inr ⟨between, (bracketed_append _ _).symm, ?_⟩
      rw [hafter, bracketed_append]

/-- **Placeholders do not overlap**: of two, one is the other or is all in front of it. -/
theorem PlaceholderAt.disjoint {before after before' inside' after' : List Char}
    (h : PlaceholderAt cs before inside after) (h' : PlaceholderAt cs before' inside' after') :
    (before = before' ∧ inside = inside' ∧ after = after') ∨
      before ++ bracketed inside <+: before' ∨ before' ++ bracketed inside' <+: before := by
  -- the one that starts no later is compared with what is behind its start
  have hordered : ∀ (first : List Char) {w x y v z : List Char}, Unbraced w → Unbraced v →
      bracketed w ++ x = y ++ (bracketed v ++ z) →
      (y = [] ∧ w = v ∧ x = z) ∨ first ++ bracketed w <+: first ++ y := by
    intro first w x y v z hw hv heq
    rcases eq_nil_or_exists_of_bracketed hw heq with rfl | ⟨between, rfl, -⟩
    · exact Or.inl ⟨rfl, bracketed_append_inj hw hv heq⟩
    · refine Or.inr ?_
      rw [← List.append_assoc]
      exact List.prefix_append _ _
  have hsplit := h.split.symm.trans h'.split
  rw [List.append_assoc, List.append_assoc] at hsplit
  rcases List.append_eq_append_iff.mp hsplit with ⟨y, rfl, heq⟩ | ⟨y, rfl, heq⟩
  · rcases hordered before h.unbraced h'.unbraced heq with ⟨rfl, hsame⟩ | hfront
    · exact Or.inl ⟨by simp, hsame⟩
    · exact Or.inr (Or.inl hfront)
  · rcases hordered before' h'.unbraced h.unbraced heq with ⟨rfl, hsame⟩ | hfront
    · exact Or.inl ⟨by simp, hsame.1.symm, hsame.2.symm⟩
    · exact Or.inr (Or.inr hfront)

/-! ## Pieces -/

/-- A piece of a text: a character, or a placeholder with some characters inside. -/
inductive Piece
  | char (c : Char)
  | placeholder (inside : List Char)

def Piece.chars : Piece → List Char
  | char c => [c]
  | placeholder inside => bracketed inside

/-- The text that some pieces make up. -/
def assembled (pieces : List Piece) : List Char := pieces.flatMap Piece.chars

/-- Pieces that are those of their text: no placeholder starts at a single character. -/
inductive Proper : List Piece → Prop
  | nil : Proper []
  | char {c : Char} {rest : List Piece}
      (hc : ∀ inside after, ¬ PlaceholderAt (c :: assembled rest) [] inside after)
      (hrest : Proper rest) : Proper (.char c :: rest)
  | placeholder {inside : List Char} {rest : List Piece} (hinside : Unbraced inside)
      (hrest : Proper rest) : Proper (.placeholder inside :: rest)

/-- How a piece is renamed: a character stays. -/
inductive Piece.Renamed : Piece → Piece → Prop
  | char (c : Char) : Renamed (.char c) (.char c)
  | placeholder {inside renamed : List Char} (h : InsideRenamed inside renamed) :
      Renamed (.placeholder inside) (.placeholder renamed)

def Piece.rename : Piece → Piece
  | char c => char c
  | placeholder inside => placeholder (renameInside inside)

theorem Piece.renamed_rename (piece : Piece) : piece.Renamed piece.rename := by
  cases piece with
  | char c => exact .char c
  | placeholder inside => exact .placeholder (insideRenamed_renameInside inside)

@[simp] theorem assembled_nil : assembled [] = [] := rfl

@[simp] theorem assembled_char (c : Char) (rest : List Piece) :
    assembled (.char c :: rest) = c :: assembled rest := rfl

@[simp] theorem assembled_placeholder (inside : List Char) (rest : List Piece) :
    assembled (.placeholder inside :: rest) = bracketed inside ++ assembled rest := rfl

theorem assembled_append (first rest : List Piece) :
    assembled (first ++ rest) = assembled first ++ assembled rest :=
  List.flatMap_append

variable {pieces : List Piece}

theorem Proper.unbraced (h : Proper pieces) (hmem : .placeholder inside ∈ pieces) :
    Unbraced inside := by
  induction h with
  | nil => cases hmem
  | char _ _ ih =>
      rcases List.mem_cons.mp hmem with heq | hmem
      · cases heq
      · exact ih hmem
  | placeholder hinside _ ih =>
      rcases List.mem_cons.mp hmem with heq | hmem
      · cases heq
        exact hinside
      · exact ih hmem

/-- **Proper pieces have all placeholders of their text**, each in its place. -/
theorem Proper.placeholderAt_iff (h : Proper pieces) {before after : List Char} :
    PlaceholderAt (assembled pieces) before inside after ↔
      ∃ first rest, pieces = first ++ .placeholder inside :: rest ∧
        assembled first = before ∧ assembled rest = after := by
  constructor
  · intro hat
    induction h generalizing before with
    | nil =>
        have hsplit := hat.split
        simp [bracketed] at hsplit
    | @char c others hc _ ih =>
        have hsplit := hat.split
        cases before with
        | nil => exact (hc _ _ hat).elim
        | cons b before =>
            obtain ⟨rfl, hothers⟩ := List.cons.inj hsplit
            obtain ⟨first, rest, rfl, rfl, rfl⟩ := ih ⟨hat.unbraced, hothers⟩
            exact ⟨.char c :: first, rest, rfl, rfl, rfl⟩
    | @placeholder w others hw _ ih =>
        have hsplit := hat.split
        rw [assembled_placeholder, List.append_assoc] at hsplit
        rcases eq_nil_or_exists_of_bracketed hw hsplit with rfl | ⟨between, rfl, hothers⟩
        · obtain ⟨rfl, rfl⟩ := bracketed_append_inj hw hat.unbraced hsplit
          exact ⟨[], others, rfl, rfl, rfl⟩
        · rw [← List.append_assoc] at hothers
          obtain ⟨first, rest, rfl, rfl, rfl⟩ := ih ⟨hat.unbraced, hothers⟩
          exact ⟨.placeholder w :: first, rest, rfl, rfl, rfl⟩
  · rintro ⟨first, rest, rfl, rfl, rfl⟩
    refine ⟨h.unbraced (by simp), ?_⟩
    rw [assembled_append, assembled_placeholder, List.append_assoc]

/-- **A text has no other proper pieces.** -/
theorem Proper.unique {others : List Piece} (h : Proper pieces) (hothers : Proper others)
    (heq : assembled pieces = assembled others) : pieces = others := by
  induction h generalizing others with
  | nil =>
      cases hothers with
      | nil => rfl
      | char _ _ => cases heq
      | placeholder _ _ => cases heq
  | @char c rest hc _ ih =>
      cases hothers with
      | nil => cases heq
      | char _ hrest =>
          obtain ⟨rfl, htail⟩ := List.cons.inj heq
          rw [ih hrest htail]
      | placeholder hinside _ => exact (hc _ _ ⟨hinside, heq⟩).elim
  | placeholder hinside _ ih =>
      cases hothers with
      | nil => cases heq
      | char hc _ => exact (hc _ _ ⟨hinside, heq.symm⟩).elim
      | placeholder hother hrest =>
          obtain ⟨rfl, htail⟩ := bracketed_append_inj hinside hother heq
          rw [ih hrest htail]

/-! ## Renaming -/

/-- No placeholder starts where none is found. -/
theorem not_placeholderAt {c : Char} {cs : List Char}
    (h : ∀ after, c = '\x7b' → cs = '\x7b' :: after → inside? after = none)
    (inside after : List Char) : ¬ PlaceholderAt (c :: cs) [] inside after := by
  intro hat
  have hsplit := hat.split
  rw [List.nil_append, bracketed_append] at hsplit
  obtain ⟨hc, hcs⟩ := List.cons.inj hsplit
  have hnone := h _ hc hcs
  rw [inside?_eq_some.mpr ⟨hat.unbraced, rfl⟩] at hnone
  cases hnone

/-- **Each text has its pieces, and is renamed piece by piece.** -/
theorem exists_proper (cs : List Char) :
    ∃ pieces, Proper pieces ∧ assembled pieces = cs ∧
      renameChars cs = assembled (pieces.map Piece.rename) := by
  fun_induction renameChars cs with
  | case1 => exact ⟨[], .nil, rfl, rfl⟩
  | case2 cs inside rest hinside ih =>
      obtain ⟨hunbraced, rfl⟩ := inside?_eq_some.mp hinside
      obtain ⟨pieces, hproper, hassembled, hrenamed⟩ := ih
      refine ⟨.placeholder inside :: pieces, .placeholder hunbraced hproper, ?_, ?_⟩
      · rw [assembled_placeholder, hassembled, bracketed_append]
      · rw [List.map_cons, Piece.rename, assembled_placeholder, ← hrenamed, bracketed_append]
        rfl
  | case3 cs hinside ih =>
      obtain ⟨pieces, hproper, hassembled, hrenamed⟩ := ih
      refine ⟨.char '\x7b' :: pieces, .char ?_ hproper, ?_, ?_⟩
      · rw [hassembled]
        refine not_placeholderAt ?_
        intro after _ hcs
        rwa [(List.cons.inj hcs).2] at hinside
      · rw [assembled_char, hassembled]
      · rw [List.map_cons, Piece.rename, assembled_char, ← hrenamed]
  | case4 c cs hc ih =>
      obtain ⟨pieces, hproper, hassembled, hrenamed⟩ := ih
      refine ⟨.char c :: pieces, .char ?_ hproper, ?_, ?_⟩
      · rw [hassembled]
        refine not_placeholderAt ?_
        intro after hopen hcs
        exact (hc after hopen hcs).elim
      · rw [assembled_char, hassembled]
      · rw [List.map_cons, Piece.rename, assembled_char, ← hrenamed]

/-- **Renaming touches exactly the placeholders.** The placeholders of a text do not overlap, and the
text is a sequence of them and of single characters; when it is renamed, each character stays, and of
each placeholder the braces and the blank characters around the reference stay. -/
theorem placeholders_renamed (text : String) :
    (∀ before inside after before' inside' after',
      PlaceholderAt text.toList before inside after →
      PlaceholderAt text.toList before' inside' after' →
        (before = before' ∧ inside = inside' ∧ after = after') ∨
          before ++ bracketed inside <+: before' ∨ before' ++ bracketed inside' <+: before) ∧
    ∃ pieces renamed : List Piece,
      assembled pieces = text.toList ∧
      (∀ before inside after, PlaceholderAt text.toList before inside after ↔
        ∃ first rest, pieces = first ++ .placeholder inside :: rest ∧
          assembled first = before ∧ assembled rest = after) ∧
      List.Forall₂ Piece.Renamed pieces renamed ∧
      (renamePlaceholders text).toList = assembled renamed := by
  refine ⟨fun _ _ _ _ _ _ h h' => h.disjoint h', ?_⟩
  obtain ⟨pieces, hproper, hassembled, hrenamed⟩ := exists_proper text.toList
  refine ⟨pieces, pieces.map Piece.rename, hassembled, ?_, ?_, ?_⟩
  · intro before inside after
    rw [← hassembled]
    exact hproper.placeholderAt_iff
  · rw [List.forall₂_map_right_iff]
    exact List.forall₂_same.mpr fun piece _ => piece.renamed_rename
  · rw [renamePlaceholders, String.toList_ofList, hrenamed]

/-- A brace too many on either side is no part of the placeholder. -/
example : renamePlaceholders "\x7b\x7b\x7b self.a_b \x7d\x7d\x7d" =
    "\x7b\x7b\x7b inputs.a-b \x7d\x7d\x7d" := by
  cbv

end Recipe
