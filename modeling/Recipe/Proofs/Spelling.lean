import Mathlib.Data.List.Chain
import Recipe.Proofs.Letters
import Recipe.Proofs.Trimming

/-!
# Spelling of template names

The name of a template is spelled from left to right: separators become hyphens, capitals lowercase
letters, and a capital behind a lowercase letter or digit starts a word. What is written is tidy,
and a tidy name stays as it is exactly if it has no capital behind a lowercase letter or digit.
Names can have one, since some capitals have no lowercase letter: such names change when they are
spelled again (`templateName_templateName_eq_iff`).

So every name has the form that kebab-case asks for, and spelling it changes nothing but separators
and the case of letters (`templateName_wellSpelled`).
-/

set_option autoImplicit false

namespace Recipe

open Text

/-! ## Neighbours -/

/-- No character with one property stands directly behind one with another. What stands in front of
all characters has the other property if `carry` says so. -/
def Apart (p q : Char → Prop) (carry : Prop) (cs : List Char) : Prop :=
  (carry → ∀ c ∈ cs.head?, ¬ q c) ∧ cs.IsChain fun c next => p c → ¬ q next

section Apart

variable {p q : Char → Prop} {carry : Prop} {c : Char} {cs : List Char}

theorem apart_nil : Apart p q carry [] := ⟨fun _ _ h => (Option.not_mem_none _ h).elim, .nil⟩

theorem apart_cons : Apart p q carry (c :: cs) ↔ (carry → ¬ q c) ∧ Apart p q (p c) cs := by
  simp only [Apart, List.isChain_cons, List.head?_cons, Option.mem_def, Option.some.injEq,
    forall_eq']
  constructor
  · rintro ⟨hcarry, hnext, hchain⟩
    exact ⟨hcarry, fun hc next hmem => hnext next hmem hc, hchain⟩
  · rintro ⟨hcarry, hnext, hchain⟩
    exact ⟨hcarry, fun next hmem hc => hnext hc next hmem, hchain⟩

theorem apart_of_not (h : ∀ c ∈ cs, ¬ q c) : Apart p q carry cs := by
  induction cs generalizing carry with
  | nil => exact apart_nil
  | cons c rest ih =>
      have hrest := fun next hnext => h next (List.mem_cons_of_mem c hnext)
      exact apart_cons.mpr ⟨fun _ => h c List.mem_cons_self, ih hrest⟩

theorem apart_append_of_not {trail : List Char} (h : ∀ c ∈ trail, ¬ q c) :
    Apart p q carry (cs ++ trail) ↔ Apart p q carry cs := by
  induction cs generalizing carry with
  | nil => exact ⟨fun _ => apart_nil, fun _ => apart_of_not h⟩
  | cons c rest ih => rw [List.cons_append, apart_cons, apart_cons, ih]

theorem append_apart_of_not {lead : List Char} (h : ∀ c ∈ lead, ¬ p c ∧ ¬ q c) :
    Apart p q False (lead ++ cs) ↔ Apart p q False cs := by
  induction lead with
  | nil => rfl
  | cons c rest ih =>
      obtain ⟨hp, -⟩ := h c List.mem_cons_self
      rw [List.cons_append, apart_cons, eq_false hp,
        ih fun next hnext => h next (List.mem_cons_of_mem c hnext)]
      exact and_iff_right False.elim

theorem apart_iff_infix : Apart p q False cs ↔ ¬ ∃ c next, [c, next] <:+: cs ∧ p c ∧ q next := by
  rw [Apart, List.isChain_iff_forall_rel_of_append_cons_cons]
  constructor
  · rintro ⟨-, hchain⟩ ⟨c, next, ⟨lead, trail, hsplit⟩, hc, hnext⟩
    rw [List.append_assoc] at hsplit
    exact hchain hsplit.symm hc hnext
  · intro hnone
    refine ⟨False.elim, fun c next lead trail hsplit hc hnext => ?_⟩
    exact hnone ⟨c, next, ⟨lead, trail, by rw [hsplit, List.append_assoc]; rfl⟩, hc, hnext⟩

end Apart

/-! ## Characters of names -/

/-- Whether a character continues a word: a lowercase letter or a digit. -/
def continues (c : Char) : Bool := isLower c || c.isDigit

section Characters

variable {c : Char}

theorem isSeparator_of_isUpper (h : isUpper c = true) : isSeparator c = false :=
  eq_false_of_excludes (fun hseparator => (case_of_isSeparator hseparator).1) h

theorem isSeparator_of_isLower (h : isLower c = true) : isSeparator c = false :=
  eq_false_of_excludes (fun hseparator => (case_of_isSeparator hseparator).2) h

theorem continues_of_isUpper (h : isUpper c = true) : continues c = false := by
  have hdigit := eq_false_of_excludes (fun hdigit => (case_of_isDigit hdigit).1) h
  rw [continues, (apart_of_isUpper h).1, hdigit, Bool.or_false]

theorem not_capital (h : isUpper c = false) : ¬ Lowers c ∧ ¬ Stays c := by
  refine ⟨fun hlowers => ?_, fun hstays => ?_⟩
  · rw [hlowers.1] at h
    cases h
  · rw [hstays.1] at h
    cases h

theorem isUpper_hyphen : isUpper '-' = false := (case_of_isSeparator rfl).1

theorem continues_hyphen : continues '-' = false := by
  rw [continues, (case_of_isSeparator rfl).2]
  rfl

theorem ne_hyphen_of_isSeparator (h : isSeparator c = false) : c ≠ '-' := by
  rintro rfl
  cases h

end Characters

/-! ## Spelling onwards -/

/-- Whether no hyphen can be written behind some characters, last first. -/
def isClosed : List Char → Bool
  | [] => true
  | c :: _ => c == '-'

/-- What is written for the characters of a name behind others: `closed` says whether no hyphen can
be written behind those, and `inWord` whether the last of them continues a word. -/
def spelledAfter (closed inWord : Bool) : List Char → List Char
  | [] => []
  | c :: rest =>
      if isSeparator c then (if closed then [] else ['-']) ++ spelledAfter true false rest
      else if isUpper c then
        (if inWord && !closed then ['-'] else []) ++ lowered c ++ spelledAfter false false rest
      else c :: spelledAfter false (continues c) rest

theorem closeWord_eq (written : List Char) :
    closeWord written = (if isClosed written then [] else ['-']) ++ written := by
  unfold closeWord
  split
  · rfl
  · rfl
  · next hnil hhyphen =>
      cases written with
      | nil => exact (hnil rfl).elim
      | cons c rest =>
          have hne : ¬ c = '-' := fun hc => hhyphen rest (by rw [hc])
          simp [isClosed, hne]

theorem isClosed_closeWord (written : List Char) : isClosed (closeWord written) = true := by
  unfold closeWord
  split <;> rfl

theorem isClosed_lowered {c : Char} (h : isUpper c = true) (written : List Char) :
    isClosed ((lowered c).reverse ++ written) = false := by
  rcases isUpper_cases h with ⟨-, d, hlowered, hlower⟩ | ⟨-, hlowered⟩ | rfl
  · rw [hlowered]
    exact beq_eq_false_iff_ne.mpr (ne_hyphen_of_isSeparator (isSeparator_of_isLower hlower))
  · rw [hlowered]
    exact beq_eq_false_iff_ne.mpr (ne_hyphen_of_isSeparator (isSeparator_of_isUpper h))
  · rw [lowered_dotted]
    rfl

/-- **A name is spelled from left to right.** -/
theorem spellTemplate_eq (written : List Char) (inWord : Bool) (cs : List Char) :
    spellTemplate written inWord cs =
      written.reverse ++ spelledAfter (isClosed written) inWord cs := by
  induction cs generalizing written inWord with
  | nil => simp [spellTemplate, spelledAfter]
  | cons c rest ih =>
      rw [spellTemplate, spelledAfter]
      by_cases hseparator : isSeparator c = true
      · rw [if_pos hseparator, if_pos hseparator, ih, isClosed_closeWord, closeWord_eq]
        cases isClosed written <;> simp
      rw [if_neg hseparator, if_neg hseparator]
      by_cases hupper : isUpper c = true
      · rw [if_pos hupper, if_pos hupper, ih, isClosed_lowered hupper]
        cases inWord with
        | false => simp
        | true =>
            rw [if_pos rfl, closeWord_eq]
            cases isClosed written <;> simp
      · have hopen : isClosed (c :: written) = false :=
          beq_eq_false_iff_ne.mpr (ne_hyphen_of_isSeparator (Bool.eq_false_iff.mpr hseparator))
        rw [if_neg hupper, if_neg hupper, ih, hopen]
        simp [continues]

/-! ## Tidy names -/

/-- Characters as they are written: hyphens are the only separators, and no two stand together, nor
one at the start if `closed` says so; and all capitals are such as have no lowercase form. -/
structure Tidy (closed : Bool) (cs : List Char) : Prop where
  separators : ∀ c ∈ cs, isSeparator c = true → c = '-'
  capitals : ∀ c ∈ cs, isUpper c = true → Stays c
  hyphens : Apart (· = '-') (· = '-') (closed = true) cs

/-- Characters without a capital directly behind a lowercase letter or digit. -/
def Unbroken (carry : Prop) (cs : List Char) : Prop :=
  Apart (continues · = true) (isUpper · = true) carry cs

theorem unbroken_cons {carry : Prop} {c : Char} {cs : List Char} : Unbroken carry (c :: cs) ↔
    (carry → isUpper c = false) ∧ Unbroken (continues c = true) cs := by
  rw [Unbroken, Unbroken, apart_cons, Bool.not_eq_true]

section Tidy

variable {closed : Bool} {c : Char} {cs rest : List Char}

theorem tidy_nil : Tidy closed [] := ⟨by simp, by simp, apart_nil⟩

theorem tidy_cons : Tidy closed (c :: rest) ↔ (isSeparator c = true → c = '-') ∧
    (isUpper c = true → Stays c) ∧ (closed = true → c ≠ '-') ∧ Tidy (c == '-') rest := by
  constructor
  · rintro ⟨hseparators, hcapitals, hhyphens⟩
    obtain ⟨hclosed, hrest⟩ := apart_cons.mp hhyphens
    refine ⟨hseparators c List.mem_cons_self, hcapitals c List.mem_cons_self, hclosed, ?_, ?_, ?_⟩
    · exact fun next hnext => hseparators next (List.mem_cons_of_mem c hnext)
    · exact fun next hnext => hcapitals next (List.mem_cons_of_mem c hnext)
    · rwa [beq_iff_eq]
  · rintro ⟨hseparator, hcapital, hclosed, htidy⟩
    refine ⟨List.forall_mem_cons.mpr ⟨hseparator, htidy.separators⟩,
      List.forall_mem_cons.mpr ⟨hcapital, htidy.capitals⟩, apart_cons.mpr ⟨hclosed, ?_⟩⟩
    have hhyphens := htidy.hyphens
    rwa [beq_iff_eq] at hhyphens

/-- A character that is no separator can be written everywhere. -/
theorem Tidy.cons (h : Tidy false rest) (hseparator : isSeparator c = false)
    (hcapital : isUpper c = true → Stays c) : Tidy closed (c :: rest) := by
  have hne := ne_hyphen_of_isSeparator hseparator
  refine tidy_cons.mpr ⟨fun hc => ?_, hcapital, fun _ => hne, ?_⟩
  · rw [hseparator] at hc
    cases hc
  · rwa [beq_eq_false_iff_ne.mpr hne]

theorem Tidy.hyphen (h : Tidy true rest) : Tidy false ('-' :: rest) := by
  refine tidy_cons.mpr ⟨fun _ => rfl, fun hupper => ?_, fun hclosed => ?_, h⟩
  · rw [isUpper_hyphen] at hupper
    cases hupper
  · cases hclosed

theorem Tidy.lowered (h : Tidy false rest) (hupper : isUpper c = true) :
    Tidy closed (Text.lowered c ++ rest) := by
  rcases isUpper_cases hupper with ⟨-, d, hlowered, hlower⟩ | hstays | rfl
  · rw [hlowered]
    refine h.cons (isSeparator_of_isLower hlower) fun hd => ?_
    rw [isUpper_of_isLower hlower] at hd
    cases hd
  · rw [hstays.2]
    exact h.cons (isSeparator_of_isUpper hupper) fun _ => hstays
  · rw [lowered_dotted]
    have hdot : Tidy false ('\u0307' :: rest) := by
      refine h.cons (by decide) fun hd => absurd hd ?_
      decide +kernel
    refine hdot.cons (by decide) fun hi => absurd hi ?_
    decide +kernel

/-- **What is written is tidy.** -/
theorem tidy_spelledAfter (closed inWord : Bool) (cs : List Char) :
    Tidy closed (spelledAfter closed inWord cs) := by
  induction cs generalizing closed inWord with
  | nil => exact tidy_nil
  | cons c rest ih =>
      rw [spelledAfter]
      by_cases hseparator : isSeparator c = true
      · rw [if_pos hseparator]
        cases closed with
        | true => exact ih true false
        | false => exact (ih true false).hyphen
      rw [if_neg hseparator]
      by_cases hupper : isUpper c = true
      · rw [if_pos hupper, List.append_assoc]
        cases closed with
        | true =>
            rw [Bool.not_true, Bool.and_false]
            exact (ih false false).lowered hupper
        | false =>
            cases inWord with
            | true => exact ((ih false false).lowered hupper).hyphen
            | false => exact (ih false false).lowered hupper
      · rw [if_neg hupper]
        exact (ih false _).cons (Bool.eq_false_iff.mpr hseparator) fun h => (hupper h).elim

/-- **A tidy name stays as it is exactly if it is unbroken.** -/
theorem Tidy.spelledAfter_eq_self_iff (h : Tidy closed cs) (inWord : Bool)
    (hopen : inWord = true → closed = false) :
    spelledAfter closed inWord cs = cs ↔ Unbroken (inWord = true) cs := by
  induction cs generalizing closed inWord with
  | nil => exact ⟨fun _ => apart_nil, fun _ => rfl⟩
  | cons c rest ih =>
      obtain ⟨hhyphen, hcapital, hclosed, hrest⟩ := tidy_cons.mp h
      rw [spelledAfter, unbroken_cons]
      by_cases hseparator : isSeparator c = true
      -- a separator is a hyphen that may stand there
      · obtain rfl := hhyphen hseparator
        have hfree : closed = false := Bool.eq_false_iff.mpr fun hclosed' => hclosed hclosed' rfl
        have hrest' := ih hrest false fun h => by cases h
        rw [if_pos hseparator, hfree, isUpper_hyphen, continues_hyphen]
        simpa using hrest'
      have hne := ne_hyphen_of_isSeparator (Bool.eq_false_iff.mpr hseparator)
      rw [beq_eq_false_iff_ne.mpr hne] at hrest
      rw [if_neg hseparator]
      by_cases hupper : isUpper c = true
      -- a capital stays, and a hyphen in front of it makes the name another one
      · rw [if_pos hupper, (hcapital hupper).2, continues_of_isUpper hupper, hupper]
        cases inWord with
        | true =>
            rw [hopen rfl]
            simp [Ne.symm hne]
        | false =>
            have hrest' := ih hrest false fun h => by cases h
            simpa using hrest'
      · have hrest' := ih hrest (continues c) fun _ => rfl
        rw [if_neg hupper, List.cons.injEq, hrest', Bool.eq_false_iff.mpr hupper]
        simp

end Tidy

/-! ## Names that are spelled again -/

theorem unbroken_hyphen {carry : Prop} {cs : List Char} :
    Unbroken carry ('-' :: cs) ↔ Unbroken False cs := by
  rw [unbroken_cons, isUpper_hyphen, continues_hyphen]
  simp

/-- What is written for a capital continues a word if it is a lowercase letter, and breaks the word
in front of it if it is the capital itself. -/
theorem unbroken_lowered {carry : Prop} {c : Char} {cs : List Char} (hupper : isUpper c = true) :
    Unbroken carry (lowered c ++ cs) ↔ (carry → ¬ Stays c) ∧ Unbroken (Lowers c) cs := by
  rcases isUpper_cases hupper with hlowers | hstays | rfl
  · obtain ⟨d, hlowered, hlower⟩ := hlowers.2
    have hcontinues : continues d = true := by rw [continues, hlower, Bool.true_or]
    rw [hlowered, List.singleton_append, unbroken_cons, isUpper_of_isLower hlower, hcontinues]
    simp [hlowers, hlowers.not_stays]
  · have hlowers : ¬ Lowers c := fun h => h.not_stays hstays
    rw [hstays.2, List.singleton_append, unbroken_cons, hupper, continues_of_isUpper hupper]
    simp [hlowers, hstays]
  · have hlowers : ¬ Lowers 'İ' := fun ⟨_, d, hd, _⟩ => by simp [lowered_dotted] at hd
    have hstays : ¬ Stays 'İ' := fun ⟨_, h⟩ => by simp [lowered_dotted] at h
    have hi : isUpper 'i' = false := by decide +kernel
    have hdot : isUpper '\u0307' = false ∧ continues '\u0307' = false := by decide +kernel
    rw [lowered_dotted, List.cons_append, List.singleton_append, unbroken_cons, unbroken_cons, hi,
      hdot.1, hdot.2]
    simp [hlowers, hstays]

/-- **What is written is unbroken exactly if no capital that stays follows one that does not.** The
character in front continues a word if it was written for one that does so, or for a capital that
has a lowercase letter, as `shrunk` says. -/
theorem unbroken_spelledAfter (closed inWord : Bool) (shrunk : Prop) (cs : List Char)
    (hopen : inWord = true ∨ shrunk → closed = false) (hshrunk : shrunk → inWord = false) :
    Unbroken (inWord = true ∨ shrunk) (spelledAfter closed inWord cs) ↔
      Apart Lowers Stays shrunk cs := by
  induction cs generalizing closed inWord shrunk with
  | nil => exact ⟨fun _ => apart_nil, fun _ => apart_nil⟩
  | cons c rest ih =>
      rw [spelledAfter, apart_cons]
      by_cases hseparator : isSeparator c = true
      -- a hyphen ends the word, and if there was one already nothing continues it
      · obtain ⟨hlowers, hstays⟩ := not_capital (case_of_isSeparator hseparator).1
        have hrest := ih true false False (by simp) (by simp)
        rw [if_pos hseparator, eq_false hlowers]
        cases closed with
        | true =>
            have hcarry : ¬ (inWord = true ∨ shrunk) := fun h => by cases hopen h
            rw [eq_false hcarry]
            simpa [hstays] using hrest
        | false => simpa [hstays, unbroken_hyphen] using hrest
      rw [if_neg hseparator]
      by_cases hupper : isUpper c = true
      · have hrest := ih false false (Lowers c) (by simp) (by simp)
        rw [if_pos hupper, List.append_assoc]
        cases inWord with
        | true =>
            have hnone : ¬ shrunk := fun h => by cases hshrunk h
            rw [hopen (.inl rfl)]
            simpa [hnone, unbroken_hyphen, unbroken_lowered hupper] using hrest
        | false => simpa [unbroken_lowered hupper] using and_congr_right fun _ => hrest
      · have hlower := Bool.eq_false_iff.mpr hupper
        obtain ⟨hlowers, hstays⟩ := not_capital hlower
        have hrest := ih false (continues c) False (by simp) (by simp)
        rw [if_neg hupper, unbroken_cons, eq_false hlowers]
        simpa [hlower, hstays] using hrest

/-- A name has a capital without a lowercase letter directly behind one that has one. -/
def Jammed (name : String) : Prop :=
  ∃ c next, [c, next] <:+: name.toList ∧ Lowers c ∧ Stays next

theorem not_jammed_iff {name : String} : ¬ Jammed name ↔ Apart Lowers Stays False name.toList :=
  apart_iff_infix.symm

/-- White space around a name does not matter. -/
theorem not_jammed_iff_trimmed {name : String} :
    ¬ Jammed name ↔ Apart Lowers Stays False (trimmed name.toList) := by
  obtain ⟨lead, trail, hlead, htrail, hsplit⟩ := exists_blank_append_trimmed name.toList
  have hblank : ∀ c, isBlank c = true → ¬ Lowers c ∧ ¬ Stays c := by
    intro c hc
    refine not_capital (case_of_isSeparator ?_).1
    rw [isSeparator, hc, Bool.or_true]
  rw [not_jammed_iff, hsplit, apart_append_of_not fun c hc => (hblank c (htrail c hc)).2,
    append_apart_of_not fun c hc => hblank c (hlead c hc), ← hsplit]

theorem toList_templateName (name : String) :
    (templateName name).toList = spelledAfter true false (trimmed name.toList) := by
  rw [templateName, String.toList_ofList, spellTemplate_eq]
  rfl

/-- **The name of a template is tidy**, and does not start with a hyphen. -/
theorem tidy_templateName (name : String) : Tidy true (templateName name).toList := by
  rw [toList_templateName]
  exact tidy_spelledAfter true false _

theorem Tidy.isBlank_eq_false {closed : Bool} {cs : List Char} (h : Tidy closed cs) {c : Char}
    (hc : c ∈ cs) : isBlank c = false := by
  rw [Bool.eq_false_iff]
  intro hblank
  have hhyphen := h.separators c hc (by rw [isSeparator, hblank, Bool.or_true])
  rw [hhyphen] at hblank
  cases hblank

theorem Tidy.trimmed_eq {closed : Bool} {cs : List Char} (h : Tidy closed cs) :
    trimmed cs = cs :=
  trimmed_eq_self ⟨fun _ hc => h.isBlank_eq_false (List.mem_of_mem_head? hc),
    fun _ hc => h.isBlank_eq_false (List.mem_of_mem_getLast? hc)⟩

/-- **A template's name is spelled the same again exactly if the name it was spelled from is not
jammed.** -/
theorem templateName_templateName_eq_iff {name : String} :
    templateName (templateName name) = templateName name ↔ ¬ Jammed name := by
  have htidy := tidy_templateName name
  rw [← String.toList_inj, toList_templateName (templateName name), htidy.trimmed_eq,
    htidy.spelledAfter_eq_self_iff false (by simp), toList_templateName, not_jammed_iff_trimmed]
  simpa using unbroken_spelledAfter true false False (trimmed name.toList) (by simp) (by simp)

theorem not_jammed_templateName (name : String) : ¬ Jammed (templateName name) := by
  rintro ⟨c, next, hinfix, hlowers, -⟩
  have hmem : c ∈ (templateName name).toList := hinfix.subset List.mem_cons_self
  exact hlowers.not_stays ((tidy_templateName name).capitals c hmem hlowers.1)

/-! ## The form of names -/

/-- The letters that a character of a name stands for: none for a separator, and the lowercase form
for a capital. -/
def lettersOf (c : Char) : List Char :=
  if isSeparator c then [] else if isUpper c then lowered c else [c]

section Letters

variable {c : Char}

theorem lettersOf_of_isSeparator (h : isSeparator c = true) : lettersOf c = [] := if_pos h

theorem lettersOf_of_isUpper (h : isUpper c = true) : lettersOf c = lowered c := by
  rw [lettersOf, isSeparator_of_isUpper h, if_neg Bool.false_ne_true, if_pos h]

theorem lettersOf_of_isLower (h : isLower c = true) : lettersOf c = [c] := by
  rw [lettersOf, isSeparator_of_isLower h, isUpper_of_isLower h, if_neg Bool.false_ne_true,
    if_neg Bool.false_ne_true]

theorem flatMap_lettersOf_lowered (h : isUpper c = true) :
    (lowered c).flatMap lettersOf = lowered c := by
  rcases isUpper_cases h with ⟨-, d, hlowered, hlower⟩ | hstays | rfl
  · rw [hlowered, List.flatMap_singleton, lettersOf_of_isLower hlower]
  · rw [hstays.2, List.flatMap_singleton, lettersOf_of_isUpper h, hstays.2]
  · rw [lowered_dotted]
    decide +kernel

/-- **Spelling keeps the letters of a name.** -/
theorem flatMap_lettersOf_spelledAfter (closed inWord : Bool) (cs : List Char) :
    (spelledAfter closed inWord cs).flatMap lettersOf = cs.flatMap lettersOf := by
  have hhyphen : ∀ starts : Bool, (if starts then ['-'] else []).flatMap lettersOf = [] := by
    intro starts
    cases starts <;> rfl
  induction cs generalizing closed inWord with
  | nil => rfl
  | cons c rest ih =>
      rw [spelledAfter, List.flatMap_cons]
      by_cases hseparator : isSeparator c = true
      · rw [if_pos hseparator, List.flatMap_append, ih, lettersOf_of_isSeparator hseparator]
        cases closed <;> rfl
      rw [if_neg hseparator]
      by_cases hupper : isUpper c = true
      · rw [if_pos hupper, List.flatMap_append, List.flatMap_append, hhyphen,
          flatMap_lettersOf_lowered hupper, ih, lettersOf_of_isUpper hupper, List.nil_append]
      · rw [if_neg hupper, List.flatMap_cons, ih]

theorem flatMap_lettersOf_trimmed (cs : List Char) :
    (trimmed cs).flatMap lettersOf = cs.flatMap lettersOf := by
  obtain ⟨lead, trail, hlead, htrail, hsplit⟩ := exists_blank_append_trimmed cs
  have hblank : ∀ blank : List Char, Blank blank → blank.flatMap lettersOf = [] := by
    intro blank hall
    rw [List.flatMap_eq_nil_iff]
    intro c hc
    refine lettersOf_of_isSeparator ?_
    rw [isSeparator, hall c hc, Bool.or_true]
  calc (trimmed cs).flatMap lettersOf
    _ = (lead ++ trimmed cs ++ trail).flatMap lettersOf := by
        rw [List.flatMap_append, List.flatMap_append, hblank lead hlead, hblank trail htrail,
          List.nil_append, List.append_nil]
    _ = cs.flatMap lettersOf := by rw [← hsplit]

end Letters

/-- The form of a template's name. -/
structure WellSpelled (name : String) : Prop where
  no_underscore : '_' ∉ name.toList
  no_blank : ∀ c ∈ name.toList, isBlank c = false
  head_ne_hyphen : name.toList.head? ≠ some '-'
  hyphens_apart : ¬ ['-', '-'] <:+: name.toList
  /-- No capital has another lowercase form than itself. -/
  lowered_eq : ∀ c ∈ name.toList, isUpper c = true → lowered c = [c]

theorem Tidy.wellSpelled {name : String} (h : Tidy true name.toList) : WellSpelled name where
  no_underscore := by
    intro hmem
    have hhyphen : '_' = '-' := h.separators '_' hmem rfl
    cases hhyphen
  no_blank := fun _ hc => h.isBlank_eq_false hc
  head_ne_hyphen := by
    intro hhead
    exact h.hyphens.1 rfl '-' hhead rfl
  hyphens_apart := by
    intro hinfix
    have hapart : Apart (· = '-') (· = '-') False name.toList := ⟨False.elim, h.hyphens.2⟩
    exact apart_iff_infix.mp hapart ⟨'-', '-', hinfix, rfl, rfl⟩
  lowered_eq := fun c hc hupper => (h.capitals c hc hupper).2

/-- **The name of a template is well spelled**, whatever it was spelled from: it has no underscore
and no white space, no hyphen at the start and no two together, and no capital with another
lowercase form. It has the letters that it was spelled from. -/
theorem templateName_wellSpelled (name : String) :
    WellSpelled (templateName name) ∧
      (templateName name).toList.flatMap lettersOf = name.toList.flatMap lettersOf := by
  constructor
  · exact (tidy_templateName name).wellSpelled
  · calc (templateName name).toList.flatMap lettersOf
      _ = (spelledAfter true false (trimmed name.toList)).flatMap lettersOf := by
          rw [toList_templateName]
      _ = (trimmed name.toList).flatMap lettersOf := flatMap_lettersOf_spelledAfter _ _ _
      _ = name.toList.flatMap lettersOf := flatMap_lettersOf_trimmed _

/-- Hyphens are dropped at the start only. -/
example : templateName "--Ray_ TraceX2Y--" = "ray-trace-x2-y-" := by decide +kernel

end Recipe
