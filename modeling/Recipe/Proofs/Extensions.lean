import Mathlib.Data.List.TakeWhile
import Recipe.Declaration
import Recipe.Proofs.Outcome

/-!
# Extensions of paths

An input of files may list the extensions that its paths have, and its default must end in a point
and one of them, in any mix of upper and lower case. The check compares the lowercase form of the
path with that of the extension, and the lowercase form of a text depends on its surroundings in one
place: a capital sigma at the end of a word has a form of its own. A path made from a listed
extension ends in the lowercase form of that extension unless the sigma ends a word in the path only
(`hasExtension_singleton`). So it is accepted but for that (`declared_extension_accepted`).
-/

set_option autoImplicit false

namespace Recipe

namespace Text

/-! ## Surroundings -/

/-- Case rules look past all of the characters. -/
def LookedPast (cs : List Char) : Prop := ∀ c ∈ cs, isCaseIgnorable c = true

variable {front : List Char}

theorem startsCased_append (h : LookedPast front) (rest : List Char) :
    startsCased (front ++ rest) = startsCased rest := by
  unfold startsCased
  rw [List.dropWhile_append_of_pos h]

theorem startsCased_eq_false (h : LookedPast front) : startsCased front = false := by
  have happend := startsCased_append h []
  rwa [List.append_nil] at happend

/-- Nothing matters behind the first character that case rules do not look past. -/
theorem startsCased_append_of_not (h : ¬ LookedPast front) (rest : List Char) :
    startsCased (front ++ rest) = startsCased front := by
  have hne : front.dropWhile isCaseIgnorable ≠ [] := fun hnil =>
    h (List.dropWhile_eq_nil_iff.mp hnil)
  unfold startsCased
  rw [List.dropWhile_append]
  cases hdrop : front.dropWhile isCaseIgnorable with
  | nil => exact absurd hdrop hne
  | cons c tail => simp

theorem lookedPast_cons {c : Char} (hc : isCaseIgnorable c = true) (h : LookedPast front) :
    LookedPast (c :: front) := List.forall_mem_cons.mpr ⟨hc, h⟩

theorem not_lookedPast_cons {c : Char} (hc : isCaseIgnorable c = false) (front : List Char) :
    ¬ LookedPast (c :: front) := by
  intro h
  rw [h c List.mem_cons_self] at hc
  cases hc

/-! ## Lowercase forms -/

set_option maxRecDepth 1000 in
theorem isCaseIgnorable_sigma : isCaseIgnorable 'Σ' = false := by decide

/-- What is in front of a text decides which forms its letters have, and not how many. -/
theorem length_lowercasedAfter (before other cs : List Char) :
    (lowercasedAfter before cs).length = (lowercasedAfter other cs).length := by
  induction cs generalizing before other with
  | nil => rfl
  | cons c rest ih =>
      have htail := ih (c :: before) (c :: other)
      rw [lowercasedAfter, lowercasedAfter, List.length_append, List.length_append, htail]
      by_cases hc : c = 'Σ'
      · simp [hc]
      · simp [hc]

/-- A text is made lowercase from its start to its end. -/
theorem exists_lowercasedAfter_append (before front cs : List Char) :
    ∃ form, lowercasedAfter before (front ++ cs) =
      form ++ lowercasedAfter (front.reverse ++ before) cs := by
  induction front generalizing before with
  | nil => exact ⟨[], rfl⟩
  | cons c rest ih =>
      obtain ⟨form, hform⟩ := ih (c :: before)
      rw [List.cons_append, lowercasedAfter, hform, List.reverse_cons, List.append_assoc,
        List.singleton_append, ← List.append_assoc]
      exact ⟨_, rfl⟩

/-- What is far in front does not matter once case rules do not look past what is near. -/
theorem lowercasedAfter_append_of_not {near : List Char} (h : ¬ LookedPast near)
    (far cs : List Char) : lowercasedAfter (near ++ far) cs = lowercasedAfter near cs := by
  induction cs generalizing near with
  | nil => rfl
  | cons c rest ih =>
      have hnear : ¬ LookedPast (c :: near) := fun hcons => h fun d hd =>
        hcons d (List.mem_cons_of_mem c hd)
      have htail := ih hnear
      rw [List.cons_append] at htail
      rw [lowercasedAfter, lowercasedAfter, htail, startsCased_append_of_not h]

/-- The characters open with a capital sigma, as far as case rules see, and no letter with case
comes next: behind such a letter the sigma ends a word. -/
def opensWithLoneSigma (cs : List Char) : Bool :=
  match cs.dropWhile isCaseIgnorable with
  | 'Σ' :: rest => !startsCased rest
  | _ => false

theorem opensWithLoneSigma_sigma (rest : List Char) :
    opensWithLoneSigma ('Σ' :: rest) = !startsCased rest := by
  have hdrop : ('Σ' :: rest).dropWhile isCaseIgnorable = 'Σ' :: rest :=
    List.dropWhile_cons_of_neg (by simp [isCaseIgnorable_sigma])
  rw [opensWithLoneSigma, hdrop]
  rfl

theorem opensWithLoneSigma_cons {c : Char} (hc : isCaseIgnorable c = true) (rest : List Char) :
    opensWithLoneSigma (c :: rest) = opensWithLoneSigma rest := by
  rw [opensWithLoneSigma, List.dropWhile_cons_of_pos hc, opensWithLoneSigma]

theorem opensWithLoneSigma_of_ne {c : Char} (hc : isCaseIgnorable c = false) (hsigma : c ≠ 'Σ')
    (rest : List Char) : opensWithLoneSigma (c :: rest) = false := by
  rw [opensWithLoneSigma, List.dropWhile_cons_of_neg (by simp [hc])]
  split
  · next heq => exact absurd (List.cons.inj heq).1 hsigma
  · rfl

/-- **What is far in front matters for a lone sigma only.** As long as case rules look past what is
near, the text has the same form behind all of it unless it opens with a lone sigma and the first
thing seen far in front is a letter with case. -/
theorem lowercasedAfter_append_eq_iff {near : List Char} (h : LookedPast near)
    (far cs : List Char) :
    lowercasedAfter (near ++ far) cs = lowercasedAfter near cs ↔
      ¬ (startsCased far = true ∧ opensWithLoneSigma cs = true) := by
  induction cs generalizing near with
  | nil => simp [lowercasedAfter, opensWithLoneSigma]
  | cons c rest ih =>
      by_cases hsigma : c = 'Σ'
      · subst hsigma
        -- the sigma itself is seen, so the rest has the same form in any case
        have htail : lowercasedAfter ('Σ' :: (near ++ far)) rest =
            lowercasedAfter ('Σ' :: near) rest :=
          lowercasedAfter_append_of_not (not_lookedPast_cons isCaseIgnorable_sigma near) far rest
        rw [lowercasedAfter, lowercasedAfter, htail, startsCased_append h, startsCased_eq_false h,
          opensWithLoneSigma_sigma]
        cases startsCased far <;> cases startsCased rest <;> simp
      · have hcons : lowercasedAfter (near ++ far) (c :: rest) =
            lowercasedAfter near (c :: rest) ↔
              lowercasedAfter (c :: (near ++ far)) rest = lowercasedAfter (c :: near) rest := by
          simp [lowercasedAfter, hsigma]
        rw [hcons]
        cases hc : isCaseIgnorable c with
        | true =>
            rw [opensWithLoneSigma_cons hc]
            exact ih (lookedPast_cons hc h)
        | false =>
            have htail := lowercasedAfter_append_of_not (not_lookedPast_cons hc near) far rest
            rw [opensWithLoneSigma_of_ne hc hsigma]
            simpa using htail

/-- The text ends in a letter with case, as far as case rules see. -/
def endsCased (text : String) : Bool := startsCased text.toList.reverse

end Text

namespace Input

/-! ## Paths made from an extension -/

/-- A list ends in another of the length of one that it ends in exactly if the two are equal. -/
theorem isSuffixOf_append_iff {front suffix other : List Char} (h : other.length = suffix.length) :
    suffix.isSuffixOf (front ++ other) = true ↔ other = suffix := by
  rw [List.isSuffixOf_iff_suffix]
  constructor
  · intro hsuffix
    have hother : other <:+ front ++ other := List.suffix_append front other
    exact (List.suffix_of_suffix_length_le hother hsuffix h.le).eq_of_length h
  · rintro rfl
    exact List.suffix_append front other

/-- **A path made from an extension has it, but for a lone sigma behind a letter.** -/
theorem hasExtension_singleton (extension path : String) :
    hasExtension [extension] (path ++ "." ++ extension) = true ↔
      ¬ (Text.endsCased path = true ∧ Text.opensWithLoneSigma extension.toList = true) := by
  obtain ⟨form, hform⟩ :=
    Text.exists_lowercasedAfter_append [] path.toList ('.' :: extension.toList)
  have hpath : (Text.lowercase (path ++ "." ++ extension)).toList =
      form ++ '.' :: Text.lowercasedAfter ('.' :: path.toList.reverse) extension.toList := by
    have hpoint : Text.lowered '.' = ['.'] := by decide
    simpa [Text.lowercase, Text.lowercasedAfter, hpoint] using hform
  -- case rules look past the point, so the end of the path is seen from the extension
  have hends : Text.startsCased ('.' :: path.toList.reverse) = Text.endsCased path := by
    have hpoint : Text.LookedPast ['.'] := by
      intro c hc
      rw [List.mem_singleton.mp hc]
      decide
    exact Text.startsCased_append hpoint path.toList.reverse
  have hlength := Text.length_lowercasedAfter ('.' :: path.toList.reverse) [] extension.toList
  calc hasExtension [extension] (path ++ "." ++ extension) = true
      ↔ ('.' :: Text.lowercasedAfter [] extension.toList).isSuffixOf
          (form ++ '.' :: Text.lowercasedAfter ('.' :: path.toList.reverse) extension.toList) =
            true := by
        rw [← hpath]
        simp [hasExtension, Text.lowercase]
    _ ↔ Text.lowercasedAfter ('.' :: path.toList.reverse) extension.toList =
          Text.lowercasedAfter [] extension.toList := by
        rw [isSuffixOf_append_iff (by simp [hlength]), List.cons_inj_right]
    _ ↔ ¬ (Text.endsCased path = true ∧ Text.opensWithLoneSigma extension.toList = true) := by
        rw [← hends]
        exact Text.lowercasedAfter_append_eq_iff (List.forall_mem_nil _) _ _

theorem hasExtension_iff {extensions : List String} {path : String} :
    hasExtension extensions path = true ↔
      ∃ extension ∈ extensions, hasExtension [extension] path = true := by
  simp [hasExtension]

/-! ## Declarations -/

/-- The path that is the default of a file must have one of the extensions, if there are any. -/
theorem validateDefault_path (input : Input) (hkind : input.kind = .file ∨ input.kind = .path)
    (hne : input.extensions ≠ []) (path : String) :
    input.validateDefault (.string path) =
      if hasExtension input.extensions path then .ok ()
      else .error (.invalidDefault input.name (.otherExtension path input.extensions)) := by
  have haccepts : input.kind.accepts (.string path) = true := by
    rcases hkind with hkind | hkind <;> rw [hkind] <;> rfl
  have hsome : (!input.extensions.isEmpty) = true := by simpa using hne
  unfold validateDefault
  simp only [haccepts, Json.asString?, Json.asList?, hsome]
  cases input.items with
  | none => cases hasExtension input.extensions path <;> rfl
  | some kind => cases hasExtension input.extensions path <;> rfl

variable {input : Input}

/-- **With extensions, a path is checked for them**: if the rest of the declaration is valid, it is
all that is still to be checked. -/
theorem validate_path (hkind : input.kind = .file ∨ input.kind = .path)
    (hvalid : { input with default := none }.validate = .ok ()) {extensions : List String}
    (hne : (input.withExtensions extensions).extensions ≠ []) (path : String) :
    ((input.withExtensions extensions).withDefault (.string path)).validate =
      if hasExtension (input.withExtensions extensions).extensions path then .ok ()
      else .error (.invalidDefault input.name
        (.otherExtension path (input.withExtensions extensions).extensions)) := by
  simp only [validate, bind_eq_ok, check_eq_ok] at hvalid
  obtain ⟨⟨⟩, hdeclaration, hschema, -⟩ := hvalid
  have hsorts : (input.kind != .file && input.kind != .path) = false := by
    rcases hkind with hkind | hkind <;> rw [hkind] <;> rfl
  have hallowed : (!(extensions.map bareExtension).isEmpty && input.kind != .file &&
      input.kind != .path) = false := by
    rw [Bool.and_assoc, hsorts, Bool.and_false]
  have hdefault := validateDefault_path
    ((input.withExtensions extensions).withDefault (.string path)) hkind hne path
  calc ((input.withExtensions extensions).withDefault (.string path)).validate
      = ((input.withExtensions extensions).withDefault (.string path)).validateDefault
          (.string path) := by
        simp only [validate, withDefault, withExtensions, hdeclaration, hschema, hallowed]
        rfl
    _ = _ := hdefault

/-- **A declared extension is accepted, but for a lone sigma behind a letter.** An input of files
that is valid apart from its default, and lists extensions, has a path made from one of them as a
valid default exactly if the extension does not open with a lone sigma, or the path before it does
not end in a letter, or the whole path happens to have another one of the extensions. -/
theorem declared_extension_accepted (hkind : input.kind = .file ∨ input.kind = .path)
    (hvalid : { input with default := none }.validate = .ok ()) (extensions : List String)
    {extension : String} (hmem : extension ∈ (input.withExtensions extensions).extensions)
    (path : String) :
    ((input.withExtensions extensions).withDefault
        (.string (path ++ "." ++ extension))).validate = .ok () ↔
      ¬ (Text.endsCased path = true ∧ Text.opensWithLoneSigma extension.toList = true) ∨
        ∃ other ∈ (input.withExtensions extensions).extensions, other ≠ extension ∧
          hasExtension [other] (path ++ "." ++ extension) = true := by
  have hne : (input.withExtensions extensions).extensions ≠ [] := List.ne_nil_of_mem hmem
  rw [validate_path hkind hvalid hne]
  simp only [ite_eq_left_iff, reduceCtorEq, imp_false, Bool.not_eq_true, Bool.not_eq_false]
  rw [hasExtension_iff, ← hasExtension_singleton]
  constructor
  · rintro ⟨other, hother, haccepted⟩
    by_cases hsame : other = extension
    · rw [hsame] at haccepted
      exact Or.inl haccepted
    · exact Or.inr ⟨other, hother, hsame, haccepted⟩
  · rintro (haccepted | ⟨other, hother, -, haccepted⟩)
    · exact ⟨extension, hmem, haccepted⟩
    · exact ⟨other, hother, haccepted⟩

/-- The plan of a house, a file. -/
def plan : Input := .make "plan" .file

set_option maxRecDepth 1000 in
/-- A plan under a Greek name, which ends in a sigma, with an extension that starts with one. -/
theorem plan_accepted :
    ((plan.withExtensions ["pdf", ".ΣΧΕΔΙΟ"]).withDefault
      (.string ("ΟΙΚΟΣ" ++ "." ++ "ΣΧΕΔΙΟ"))).validate = .ok () :=
  (declared_extension_accepted (Or.inl rfl) rfl ["pdf", ".ΣΧΕΔΙΟ"]
    (List.mem_cons_of_mem "pdf" List.mem_cons_self) "ΟΙΚΟΣ").mpr
    (Or.inl (by decide))

set_option maxRecDepth 1000 in
/-- **Not every declared extension is accepted**: the path `a.Σ` is refused for the extension `Σ`,
since its sigma ends a word. -/
theorem sigma_refused :
    plan.validate = .ok () ∧ "Σ" ∈ (plan.withExtensions ["Σ"]).extensions ∧
      ((plan.withExtensions ["Σ"]).withDefault (.string ("a" ++ "." ++ "Σ"))).validate =
        .error (.invalidDefault "plan" (.otherExtension "a.Σ" ["Σ"])) := by
  have hextensions : (plan.withExtensions ["Σ"]).extensions = ["Σ"] := by
    decide
  have hrefused : hasExtension ["Σ"] ("a" ++ "." ++ "Σ") = false := by
    rw [Bool.eq_false_iff, Ne, hasExtension_singleton]
    decide
  have hmem : "Σ" ∈ (plan.withExtensions ["Σ"]).extensions := by
    rw [hextensions]
    exact List.mem_singleton_self "Σ"
  refine ⟨rfl, hmem, ?_⟩
  rw [validate_path (Or.inl rfl) rfl (List.ne_nil_of_mem hmem), hextensions, hrefused]
  rfl

end Input

end Recipe
