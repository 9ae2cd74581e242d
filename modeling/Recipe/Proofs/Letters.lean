import Recipe.Name

/-!
# Letters with case

What the tables of letters say about single characters. The tables are lists of runs of code
points, so what holds of all letters is checked run by run: no run of capitals meets a run of
lowercase letters, and each run of capitals that have lowercase forms is moved into a run of
lowercase letters.
-/

set_option autoImplicit false

namespace Recipe.Text

/-! ## Runs -/

namespace Run

variable {run other : Run} {code : Nat}

theorem contains_iff : run.contains code = true ↔
    run.first ≤ code ∧ code ≤ run.last ∧ (code - run.first) % run.stride = 0 := by
  simp [contains, and_assoc]

/-- Two runs that may overlap have no code point in common, since one has a single code point that
is not on the other, or since they alternate. -/
def interleaves (run other : Run) : Bool :=
  (run.first == run.last && !other.contains run.first) ||
    (other.first == other.last && !run.contains other.first) ||
    (run.stride % 2 == 0 && other.stride % 2 == 0 && run.first % 2 != other.first % 2)

/-- Two runs have no code point in common. -/
def apart (run other : Run) : Bool :=
  Nat.blt run.last other.first || Nat.blt other.last run.first || run.interleaves other

theorem contains_of_interleaves (h : run.interleaves other = true)
    (hcode : run.contains code = true) : other.contains code = false := by
  rw [Bool.eq_false_iff]
  intro hother
  have hrun := contains_iff.mp hcode
  have hmeet := contains_iff.mp hother
  simp only [interleaves, Bool.or_eq_true, Bool.and_eq_true, beq_iff_eq, bne_iff_ne,
    Bool.not_eq_true'] at h
  rcases h with (⟨hsingle, h⟩ | ⟨hsingle, h⟩) | ⟨⟨hstride, hstrides⟩, hparity⟩
  · have hfirst : code = run.first := by omega
    rw [← hfirst, hother] at h
    cases h
  · have hfirst : code = other.first := by omega
    rw [← hfirst, hcode] at h
    cases h
  -- all code points of a run with an even stride have the parity of the first
  · have heven : ∀ first stride : Nat, stride % 2 = 0 → first ≤ code →
        (code - first) % stride = 0 → code % 2 = first % 2 := by
      intro first stride hstride hle hmod
      have hdvd := Nat.dvd_trans (Nat.dvd_of_mod_eq_zero hstride) (Nat.dvd_of_mod_eq_zero hmod)
      omega
    have hleft := heven run.first run.stride hstride hrun.1 hrun.2.2
    have hright := heven other.first other.stride hstrides hmeet.1 hmeet.2.2
    omega

theorem contains_of_apart (h : run.apart other = true) (hcode : run.contains code = true) :
    other.contains code = false := by
  rw [apart, Bool.or_eq_true, Bool.or_eq_true, Nat.blt_eq, Nat.blt_eq] at h
  rcases h with (h | h) | h
  · rw [Bool.eq_false_iff, Ne, contains_iff]
    have hrun := contains_iff.mp hcode
    omega
  · rw [Bool.eq_false_iff, Ne, contains_iff]
    have hrun := contains_iff.mp hcode
    omega
  · exact contains_of_interleaves h hcode

/-- No run of a table meets one of another. -/
def tablesApart (runs others : List Run) : Bool :=
  runs.all fun run => others.all fun other => run.apart other

theorem any_contains_of_tablesApart {runs others : List Run} (h : tablesApart runs others = true)
    (hcode : runs.any (·.contains code) = true) : others.any (·.contains code) = false := by
  obtain ⟨run, hrun, hcode⟩ := List.any_eq_true.mp hcode
  rw [List.any_eq_false]
  intro other hother
  have hapart := List.all_eq_true.mp (List.all_eq_true.mp h run hrun) other hother
  rw [contains_of_apart hapart hcode]
  exact Bool.false_ne_true

end Run

namespace CaseRun

/-- The lowercase forms of all letters on a run are on another. -/
def landsIn (run : CaseRun) (target : Run) : Bool :=
  Nat.ble (run.lowered run.last) target.last && Nat.ble target.first (run.lowered run.first) &&
    (run.lowered run.first : Int) == run.first + run.shift &&
    (run.first == run.last || run.stride % target.stride == 0) &&
    (run.lowered run.first - target.first) % target.stride == 0

theorem contains_lowered {run : CaseRun} {target : Run} (h : run.landsIn target = true) {code : Nat}
    (hcode : run.contains code = true) : target.contains (run.lowered code) = true := by
  obtain ⟨hfirst, hlast, hstride⟩ := Run.contains_iff.mp hcode
  simp only [landsIn, Bool.and_eq_true, Bool.or_eq_true, Nat.ble_eq, beq_iff_eq] at h
  obtain ⟨⟨⟨⟨hend, hstart⟩, hshift⟩, hstrides⟩, hoffset⟩ := h
  -- the run is moved as a whole
  have hmoved : run.lowered code = run.lowered run.first + (code - run.first) := by
    have hcast : ((code - run.first : Nat) : Int) = code - run.first := by omega
    unfold lowered at hshift ⊢
    omega
  have hmax : run.lowered code ≤ run.lowered run.last := by
    unfold lowered
    omega
  refine Run.contains_iff.mpr ⟨by omega, by omega, ?_⟩
  have hdvd : target.stride ∣ code - run.first := by
    rcases hstrides with hsingle | hstrides
    · have hzero : code - run.first = 0 := by omega
      rw [hzero]
      exact Nat.dvd_zero _
    · exact Nat.dvd_trans (Nat.dvd_of_mod_eq_zero hstrides) (Nat.dvd_of_mod_eq_zero hstride)
  have hsplit : run.lowered code - target.first =
      run.lowered run.first - target.first + (code - run.first) := by omega
  rw [hsplit]
  exact Nat.mod_eq_zero_of_dvd (Nat.dvd_add (Nat.dvd_of_mod_eq_zero hoffset) hdvd)

end CaseRun

/-! ## Tables -/

namespace CaseTable

/-- White space, hyphen, underscore and digits. -/
def uncased : List Run :=
  [⟨0x9, 0xD, 1⟩, ⟨0x20, 0x20, 1⟩, ⟨0x2D, 0x2D, 1⟩, ⟨0x30, 0x39, 1⟩, ⟨0x5F, 0x5F, 1⟩,
   ⟨0x85, 0x85, 1⟩, ⟨0xA0, 0xA0, 1⟩, ⟨0x1680, 0x1680, 1⟩, ⟨0x2000, 0x200A, 1⟩, ⟨0x2028, 0x2029, 1⟩,
   ⟨0x202F, 0x202F, 1⟩, ⟨0x205F, 0x205F, 1⟩, ⟨0x3000, 0x3000, 1⟩]

theorem uppercase_apart :
    Run.tablesApart (uppercase.map CaseRun.toRun) (uncased ++ lowercase) = true := by
  decide +kernel

theorem lowercase_apart : Run.tablesApart uncased lowercase = true := by decide +kernel

/-- Each run of capitals that is moved at all is moved into one of lowercase letters. -/
theorem uppercase_landsIn_lowercase :
    (uppercase.all fun run => run.shift == 0 || lowercase.any (run.landsIn ·)) = true := by
  decide +kernel

/-- Each code point on a run of lowercase letters is that of a character. -/
theorem lowercase_valid :
    (lowercase.all fun run =>
      Nat.blt run.last 0xD800 || Nat.blt 0xDFFF run.first && Nat.blt run.last 0x110000) = true := by
  decide +kernel

end CaseTable

/-! ## Characters -/

theorem eq_false_of_excludes {a b : Bool} (h : a = true → b = false) (hb : b = true) :
    a = false := by
  cases a with
  | false => rfl
  | true =>
      rw [h rfl] at hb
      cases hb

variable {c : Char}

theorem isUpper_eq_any :
    isUpper c = (CaseTable.uppercase.map CaseRun.toRun).any (·.contains c.toNat) := by
  rw [List.any_map]
  rfl

/-- **No capital is a lowercase letter**, and none is white space, a hyphen, an underscore or a
digit. -/
theorem apart_of_isUpper (h : isUpper c = true) :
    isLower c = false ∧ CaseTable.uncased.any (·.contains c.toNat) = false := by
  rw [isUpper_eq_any] at h
  have hapart := Run.any_contains_of_tablesApart CaseTable.uppercase_apart h
  rw [List.any_append, Bool.or_eq_false_iff] at hapart
  exact ⟨hapart.2, hapart.1⟩

theorem isUpper_of_isLower (h : isLower c = true) : isUpper c = false :=
  eq_false_of_excludes (fun hupper => (apart_of_isUpper hupper).1) h

theorem any_uncased {code : Nat} : CaseTable.uncased.any (·.contains code) = true ↔
    (0x9 ≤ code ∧ code ≤ 0xD) ∨ code = 0x20 ∨ code = 0x2D ∨ (0x30 ≤ code ∧ code ≤ 0x39) ∨
      code = 0x5F ∨ code = 0x85 ∨ code = 0xA0 ∨ code = 0x1680 ∨ (0x2000 ≤ code ∧ code ≤ 0x200A) ∨
      code = 0x2028 ∨ code = 0x2029 ∨ code = 0x202F ∨ code = 0x205F ∨ code = 0x3000 := by
  simp only [CaseTable.uncased, List.any_cons, List.any_nil, Bool.or_eq_true, Run.contains_iff,
    Nat.mod_one, Bool.false_eq_true, and_true, or_false]
  omega

theorem case_of_uncased (h : CaseTable.uncased.any (·.contains c.toNat) = true) :
    isUpper c = false ∧ isLower c = false :=
  ⟨eq_false_of_excludes (fun hupper => (apart_of_isUpper hupper).2) h,
    Run.any_contains_of_tablesApart CaseTable.lowercase_apart h⟩

theorem case_of_isSeparator (h : isSeparator c = true) : isUpper c = false ∧ isLower c = false := by
  refine case_of_uncased ?_
  rw [isSeparator, Bool.or_eq_true, Bool.or_eq_true, beq_iff_eq, beq_iff_eq] at h
  rcases h with (rfl | rfl) | h
  · decide
  · decide
  · simp only [isBlank, Bool.or_eq_true, Bool.and_eq_true, decide_eq_true_eq, beq_iff_eq] at h
    rw [any_uncased]
    omega

theorem case_of_isDigit (h : c.isDigit = true) : isUpper c = false ∧ isLower c = false := by
  refine case_of_uncased ?_
  have hcode : 0x30 ≤ c.toNat ∧ c.toNat ≤ 0x39 := by
    simpa [Char.isDigit, UInt32.le_iff_toNat_le] using h
  rw [any_uncased]
  omega

/-! ## Lowercase forms -/

theorem isLower_ofNat {run : Run} (hrun : run ∈ CaseTable.lowercase) {code : Nat}
    (hcode : run.contains code = true) : isLower (Char.ofNat code) = true := by
  have hvalid := List.all_eq_true.mp CaseTable.lowercase_valid run hrun
  simp only [Bool.or_eq_true, Bool.and_eq_true, Nat.blt_eq] at hvalid
  obtain ⟨hfirst, hlast, -⟩ := Run.contains_iff.mp hcode
  have hchar : code.isValidChar := by
    unfold Nat.isValidChar
    omega
  have hnat : (Char.ofNat code).toNat = code := by
    rw [Char.ofNat, dif_pos hchar]
    rfl
  exact List.any_eq_true.mpr ⟨run, hrun, by rw [hnat]; exact hcode⟩

/-- A capital that has a lowercase letter for its lowercase form. -/
def Lowers (c : Char) : Prop := isUpper c = true ∧ ∃ d, lowered c = [d] ∧ isLower d = true

/-- A capital that is its own lowercase form, as those of the mathematical alphabets are. -/
def Stays (c : Char) : Prop := isUpper c = true ∧ lowered c = [c]

/-- The capital I with a dot keeps the dot in lowercase, as a character of its own. -/
theorem lowered_dotted : lowered 'İ' = ['i', '\u0307'] := by decide +kernel

/-- The lowercase form of any other capital is a single character, as its run says. -/
theorem exists_lowered (h : isUpper c = true) (hdotted : c ≠ 'İ') :
    ∃ run ∈ CaseTable.uppercase, run.contains c.toNat = true ∧
      lowered c = [Char.ofNat (run.lowered c.toNat)] := by
  cases hfind : CaseTable.uppercase.find? (·.contains c.toNat) with
  | none =>
      obtain ⟨run, hrun, hcode⟩ := List.any_eq_true.mp h
      exact absurd hcode (List.find?_eq_none.mp hfind run hrun)
  | some run =>
      have hcode : run.contains c.toNat = true := by simpa using List.find?_some hfind
      refine ⟨run, List.mem_of_find?_eq_some hfind, hcode, ?_⟩
      rw [lowered, List.find?_append, hfind, Option.some_or]
      simp only [if_neg hdotted]

/-- **A capital has a lowercase letter, or it stays as it is**, but for the one with a dot. -/
theorem isUpper_cases (h : isUpper c = true) : Lowers c ∨ Stays c ∨ c = 'İ' := by
  by_cases hdotted : c = 'İ'
  · exact .inr (.inr hdotted)
  obtain ⟨run, hrun, hcode, hlowered⟩ := exists_lowered h hdotted
  have hlands := List.all_eq_true.mp CaseTable.uppercase_landsIn_lowercase run hrun
  rw [Bool.or_eq_true, beq_iff_eq] at hlands
  rcases hlands with hshift | hlands
  · have hsame : run.lowered c.toNat = c.toNat := by
      rw [CaseRun.lowered, hshift, Int.add_zero, Int.toNat_natCast]
    rw [hsame, Char.ofNat_toNat] at hlowered
    exact .inr (.inl ⟨h, hlowered⟩)
  · obtain ⟨target, htarget, hlands⟩ := List.any_eq_true.mp hlands
    exact .inl ⟨h, _, hlowered, isLower_ofNat htarget (CaseRun.contains_lowered hlands hcode)⟩

theorem Lowers.not_stays (h : Lowers c) : ¬ Stays c := by
  rintro ⟨hupper, hstays⟩
  obtain ⟨-, d, hlowered, hlower⟩ := h
  rw [hstays, List.cons.injEq] at hlowered
  rw [← hlowered.1, (apart_of_isUpper hupper).1] at hlower
  cases hlower

end Recipe.Text
