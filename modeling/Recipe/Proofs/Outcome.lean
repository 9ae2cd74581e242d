import Mathlib.Data.List.Forall2

/-!
# Outcomes of computations that can fail

When a computation succeeds, and with what. A step that follows another succeeds if both do, and a
computation on each member of a list succeeds if it does on all of them.
-/

set_option autoImplicit false

namespace Recipe

variable {ε α β γ : Type}

/-! ## Steps -/

theorem bind_eq_ok {x : Except ε α} {f : α → Except ε β} {b : β} :
    x >>= f = .ok b ↔ ∃ a, x = .ok a ∧ f a = .ok b := by
  cases x with
  | error e => simp [bind, Except.bind]
  | ok a => simp [bind, Except.bind]

theorem map_eq_ok {x : Except ε α} {f : α → β} {b : β} :
    f <$> x = .ok b ↔ ∃ a, x = .ok a ∧ f a = b := by
  cases x with
  | error e => simp [Functor.map, Except.map]
  | ok a => simp [Functor.map, Except.map]

theorem pure_eq_ok {a b : α} : (pure a : Except ε α) = .ok b ↔ a = b := by
  simp [pure, Except.pure]

theorem throw_ne_ok {e : ε} {a : α} : (throw e : Except ε α) = .ok a ↔ False := by
  simp [throw, throwThe, MonadExceptOf.throw]

theorem exists_of_isOk {x : Except ε α} (h : x.isOk = true) : ∃ a, x = .ok a := by
  cases x with
  | error e => cases h
  | ok a => exact ⟨a, rfl⟩

theorem ofExcept_eq (x : Except ε α) : (MonadExcept.ofExcept x : Except ε α) = x := by
  cases x <;> rfl

theorem discard_eq_ok {x : Except ε α} {u : PUnit} : discard x = .ok u ↔ ∃ a, x = .ok a := by
  cases x with
  | error e => simp [discard, Functor.mapConst, Except.map]
  | ok a => simp [discard, Functor.mapConst, Except.map]

/-- A check in front of a computation passes exactly if its fault is not there. -/
theorem guard_eq_ok {p : Prop} [Decidable p] {e : ε} {x : Except ε α} {a : α} :
    (if p then throw e else x) = .ok a ↔ ¬ p ∧ x = .ok a := by
  split
  · next h => simp [throw_ne_ok, h]
  · next h => simp [h]

/-- The same for a check that is a step of its own. -/
theorem check_eq_ok {p : Prop} [Decidable p] {e : ε} {f : α → Except ε β} {x : Except ε β}
    {b : β} : (if p then throw e >>= f else x) = .ok b ↔ ¬ p ∧ x = .ok b := by
  split
  · next h => simp [bind_eq_ok, throw_ne_ok, h]
  · next h => simp [h]

/-! ## Faults -/

/-- Steps fail where the first of them fails. -/
theorem bind_eq_error {x : Except ε α} {f : α → Except ε β} {e : ε} :
    x >>= f = .error e ↔ x = .error e ∨ ∃ a, x = .ok a ∧ f a = .error e := by
  cases x with
  | error fault => simp [bind, Except.bind]
  | ok a => simp [bind, Except.bind]

theorem pure_ne_error {e : ε} {a : α} : (pure a : Except ε α) = .error e ↔ False := by
  simp [pure, Except.pure]

theorem throw_eq_error {fault e : ε} : (throw fault : Except ε α) = .error e ↔ fault = e := by
  simp [throw, throwThe, MonadExceptOf.throw]

theorem mapError_eq_ok {ε' : Type} {x : Except ε α} {mark : ε → ε'} {a : α} :
    x.mapError mark = .ok a ↔ x = .ok a := by
  cases x <;> simp [Except.mapError]

theorem mapError_eq_error {x : Except ε α} {mark : ε → ε} {e : ε} :
    x.mapError mark = .error e ↔ ∃ cause, x = .error cause ∧ mark cause = e := by
  cases x <;> simp [Except.mapError]

theorem mapError_id {x : Except ε α} : x.mapError id = x := by
  cases x <;> rfl

/-! ## Lists -/

theorem exists_forall₂ {R : α → β → Prop} {xs : List α} :
    (∃ ys, List.Forall₂ R xs ys) ↔ ∀ x ∈ xs, ∃ y, R x y := by
  induction xs with
  | nil => simp
  | cons x rest ih =>
      simp only [List.forall_mem_cons, ← ih]
      constructor
      · rintro ⟨_, h⟩
        cases h with
        | cons hx hrest => exact ⟨⟨_, hx⟩, _, hrest⟩
      · rintro ⟨⟨y, hx⟩, ys, hrest⟩
        exact ⟨y :: ys, List.Forall₂.cons hx hrest⟩

theorem exists_of_forall₂_mem {R : α → β → Prop} {xs : List α} {ys : List β}
    (h : List.Forall₂ R xs ys) : ∀ x ∈ xs, ∃ y ∈ ys, R x y := by
  induction h with
  | nil => simp
  | cons hx _ ih =>
      intro x hmem
      rcases List.mem_cons.mp hmem with rfl | hmem
      · exact ⟨_, List.mem_cons_self, hx⟩
      · obtain ⟨y, hy, hR⟩ := ih x hmem
        exact ⟨y, List.mem_cons_of_mem _ hy, hR⟩

theorem exists_of_mem_forall₂ {R : α → β → Prop} {xs : List α} {ys : List β}
    (h : List.Forall₂ R xs ys) : ∀ y ∈ ys, ∃ x ∈ xs, R x y := by
  have hflip : List.Forall₂ (flip R) ys xs := List.Forall₂.flip h
  exact exists_of_forall₂_mem hflip

theorem map_eq_of_forall₂ {R : α → β → Prop} {f : α → γ} {g : β → γ} {xs : List α} {ys : List β}
    (hR : ∀ x y, R x y → g y = f x) (h : List.Forall₂ R xs ys) : ys.map g = xs.map f := by
  induction h with
  | nil => rfl
  | cons hx _ ih => rw [List.map_cons, List.map_cons, hR _ _ hx, ih]

theorem forall₂_and {R S : α → β → Prop} {xs : List α} {ys : List β} :
    List.Forall₂ (fun x y => R x y ∧ S x y) xs ys ↔ List.Forall₂ R xs ys ∧ List.Forall₂ S xs ys := by
  constructor
  · intro h
    exact ⟨h.imp fun _ _ hxy => hxy.1, h.imp fun _ _ hxy => hxy.2⟩
  · rintro ⟨hR, hS⟩
    induction hR with
    | nil => exact List.Forall₂.nil
    | cons hx _ ih =>
        cases hS with
        | cons hy hrest => exact List.Forall₂.cons ⟨hx, hy⟩ (ih hrest)

theorem forall₂_comp {R : α → β → Prop} {S : β → γ → Prop} {T : α → γ → Prop}
    (hT : ∀ x y z, R x y → S y z → T x z) {xs : List α} {ys : List β} {zs : List γ}
    (hR : List.Forall₂ R xs ys) (hS : List.Forall₂ S ys zs) : List.Forall₂ T xs zs := by
  induction hR generalizing zs with
  | nil =>
      cases hS
      exact List.Forall₂.nil
  | cons hx _ ih =>
      cases hS with
      | cons hy hrest => exact List.Forall₂.cons (hT _ _ _ hx hy) (ih hrest)

/-- **A computation succeeds on a list exactly if it does on each member.** -/
theorem mapM_eq_ok {f : α → Except ε β} {xs : List α} {ys : List β} :
    xs.mapM f = .ok ys ↔ List.Forall₂ (fun x y => f x = .ok y) xs ys := by
  induction xs generalizing ys with
  | nil =>
      rw [List.mapM_nil, pure_eq_ok, List.forall₂_nil_left_iff]
      exact eq_comm
  | cons x rest ih =>
      simp only [List.mapM_cons, bind_eq_ok, pure_eq_ok]
      constructor
      · rintro ⟨y, hx, ys, hrest, rfl⟩
        exact List.Forall₂.cons hx (ih.mp hrest)
      · intro h
        cases h with
        | cons hx hrest => exact ⟨_, hx, _, ih.mpr hrest, rfl⟩

/-- A computation that fails on a list fails so on one of its members. -/
theorem exists_of_mapM_eq_error {f : α → Except ε β} {xs : List α} {e : ε}
    (h : xs.mapM f = .error e) : ∃ x ∈ xs, f x = .error e := by
  induction xs with
  | nil =>
      rw [List.mapM_nil] at h
      exact (pure_ne_error.mp h).elim
  | cons x rest ih =>
      simp only [List.mapM_cons, bind_eq_error, pure_ne_error, and_false, exists_false,
        or_false] at h
      rcases h with hx | ⟨-, -, hrest⟩
      · exact ⟨x, List.mem_cons_self, hx⟩
      · obtain ⟨y, hy, hfault⟩ := ih hrest
        exact ⟨y, List.mem_cons_of_mem x hy, hfault⟩

/-- A check of each member passes exactly if it passes on all of them. -/
theorem forM_eq_ok {f : α → Except ε Unit} {xs : List α} {u : Unit} :
    xs.forM f = .ok u ↔ ∀ x ∈ xs, f x = .ok u := by
  induction xs with
  | nil =>
      rw [List.forM, pure_eq_ok]
      simp
  | cons x rest ih =>
      rw [List.forM, bind_eq_ok, List.forall_mem_cons]
      constructor
      · rintro ⟨_, hx, hrest⟩
        exact ⟨hx, ih.mp hrest⟩
      · rintro ⟨hx, hrest⟩
        exact ⟨u, hx, ih.mpr hrest⟩

/-! ## Options -/

theorem exists_optionRel {R : α → β → Prop} {x : Option α} :
    (∃ y, Option.Rel R x y) ↔ ∀ a, x = some a → ∃ b, R a b := by
  constructor
  · rintro ⟨y, hy⟩ a rfl
    cases hy with
    | some hb => exact ⟨_, hb⟩
  · intro h
    cases x with
    | none => exact ⟨none, Option.Rel.none⟩
    | some a =>
        obtain ⟨b, hb⟩ := h a rfl
        exact ⟨some b, Option.Rel.some hb⟩

theorem eq_none_iff_of_optionRel {R : α → β → Prop} {x : Option α} {y : Option β}
    (h : Option.Rel R x y) : x = none ↔ y = none := by
  cases h <;> simp

theorem exists_of_optionRel_some {R : α → β → Prop} {x : Option α} {b : β}
    (h : Option.Rel R x (some b)) : ∃ a, x = some a ∧ R a b := by
  cases h with
  | some hb => exact ⟨_, rfl, hb⟩

theorem optionRel_mono {R S : α → β → Prop} {x : Option α} {y : Option β}
    (hRS : ∀ a b, R a b → S a b) (h : Option.Rel R x y) : Option.Rel S x y := by
  cases h with
  | none => exact Option.Rel.none
  | some hb => exact Option.Rel.some (hRS _ _ hb)

theorem map_eq_of_optionRel {R : α → β → Prop} {f : α → γ} {g : β → γ} {x : Option α}
    {y : Option β} (hR : ∀ a b, R a b → g b = f a) (h : Option.Rel R x y) : y.map g = x.map f := by
  cases h with
  | none => rfl
  | some hb => rw [Option.map_some, Option.map_some, hR _ _ hb]

theorem optionMapM_eq_ok {f : α → Except ε β} {x : Option α} {y : Option β} :
    x.mapM f = .ok y ↔ Option.Rel (fun a b => f a = .ok b) x y := by
  cases x with
  | none =>
      rw [Option.mapM_none, pure_eq_ok]
      constructor
      · rintro rfl
        exact Option.Rel.none
      · intro h
        cases h
        rfl
  | some a =>
      rw [Option.mapM_some, map_eq_ok]
      constructor
      · rintro ⟨b, hb, rfl⟩
        exact Option.Rel.some hb
      · intro h
        cases h with
        | some hb => exact ⟨_, hb, rfl⟩

end Recipe
