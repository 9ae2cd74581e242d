import Mathlib.Data.List.Forall2
import Recipe.Proofs.Serialization.Fields
import Recipe.Proofs.Table

/-!
# Comparing written values

Two values can be compared as they are written, or as the data they hold: then the fields of an
object may stand in any order, and zero has no sign (`same`). What a written record says can be told
from it either way, because both compare texts exactly, lists item by item, and objects field by
field (`Comparison`).
-/

set_option autoImplicit false

namespace Recipe

/-- Whether two numbers are equal as numbers; both zeros are. -/
def Double.same (first second : Double) : Bool :=
  first == second || (first.mantissa == 0 && second.mantissa == 0)

namespace Json

/-! ## The same data -/

mutual

/-- Whether two values hold the same data. Two objects do if each field of one has its counterpart
under its name in the other. -/
def same : Json → Json → Bool
  | null, null => true
  | bool value, bool other => value == other
  | integer value, integer other => value == other
  | double value, double other => value.same other
  | string value, string other => value == other
  | list items, list others => sameItems items others
  | object fields, object others =>
      sameFields fields others && others.all fun other => (fields.lookup other.1).isSome
  | _, _ => false

def sameItems : List Json → List Json → Bool
  | [], [] => true
  | item :: rest, other :: others => same item other && sameItems rest others
  | _, _ => false

/-- Whether each of the fields has the same value under its name among the others. -/
def sameFields : List (String × Json) → List (String × Json) → Bool
  | [], _ => true
  | (name, value) :: rest, others =>
      (match others.lookup name with
        | some other => same value other
        | none => false) && sameFields rest others

end

/-! ## Optional parts -/

theorem optionRel_of_map {α β : Type} {R : β → β → Prop} {P : α → α → Prop} {write : α → β}
    (hP : ∀ value other, R (write value) (write other) → P value other) {part other : Option α}
    (h : Option.Rel R (part.map write) (other.map write)) : Option.Rel P part other := by
  cases part with
  | none =>
      cases other with
      | none => exact Option.Rel.none
      | some other => cases h
  | some value =>
      cases other with
      | none => cases h
      | some other =>
          cases h with
          | some h => exact Option.Rel.some (hP value other h)

theorem optionRel_eq {α : Type} {part other : Option α} :
    Option.Rel Eq part other ↔ part = other := by
  constructor
  · intro h
    cases h with
    | none => rfl
    | some hvalue => rw [hvalue]
  · rintro rfl
    cases part with
    | none => exact Option.Rel.none
    | some value => exact Option.Rel.some rfl

theorem eq_of_optionRel_map {α β : Type} {R : β → β → Prop} {write : α → β}
    (hwrite : ∀ value other, R (write value) (write other) → value = other) {part other : Option α}
    (h : Option.Rel R (part.map write) (other.map write)) : part = other :=
  optionRel_eq.mp (optionRel_of_map hwrite h)

/-! ## Comparisons -/

/-- A way to compare values that tells texts, numbers and truth values apart, and compares lists and
objects by their parts. -/
structure Comparison (R : Json → Json → Prop) : Prop where
  string : ∀ {text other : String}, R (string text) (string other) → text = other
  integer : ∀ {value other : Int}, R (integer value) (integer other) → value = other
  bool : ∀ {value other : Bool}, R (bool value) (bool other) → value = other
  list : ∀ {items others : List Json}, R (list items) (list others) → List.Forall₂ R items others
  field : ∀ {value other : Json}, R value other →
    ∀ name : String, Option.Rel R (value.field? name) (other.field? name)
  empty : R (object []) (object [])

theorem comparison_eq : Comparison Eq where
  string := string.inj
  integer := integer.inj
  bool := bool.inj
  list := fun h => by
    rw [List.forall₂_eq_eq_eq]
    exact list.inj h
  field := by
    rintro value _ rfl name
    exact optionRel_eq.mpr rfl
  empty := rfl

theorem forall₂_of_sameItems {items others : List Json} (h : sameItems items others = true) :
    List.Forall₂ (fun item other => item.same other = true) items others := by
  induction items generalizing others with
  | nil =>
      cases others with
      | nil => exact List.Forall₂.nil
      | cons other rest => simp [sameItems] at h
  | cons item rest ih =>
      cases others with
      | nil => simp [sameItems] at h
      | cons other others =>
          simp only [sameItems, Bool.and_eq_true] at h
          exact List.Forall₂.cons h.1 (ih h.2)

theorem lookup_of_sameFields {fields others : List (String × Json)}
    (h : sameFields fields others = true) {name : String} {value : Json}
    (hvalue : fields.lookup name = some value) :
    ∃ other, others.lookup name = some other ∧ value.same other = true := by
  induction fields with
  | nil => simp at hvalue
  | cons field rest ih =>
      obtain ⟨fieldName, fieldValue⟩ := field
      simp only [sameFields, Bool.and_eq_true] at h
      rw [lookup_field] at hvalue
      by_cases hname : name = fieldName
      · subst hname
        simp only [beq_self_eq_true, if_true, Option.some.injEq] at hvalue
        subst hvalue
        cases hother : others.lookup name with
        | none => simp [hother] at h
        | some other => exact ⟨other, rfl, by simpa [hother] using h.1⟩
      · simp only [beq_iff_eq, hname, if_false] at hvalue
        exact ih h.2 hvalue

theorem rel_lookup_of_same {fields others : List (String × Json)}
    (hfields : sameFields fields others = true)
    (hothers : ∀ other ∈ others, (fields.lookup other.1).isSome = true) (name : String) :
    Option.Rel (fun value other => value.same other = true) (fields.lookup name)
      (others.lookup name) := by
  cases hvalue : fields.lookup name with
  | some value =>
      obtain ⟨other, hother, hsame⟩ := lookup_of_sameFields hfields hvalue
      rw [hother]
      exact Option.Rel.some hsame
  | none =>
      cases hother : others.lookup name with
      | none => exact Option.Rel.none
      | some other =>
          have hsome := hothers (name, other) (Table.mem_of_lookup hother)
          simp [hvalue] at hsome

theorem comparison_same : Comparison fun value other => value.same other = true where
  string := fun h => by simpa [same] using h
  integer := fun h => by simpa [same] using h
  bool := fun h => by simpa [same] using h
  list := fun h => forall₂_of_sameItems (by simpa [same] using h)
  field := by
    intro value other h name
    cases value with
    | object fields =>
        cases other with
        | object others =>
            simp only [same, Bool.and_eq_true, List.all_eq_true] at h
            exact rel_lookup_of_same h.1 h.2 name
        | _ => simp [same] at h
    | _ =>
        -- a value without fields is not the same as one with fields
        cases other with
        | object others => simp [same] at h
        | _ => exact Option.Rel.none
  empty := rfl

/-! ## Parts of compared records -/

namespace Comparison

variable {R : Json → Json → Prop} (hR : Comparison R)

include hR

theorem forall₂_of_map {α : Type} {P : α → α → Prop} {write : α → Json}
    (hP : ∀ value other, R (write value) (write other) → P value other) {values others : List α}
    (h : R (Json.list (values.map write)) (Json.list (others.map write))) :
    List.Forall₂ P values others := by
  have hitems := hR.list h
  rw [List.forall₂_map_left_iff, List.forall₂_map_right_iff] at hitems
  exact hitems.imp hP

theorem eq_of_map {α : Type} {write : α → Json}
    (hwrite : ∀ value other, R (write value) (write other) → value = other) {values others : List α}
    (h : R (Json.list (values.map write)) (Json.list (others.map write))) : values = others := by
  have hvalues : List.Forall₂ Eq values others := hR.forall₂_of_map hwrite h
  rwa [List.forall₂_eq_eq_eq] at hvalues

theorem eq_of_strings {texts others : List String}
    (h : R (Json.strings texts) (Json.strings others)) : texts = others :=
  hR.eq_of_map (fun _ _ => hR.string) h

theorem eq_of_optionalString {text other : Option String}
    (h : Option.Rel R (text.map Json.string) (other.map Json.string)) : text = other :=
  eq_of_optionRel_map (fun _ _ => hR.string) h

theorem forall₂_of_listUnlessEmpty {α : Type} {P : α → α → Prop} {write : α → Json}
    (hP : ∀ value other, R (write value) (write other) → P value other) {values others : List α}
    (h : Option.Rel R (listUnlessEmpty (values.map write)) (listUnlessEmpty (others.map write))) :
    List.Forall₂ P values others := by
  cases values with
  | nil =>
      cases others with
      | nil => exact List.Forall₂.nil
      | cons other others => cases h
  | cons value values =>
      cases others with
      | nil => cases h
      | cons other others =>
          cases h with
          | some h => exact hR.forall₂_of_map hP h

theorem eq_of_listUnlessEmpty {α : Type} {write : α → Json}
    (hwrite : ∀ value other, R (write value) (write other) → value = other) {values others : List α}
    (h : Option.Rel R (listUnlessEmpty (values.map write)) (listUnlessEmpty (others.map write))) :
    values = others := by
  have hvalues : List.Forall₂ Eq values others := hR.forall₂_of_listUnlessEmpty hwrite h
  rwa [List.forall₂_eq_eq_eq] at hvalues

theorem object_of_objectUnlessEmpty {fields others : List (String × Json)}
    (h : Option.Rel R (objectUnlessEmpty fields) (objectUnlessEmpty others)) :
    R (object fields) (object others) := by
  cases fields with
  | nil =>
      cases others with
      | nil => exact hR.empty
      | cons other others => cases h
  | cons field fields =>
      cases others with
      | nil => cases h
      | cons other others =>
          cases h with
          | some h => exact h

end Comparison

end Json

end Recipe
