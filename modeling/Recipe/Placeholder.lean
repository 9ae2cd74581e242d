import Recipe.Json.Value
import Recipe.Name

/-!
# Placeholders

Commands, paths and literals refer to the inputs of their template by placeholders, a reference
between two pairs of braces. Recipes write `self.input_name` there and compiled graphs
`inputs.input-name`.
-/

set_option autoImplicit false

namespace Recipe

open Text

/-! ## References -/

/-- The rest of the characters after `lead`, if they start with it. -/
def afterLead? : List Char → List Char → Option (List Char)
  | [], cs => some cs
  | _ :: _, [] => none
  | l :: lead, c :: cs => if l = c then afterLead? lead cs else none

/-- A reference to an input under its canonical name; any other reference stays as it is. -/
def renameReference (reference : List Char) : List Char :=
  match (afterLead? "self.".toList reference).or (afterLead? "inputs.".toList reference) with
  | some name => "inputs.".toList ++ name.map hyphenated
  | none => reference

/-- The inside of a placeholder with its reference renamed and the white space around it kept. -/
def renameInside (inside : List Char) : List Char :=
  let body := inside.dropWhile isBlank
  let reference := trimEnd body
  inside.takeWhile isBlank ++ renameReference reference ++ body.drop reference.length

/-! ## Texts -/

def isBrace (c : Char) : Bool := c == '\x7b' || c == '\x7d'

/-- The inside of a placeholder whose opening braces are just in front of `cs`, and what follows its
closing braces. -/
def inside? (cs : List Char) : Option (List Char × List Char) :=
  match cs.dropWhile (!isBrace ·) with
  | '\x7d' :: '\x7d' :: rest => some (cs.takeWhile (!isBrace ·), rest)
  | _ => none

theorem length_lt_of_inside? {cs inside rest : List Char} (h : inside? cs = some (inside, rest)) :
    rest.length < cs.length := by
  have hle : (cs.dropWhile (!isBrace ·)).length ≤ cs.length :=
    (List.dropWhile_suffix (!isBrace ·)).length_le
  unfold inside? at h
  split at h
  · next tail heq =>
      simp only [Option.some.injEq, Prod.mk.injEq] at h
      rw [heq, h.2] at hle
      simp at hle
      omega
  · cases h

/-- The characters with the reference of every placeholder renamed. -/
def renameChars : List Char → List Char
  | [] => []
  | '\x7b' :: '\x7b' :: cs =>
      match _ : inside? cs with
      | some (inside, rest) =>
          '\x7b' :: '\x7b' :: renameInside inside ++ '\x7d' :: '\x7d' :: renameChars rest
      | none => '\x7b' :: renameChars ('\x7b' :: cs)
  | c :: cs => c :: renameChars cs
termination_by cs => cs.length
decreasing_by
  · have hlt := length_lt_of_inside? (by assumption)
    simp only [List.length_cons]
    omega
  · simp
  · simp

/-- The text with the reference of every placeholder renamed. -/
def renamePlaceholders (text : String) : String := String.ofList (renameChars text.toList)

/-! ## Values -/

namespace Json

mutual

/-- The value with the placeholders of all its strings renamed. The names of fields stay as they
are. -/
def renameTexts : Json → Json
  | string text => string (renamePlaceholders text)
  | list items => list (renameTextsOfItems items)
  | object fields => object (renameTextsOfFields fields)
  | null => null
  | bool value => bool value
  | integer value => integer value
  | double value => double value

/-- The items of a list with the placeholders of all their strings renamed. -/
def renameTextsOfItems : List Json → List Json
  | [] => []
  | item :: rest => renameTexts item :: renameTextsOfItems rest

/-- The fields of an object with the placeholders of all their strings renamed. -/
def renameTextsOfFields : List (String × Json) → List (String × Json)
  | [] => []
  | (name, value) :: rest => (name, renameTexts value) :: renameTextsOfFields rest

end

end Json

end Recipe
