import Recipe.Json.Value
import Recipe.Number.Shortest

/-!
# JSON texts

The two texts of a JSON value: the compact one, without any white space, and the indented one, with
two spaces for each level.
-/

set_option autoImplicit false

namespace Recipe.Json

/-! ## Scalars -/

/-- Numbers are positional from `0.00001` up to sixteen digits before the point; elsewhere they have
an exponent with its sign. -/
def layout : Double.Layout := ⟨-5, 15, true⟩

def hexDigit (value : Nat) : Char := (Nat.digitChar value)

def escaped (c : Char) : List Char :=
  match c with
  | '"' => ['\\', '"']
  | '\\' => ['\\', '\\']
  | '\n' => ['\\', 'n']
  | '\r' => ['\\', 'r']
  | '\t' => ['\\', 't']
  | '\x08' => ['\\', 'b']
  | '\x0c' => ['\\', 'f']
  | c =>
      if c.toNat < 0x20 then
        ['\\', 'u', '0', '0', hexDigit (c.toNat / 16), hexDigit (c.toNat % 16)]
      else [c]

def quoted (text : String) : String :=
  String.ofList ('"' :: text.toList.flatMap escaped ++ ['"'])

/-! ## Compact text -/

mutual

/-- The text of a value without white space. -/
def compact : Json → String
  | null => "null"
  | bool value => if value then "true" else "false"
  | integer value => value.repr
  | double value => value.text layout
  | string value => quoted value
  | list items => "[" ++ ",".intercalate (compactItems items) ++ "]"
  | object fields => "\x7b" ++ ",".intercalate (compactFields fields) ++ "\x7d"

def compactItems : List Json → List String
  | [] => []
  | item :: rest => compact item :: compactItems rest

def compactFields : List (String × Json) → List String
  | [] => []
  | (name, value) :: rest => (quoted name ++ ":" ++ compact value) :: compactFields rest

end

/-! ## Indented text -/

/-- A bracketed group with one part on each line, or nothing between the brackets. -/
def indentedGroup (opening closing : String) (depth : Nat) (parts : List String) : String :=
  let line (depth : Nat) := String.ofList ('\n' :: List.replicate (2 * depth) ' ')
  match parts with
  | [] => opening ++ closing
  | parts =>
      opening ++ line (depth + 1) ++ ("," ++ line (depth + 1)).intercalate parts ++ line depth ++
        closing

mutual

/-- The text of a value at a level of nesting. -/
def indentedAt (depth : Nat) : Json → String
  | list items => indentedGroup "[" "]" depth (indentedItems (depth + 1) items)
  | object fields => indentedGroup "\x7b" "\x7d" depth (indentedFields (depth + 1) fields)
  | null => "null"
  | bool value => if value then "true" else "false"
  | integer value => value.repr
  | double value => value.text layout
  | string value => quoted value

def indentedItems (depth : Nat) : List Json → List String
  | [] => []
  | item :: rest => indentedAt depth item :: indentedItems depth rest

def indentedFields (depth : Nat) : List (String × Json) → List String
  | [] => []
  | (name, value) :: rest =>
      (quoted name ++ ": " ++ indentedAt depth value) :: indentedFields depth rest

end

/-- The text of a value with each part on a line of its own. -/
def indented (value : Json) : String := indentedAt 0 value

end Recipe.Json
