import Recipe.Json.Value
import Recipe.Number.Shortest
import Recipe.Yaml.Scalar

/-!
# YAML documents

The block form of a value as a YAML document. Items of a list stand at the margin of the field that
holds the list; empty lists and objects are written in brackets. A name that is long or has line
breaks is marked with a question mark.
-/

set_option autoImplicit false

namespace Recipe.Yaml

/-- Numbers are laid out as in JSON texts, but a positive exponent has no sign. -/
def layout : Double.Layout := ⟨-5, 15, false⟩

/-! ## Blocks of lines -/

/-- The lines with some text in front of the first. -/
def hang (text : String) : List String → List String
  | [] => []
  | line :: rest => (text ++ line) :: rest

/-- The lines with a margin in front of the first. -/
def indentFirst (indent : Nat) (lines : List String) : List String :=
  hang (String.ofList (margin indent)) lines

/-- Blocks of lines below each other. All but the first get their margin here. -/
def stack (indent : Nat) : List (List String) → List String
  | [] => []
  | block :: rest => block ++ rest.flatMap (indentFirst indent)

/-! ## Names -/

/-- Whether a name can stand in front of its colon without a mark: it has no line breaks and at most
128 bytes. -/
def isSimpleName (name : String) : Bool :=
  !name.toList.any isBreak && name.utf8ByteSize ≤ 128

/-- A simple name as it is written. -/
def nameText (name : String) : String :=
  let cs := name.toList
  match style name with
  | .plain => name
  | .singleQuoted => String.ofList ('\'' :: withDoubledQuotes cs ++ ['\''])
  | _ => String.ofList (doubleQuoted cs)

/-! ## Values -/

/-- Where the value of a field is written: on the line of the name, or below it at a margin. -/
def below? (indent : Nat) : Json → Option Nat
  | .list (_ :: _) => some indent
  | .object (_ :: _) => some (indent + 2)
  | _ => none

mutual

/-- The lines of a value. The first has no margin, as it may follow something on its line. -/
def lines (indent : Nat) : Json → List String
  | .null => ["null\n"]
  | .bool value => [if value then "true\n" else "false\n"]
  | .integer value => [value.repr ++ "\n"]
  | .double value => [value.text layout ++ "\n"]
  | .string text => stringLines indent text
  | .list [] => ["[]\n"]
  | .list (item :: items) => stack indent (itemBlocks indent (item :: items))
  | .object [] => ["\x7b\x7d\n"]
  | .object (field :: fields) => stack indent (fieldBlocks indent (field :: fields))

def itemBlocks (indent : Nat) : List Json → List (List String)
  | [] => []
  | item :: rest => hang "- " (lines (indent + 2) item) :: itemBlocks indent rest

def fieldBlocks (indent : Nat) : List (String × Json) → List (List String)
  | [] => []
  | (name, value) :: rest =>
      let block :=
        if isSimpleName name then
          match below? indent value with
          | some margin => (nameText name ++ ":\n") :: indentFirst margin (lines margin value)
          | none => hang (nameText name ++ ": ") (lines (indent + 2) value)
        else
          hang "? " (stringLines (indent + 2) name) ++
            indentFirst indent (hang ": " (lines (indent + 2) value))
      block :: fieldBlocks indent rest

end

def document (value : Json) : String := "".intercalate (lines 0 value)

end Recipe.Yaml
