import Recipe.Text.Blank
import Recipe.Text.Letter

/-!
# Canonical names

Recipes spell parameters in `snake_case` and templates in `CamelCase`; compiled graphs have
hyphenated names only. Parameters, tasks and their outputs share the rule of `paramName`.
-/

set_option autoImplicit false

namespace Recipe

open Text

/-! ## Parameters -/

/-- The character with an underscore made a hyphen. -/
def hyphenated (c : Char) : Char := if c = '_' then '-' else c

/-- The canonical name of a parameter, a task or an output: trimmed, and hyphens for underscores. -/
def paramName (name : String) : String :=
  String.ofList ((trimmed name.toList).map hyphenated)

/-! ## Templates -/

/-- Whether the character separates the words of a template's name. -/
def isSeparator (c : Char) : Bool := c == '_' || c == '-' || isBlank c

/-- The characters written so far, last first, with a hyphen in front of the next word. There is
never a hyphen at the start, nor two in a row. -/
def closeWord : List Char → List Char
  | [] => []
  | '-' :: written => '-' :: written
  | written => '-' :: written

/-- The rest of a template's name after `written`, last first. A capital starts a word when the
character before it was a lowercase letter or a digit, as `inWord` says. -/
def spellTemplate (written : List Char) (inWord : Bool) : List Char → List Char
  | [] => written.reverse
  | c :: rest =>
      if isSeparator c then spellTemplate (closeWord written) false rest
      else if isUpper c then
        let start := if inWord then closeWord written else written
        spellTemplate ((lowered c).reverse ++ start) false rest
      else spellTemplate (c :: written) (isLower c || c.isDigit) rest

/-- The canonical name of a template: lowercase words joined by hyphens. -/
def templateName (name : String) : String :=
  String.ofList (spellTemplate [] false (trimmed name.toList))

end Recipe
