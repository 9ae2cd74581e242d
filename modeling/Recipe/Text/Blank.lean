/-!
# White space

The characters with the Unicode property `White_Space`, and texts trimmed of them at both ends.
-/

set_option autoImplicit false

namespace Recipe.Text

/-- The characters with the Unicode property `White_Space`. -/
def isBlank (c : Char) : Bool :=
  let code := c.toNat
  (0x9 ≤ code && code ≤ 0xD) || code == 0x20 || code == 0x85 || code == 0xA0 || code == 0x1680 ||
    (0x2000 ≤ code && code ≤ 0x200A) || code == 0x2028 || code == 0x2029 || code == 0x202F ||
    code == 0x205F || code == 0x3000

def trimEnd (cs : List Char) : List Char := (cs.reverse.dropWhile isBlank).reverse

/-- The characters without the blank ones at either end. -/
def trimmed (cs : List Char) : List Char := trimEnd (cs.dropWhile isBlank)

def trim (text : String) : String := String.ofList (trimmed text.toList)

/-- Whether nothing is left of the text once it is trimmed. -/
def isBlankText (text : String) : Bool := text.toList.all isBlank

end Recipe.Text
