import Recipe.Text.CaseTable

/-!
# Upper and lower case

Case of single characters and the lowercase form of a text. One letter has two characters in
lowercase, the capital I with a dot, and one letter has two lowercase forms: a capital sigma at the
end of a word becomes the final sigma.
-/

set_option autoImplicit false

namespace Recipe.Text

/-! ## Characters -/

/-- Whether the character has the Unicode property `Uppercase`. -/
def isUpper (c : Char) : Bool := CaseTable.uppercase.any (·.contains c.toNat)

/-- Whether the character has the Unicode property `Lowercase`. -/
def isLower (c : Char) : Bool := CaseTable.lowercase.any (·.contains c.toNat)

/-- Whether the character is a letter with case: upper, lower or title. -/
def isCased (c : Char) : Bool :=
  isUpper c || isLower c || CaseTable.titlecase.any (·.contains c.toNat)

/-- Whether case rules look past the character. -/
def isCaseIgnorable (c : Char) : Bool := CaseTable.ignorable.any (·.contains c.toNat)

/-- The lowercase form of one character: itself where it has none. -/
def lowered (c : Char) : List Char :=
  match (CaseTable.uppercase ++ CaseTable.titlecase).find? (·.contains c.toNat) with
  | some run => Char.ofNat (run.lowered c.toNat) :: (if c = 'İ' then ['\u0307'] else [])
  | none => [c]

/-! ## Texts -/

/-- Whether the first character that case rules do not look past is a letter with case. -/
def startsCased (cs : List Char) : Bool :=
  match cs.dropWhile isCaseIgnorable with
  | [] => false
  | c :: _ => isCased c

/-- The lowercase form of the characters `cs`, where `before` are the characters in front of them,
nearest first. -/
def lowercasedAfter (before : List Char) : List Char → List Char
  | [] => []
  | c :: rest =>
      let form :=
        if c = 'Σ' then [if startsCased before && !startsCased rest then 'ς' else 'σ']
        else lowered c
      form ++ lowercasedAfter (c :: before) rest

def lowercase (text : String) : String := String.ofList (lowercasedAfter [] text.toList)

end Recipe.Text
