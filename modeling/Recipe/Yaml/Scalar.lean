import Recipe.Yaml.Plain

/-!
# YAML strings

A string is written plainly where it can be. It is put between single quotes where its plain text
would be ambiguous, written as a literal block where it has line breaks, and put between double
quotes, with escapes, where nothing else is left. The style follows from the characters of the
string.
-/

set_option autoImplicit false

namespace Recipe.Yaml

/-! ## Characters -/

def isBreak (c : Char) : Bool :=
  c == '\n' || c == '\r' || c == '\x85' || c == '\u2028' || c == '\u2029'

/-- Whether the character separates words: a space, a tab or a line break. -/
def isSeparator (c : Char) : Bool := c == ' ' || c == '\t' || isBreak c

def isPrintable (c : Char) : Bool :=
  let code := c.toNat
  code == 0xA || (0x20 ≤ code && code ≤ 0x7E) || (0xA0 ≤ code && code ≤ 0xD7FF) ||
    (0xE000 ≤ code && code ≤ 0xFFFD && code != 0xFEFF) || 0x10000 ≤ code

/-- The characters that open something else than a plain text. -/
def opening : List Char :=
  ['#', ',', '[', ']', '\x7b', '\x7d', '&', '*', '!', '|', '>', '\'', '"', '%', '@', '\x60']

/-! ## Properties of strings -/

/-- Whether a word ends here: nothing follows, or a separator. -/
def endsWord (rest : List Char) : Bool := rest.head?.all isSeparator

/-- Whether the characters after the first one would end a plain text: a colon at the end of a word,
or a number sign at the start of one, as `atStart` says. -/
def hasInnerMark (atStart : Bool) : List Char → Bool
  | [] => false
  | c :: rest =>
      (c == ':' && endsWord rest) || (c == '#' && atStart) || hasInnerMark (isSeparator c) rest

/-- Whether a plain text of these characters would be read as something else. -/
def hasMark (cs : List Char) : Bool :=
  match cs with
  | [] => false
  | c :: rest =>
      ['-', '-', '-'].isPrefixOf cs || ['.', '.', '.'].isPrefixOf cs || opening.contains c ||
        (['?', ':', '-'].contains c && endsWord rest) || hasInnerMark (isSeparator c) rest

/-- Whether two characters in a row have the two properties. -/
def hasPair (first second : Char → Bool) : List Char → Bool
  | a :: b :: rest => (first a && second b) || hasPair first second (b :: rest)
  | _ => false

def isSpace (c : Char) : Bool := c == ' '

/-- Whether some character needs an escape, or a space before a line break would be lost. -/
def needsEscapes (cs : List Char) : Bool :=
  cs.any (!isPrintable ·) || hasPair isSpace isBreak cs

/-- Whether the characters can be written as they are. -/
def allowsPlain (cs : List Char) : Bool :=
  !(cs.any isBreak || cs.head?.any isSpace || cs.getLast?.any isSpace || needsEscapes cs ||
    hasMark cs)

def allowsSingleQuotes (cs : List Char) : Bool :=
  !(hasPair isBreak isSpace cs || needsEscapes cs)

def allowsLiteral (cs : List Char) : Bool := !(cs.getLast?.any isSpace || needsEscapes cs)

/-! ## Styles -/

inductive Style
  | plain
  | singleQuoted
  | doubleQuoted
  | literal
deriving DecidableEq

def style (text : String) : Style :=
  let cs := text.toList
  if cs.contains '\n' then
    if allowsLiteral cs then .literal else .doubleQuoted
  else if !readsAsOther text && allowsPlain cs then .plain
  else if allowsSingleQuotes cs then .singleQuoted
  else .doubleQuoted

/-! ## Lines -/

def margin (indent : Nat) : List Char := List.replicate indent ' '

/-- The characters in lines, each with the break that ends it; the last one has none. -/
def brokenLines : List Char → List (List Char) × List Char
  | [] => ([], [])
  | c :: rest =>
      let (lines, last) := brokenLines rest
      if isBreak c then ([c] :: lines, last)
      else match lines with
        | [] => ([], c :: last)
        | line :: lines => ((c :: line) :: lines, last)

/-- A line with its margin, unless it is empty. -/
def withMargin (indent : Nat) (line : List Char) : List Char :=
  if line.head?.all isBreak then line else margin indent ++ line

def withDoubledQuotes (cs : List Char) : List Char :=
  cs.flatMap fun c => if c = '\'' then ['\'', '\''] else [c]

def singleQuotedLines (indent : Nat) (cs : List Char) : List (List Char) :=
  match brokenLines (withDoubledQuotes cs) with
  | ([], last) => ['\'' :: last ++ ['\'', '\n']]
  | (first :: middle, last) =>
      ('\'' :: first) :: middle.map (withMargin indent) ++
        [margin indent ++ last ++ ['\'', '\n']]

/-- The hints after the bar of a literal block: the margin, if the first line does not show it, and
what becomes of the line breaks at the end. -/
def literalHints (cs : List Char) : List Char :=
  let marginHint := if cs.head?.any fun c => isSpace c || isBreak c then ['2'] else []
  let endHint := match cs.reverse with
    | [] => ['-']
    | [c] => if isBreak c then ['+'] else ['-']
    | c :: before :: _ => if !isBreak c then ['-'] else if isBreak before then ['+'] else []
  marginHint ++ endHint

def literalLines (indent : Nat) (cs : List Char) : List (List Char) :=
  let (lines, last) := brokenLines cs
  ('|' :: literalHints cs ++ ['\n']) :: lines.map (withMargin indent) ++
    (if last.isEmpty then [] else [margin indent ++ last ++ ['\n']])

def hexadecimal (width value : Nat) : List Char :=
  let digits := (Nat.toDigits 16 value).map Char.toUpper
  List.replicate (width - digits.length) '0' ++ digits

/-- The escape of a character between double quotes. -/
def escape (c : Char) : List Char :=
  match c.toNat with
  | 0x00 => ['\\', '0']
  | 0x07 => ['\\', 'a']
  | 0x08 => ['\\', 'b']
  | 0x09 => ['\\', 't']
  | 0x0A => ['\\', 'n']
  | 0x0B => ['\\', 'v']
  | 0x0C => ['\\', 'f']
  | 0x0D => ['\\', 'r']
  | 0x1B => ['\\', 'e']
  | 0x22 => ['\\', '"']
  | 0x5C => ['\\', '\\']
  | 0x85 => ['\\', 'N']
  | 0x2028 => ['\\', 'L']
  | 0x2029 => ['\\', 'P']
  | code =>
      if code ≤ 0xFF then '\\' :: 'x' :: hexadecimal 2 code
      else if code ≤ 0xFFFF then '\\' :: 'u' :: hexadecimal 4 code
      else '\\' :: 'U' :: hexadecimal 8 code

def doubleQuoted (cs : List Char) : List Char :=
  let inside := cs.flatMap fun c =>
    if !isPrintable c || isBreak c || c == '"' || c == '\\' then escape c else [c]
  '"' :: inside ++ ['"']

/-- The lines of a string, each with its end. Lines after the first have a margin. -/
def stringLines (indent : Nat) (text : String) : List String :=
  let cs := text.toList
  let lines := match style text with
    | .plain => [cs ++ ['\n']]
    | .singleQuoted => singleQuotedLines indent cs
    | .doubleQuoted => [doubleQuoted cs ++ ['\n']]
    | .literal => literalLines indent cs
  lines.map String.ofList

end Recipe.Yaml
