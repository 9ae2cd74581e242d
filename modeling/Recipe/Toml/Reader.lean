import Recipe.Text.Digit
import Recipe.Toml.Value

/-!
# Reading TOML

The reader of TOML documents whose values are those of `Toml`. Numbers, dates, arrays with items and
arrays of tables are refused like anything that is not TOML.
-/

set_option autoImplicit false

namespace Recipe.Toml

/-! ## Spaces, line ends and comments -/

/-- Whether the character is a space within a line. -/
def isSpace (c : Char) : Bool := c == ' ' || c == '\t'

/-- Whether the character may not stand in a text or a comment as it is. -/
def isControl (c : Char) : Bool := (c.toNat < 0x20 && c != '\t') || c.toNat == 0x7F

def skipSpace (cs : List Char) : List Char := cs.dropWhile isSpace

/-- What is left after the rest of a line that holds nothing but a comment, its end included. -/
def endLine? (inComment : Bool) : List Char → Option (List Char)
  | [] => some []
  | '\n' :: rest => some rest
  | '\r' :: '\n' :: rest => some rest
  | c :: rest =>
      if inComment then if isControl c then none else endLine? true rest
      else if isSpace c then endLine? false rest
      else if c = '#' then endLine? true rest
      else none

/-- What is left after spaces, line ends and comments. -/
def skipLines? (inComment : Bool) : List Char → Option (List Char)
  | [] => some []
  | '\n' :: rest => skipLines? false rest
  | '\r' :: '\n' :: rest => skipLines? false rest
  | c :: rest =>
      if inComment then if isControl c then none else skipLines? true rest
      else if isSpace c then skipLines? false rest
      else if c = '#' then skipLines? true rest
      else some (c :: rest)

/-! ## Strings -/

/-- The character whose code is given by as many hexadecimal digits as `width` says, and what
follows them. -/
def codedChar? (width : Nat) (cs : List Char) : Option (Char × List Char) := do
  let digits := cs.take width
  if digits.length ≠ width then none
  else
    let code ← Text.valueIn? 16 digits
    if code < 0xD800 ∨ (0xDFFF < code ∧ code < 0x110000) then
      return (Char.ofNat code, cs.drop width)
    else none

/-- The character behind an escape, and what follows it. -/
def escaped? : List Char → Option (Char × List Char)
  | 'b' :: rest => some ('\x08', rest)
  | 't' :: rest => some ('\t', rest)
  | 'n' :: rest => some ('\n', rest)
  | 'f' :: rest => some ('\x0c', rest)
  | 'r' :: rest => some ('\r', rest)
  | 'e' :: rest => some ('\x1b', rest)
  | '"' :: rest => some ('"', rest)
  | '\\' :: rest => some ('\\', rest)
  | 'x' :: rest => codedChar? 2 rest
  | 'u' :: rest => codedChar? 4 rest
  | 'U' :: rest => codedChar? 8 rest
  | _ => none

/-- The rest of a string on one line, after the characters `read`, last first. Each character takes
one unit of `fuel`. -/
def basicWith? (fuel : Nat) (read cs : List Char) : Option (String × List Char) :=
  match fuel, cs with
  | 0, _ => none
  | _, [] => none
  | _ + 1, '"' :: rest => some (String.ofList read.reverse, rest)
  | fuel + 1, '\\' :: rest => do
      let (c, rest) ← escaped? rest
      basicWith? fuel (c :: read) rest
  | fuel + 1, c :: rest => if isControl c then none else basicWith? fuel (c :: read) rest

/-- The rest of a string on one line in which nothing is escaped. -/
def literal? (read : List Char) : List Char → Option (String × List Char)
  | [] => none
  | '\'' :: rest => some (String.ofList read.reverse, rest)
  | c :: rest => if isControl c then none else literal? (c :: read) rest

/-- What is left after a line end at the very start. -/
def skipFirstLineEnd : List Char → List Char
  | '\n' :: rest => rest
  | '\r' :: '\n' :: rest => rest
  | cs => cs

/-- What is left after a backslash that ends its line: all white space up to the next text. -/
def continued? (cs : List Char) : Option (List Char) :=
  match skipSpace cs with
  | '\n' :: rest => some ('\n' :: rest)
  | '\r' :: '\n' :: rest => some ('\n' :: rest)
  | _ => none

def skipWhite : List Char → List Char
  | '\r' :: '\n' :: rest => skipWhite rest
  | c :: rest => if isSpace c || c == '\n' then skipWhite rest else c :: rest
  | [] => []

/-- The end of a string over several lines that closes with three of `quote`: up to two more in
front belong to the string. -/
def closing? (quote : Char) (cs : List Char) : Option (List Char × List Char) :=
  let quotes := (cs.takeWhile (· == quote)).length
  if quotes < 3 then none
  else
    let size := min quotes 5
    some (List.replicate (size - 3) quote, cs.drop size)

/-- The rest of a string over several lines, after the characters `read`, last first. Each character
takes one unit of `fuel`. -/
def multilineWith? (quote : Char) (fuel : Nat) (read cs : List Char) :
    Option (String × List Char) :=
  match fuel with
  | 0 => none
  | fuel + 1 =>
      match closing? quote cs with
      | some (quotes, rest) => some (String.ofList (read.reverse ++ quotes), rest)
      | none =>
          match cs with
          | [] => none
          | '\r' :: '\n' :: rest => multilineWith? quote fuel ('\n' :: '\r' :: read) rest
          | '\n' :: rest => multilineWith? quote fuel ('\n' :: read) rest
          | c :: rest =>
              if c = '\\' ∧ quote = '"' then
                match continued? rest with
                | some rest => multilineWith? quote fuel read (skipWhite rest)
                | none => do
                    let (c, rest) ← escaped? rest
                    multilineWith? quote fuel (c :: read) rest
              else if isControl c then none
              else multilineWith? quote fuel (c :: read) rest

/-- A string of any of the four forms, and what follows it. -/
def string? (cs : List Char) : Option (String × List Char) :=
  match cs with
  | '"' :: '"' :: '"' :: rest => multilineWith? '"' cs.length [] (skipFirstLineEnd rest)
  | '\'' :: '\'' :: '\'' :: rest => multilineWith? '\'' cs.length [] (skipFirstLineEnd rest)
  | '"' :: rest => basicWith? cs.length [] rest
  | '\'' :: rest => literal? [] rest
  | _ => none

/-! ## Keys -/

def isBareKeyChar (c : Char) : Bool := c.isAlphanum || c == '_' || c == '-'

/-- One part of a key, and what follows it. -/
def keyPart? (cs : List Char) : Option (String × List Char) :=
  match cs with
  | '"' :: rest => basicWith? cs.length [] rest
  | '\'' :: rest => literal? [] rest
  | _ =>
      match cs.span isBareKeyChar with
      | ([], _) => none
      | (name, rest) => some (String.ofList name, rest)

/-- A dotted key with the spaces around its parts, and what follows it. Each part takes one unit of
`fuel`. -/
def keyWith? : Nat → List Char → Option (List String × List Char)
  | 0, _ => none
  | fuel + 1, cs => do
      let (part, rest) ← keyPart? (skipSpace cs)
      match skipSpace rest with
      | '.' :: rest =>
          let (path, rest) ← keyWith? fuel rest
          return (part :: path, rest)
      | rest => return ([part], rest)

def key? (cs : List Char) : Option (List String × List Char) := keyWith? (cs.length + 1) cs

/-! ## Values -/

mutual

/-- A value, and what follows it. Each step takes one unit of `fuel`. -/
def valueWith? (fuel : Nat) (cs : List Char) : Option (Toml × List Char) :=
  match fuel with
  | 0 => none
  | fuel + 1 =>
      match cs with
      | 't' :: 'r' :: 'u' :: 'e' :: rest => some (bool true, rest)
      | 'f' :: 'a' :: 'l' :: 's' :: 'e' :: rest => some (bool false, rest)
      | '[' :: rest =>
          match skipLines? false rest with
          | some (']' :: rest) => some (emptyArray, rest)
          | _ => none
      | '\x7b' :: rest =>
          match skipLines? false rest with
          | some ('\x7d' :: rest) => some (table .braces [], rest)
          | some rest => entriesWith? fuel [] rest
          | none => none
      | _ => (string? cs).map fun (text, rest) => (string text, rest)

/-- The entries of a table in braces up to the closing one, after the entries `read`. -/
def entriesWith? (fuel : Nat) (read : List (String × Toml)) (cs : List Char) :
    Option (Toml × List Char) :=
  match fuel with
  | 0 => none
  | fuel + 1 => do
      let (path, rest) ← key? cs
      match ← skipLines? false rest with
      | '=' :: rest =>
          let (value, rest) ← valueWith? fuel (← skipLines? false rest)
          let read ← assign? value path read
          match ← skipLines? false rest with
          | '\x7d' :: rest => some (table .braces read, rest)
          | ',' :: rest =>
              match ← skipLines? false rest with
              | '\x7d' :: rest => some (table .braces read, rest)
              | rest => entriesWith? fuel read rest
          | _ => none
      | _ => none

end

/-! ## Documents -/

/-- The entries of a document, after the entries `read`, with those that follow under the header
`header`. Each line takes one unit of `fuel`. -/
def documentWith? (fuel : Nat) (header : List String) (read : List (String × Toml))
    (cs : List Char) : Option (List (String × Toml)) :=
  match fuel with
  | 0 => none
  | fuel + 1 => do
      match ← skipLines? false cs with
      | [] => return read
      | '[' :: rest =>
          let (path, rest) ← key? rest
          match rest with
          | ']' :: rest =>
              let rest ← endLine? false rest
              documentWith? fuel path (← define? path read) rest
          | _ => none
      | rest =>
          let (path, rest) ← key? rest
          match rest with
          | '=' :: rest =>
              let (value, rest) ← valueWith? (rest.length + 1) (skipSpace rest)
              let rest ← endLine? false rest
              documentWith? fuel header (← within? (assign? value path) header read) rest
          | _ => none

/-- The entries of a TOML document. A byte order mark in front is skipped. -/
def parse? (text : String) : Option (List (String × Toml)) :=
  let cs := match text.toList with
    | '\ufeff' :: rest => rest
    | cs => cs
  documentWith? (cs.length + 1) [] [] cs

end Recipe.Toml
