import Recipe.Json.Value
import Recipe.Table
import Recipe.Text.Digit

/-!
# Reading JSON

The reader of JSON texts. A repeated field of an object takes the last value and keeps the first
place. A number is an integer when it is written as one and fits 64 bits, and of double precision
otherwise.
-/

set_option autoImplicit false

namespace Recipe.Json

open Text

/-! ## Numbers -/

/-- The digits of a number as they are read: the leading ones as long as they fit 64 bits. -/
structure Digits where
  significand : Nat
  exponent : Int
  full : Bool

def greatestWord : Nat := Nat.pow 2 64 - 1

/-- The digits before the point. Once they no longer fit, the rest only counts as powers of ten. -/
def Digits.whole (digits : Digits) : List Char → Digits
  | [] => digits
  | c :: rest =>
      let next := digits.significand * 10 + digitValue c
      if digits.full || greatestWord < next then
        Digits.whole { digits with exponent := digits.exponent + 1, full := true } rest
      else Digits.whole { digits with significand := next } rest

/-- The digits after the point, up to the first one that no longer fits. -/
def Digits.fraction (digits : Digits) : List Char → Digits
  | [] => digits
  | c :: rest =>
      let next := digits.significand * 10 + digitValue c
      if greatestWord < next then digits
      else Digits.fraction { digits with significand := next, exponent := digits.exponent - 1 } rest

/-- The value of an integer, or of the number of double precision in its place if it is too large
for 64 bits. A zero with a minus sign is of double precision, which can tell it from zero. -/
def integerOrDouble? (negative : Bool) (digits : Digits) : Option Json :=
  if digits.full then (Double.ofDecimal? negative digits.significand digits.exponent).map double
  else if !negative then some (integer digits.significand)
  else if digits.significand = 0 || Nat.pow 2 63 < digits.significand then
    (Double.ofDecimal? negative digits.significand 0).map double
  else some (integer (-digits.significand))

/-- The exponent after the letter `e`, and what follows it. -/
def exponent? (cs : List Char) : Option (Int × List Char) :=
  let (negative, cs) := match cs with
    | '-' :: rest => (true, rest)
    | '+' :: rest => (false, rest)
    | _ => (false, cs)
  match cs.span Char.isDigit with
  | ([], _) => none
  | (digits, rest) =>
      let size : Int := decimalValue digits
      some (if negative then -size else size, rest)

/-- A number, and what follows it. -/
def number? (cs : List Char) : Option (Json × List Char) := do
  let (negative, cs) := match cs with
    | '-' :: rest => (true, rest)
    | _ => (false, cs)
  let (whole, rest) := cs.span Char.isDigit
  if whole.isEmpty || (whole.head? == some '0' && whole.length != 1) then none
  else
    let digits := Digits.whole ⟨0, 0, false⟩ whole
    let (fraction, rest, pointed) ← match rest with
      | '.' :: rest =>
          match rest.span Char.isDigit with
          | ([], _) => none
          | (fraction, rest) => some (fraction, rest, true)
      | _ => some ([], rest, false)
    let (power, rest, raised) ← match rest with
      | 'e' :: rest | 'E' :: rest => (exponent? rest).map fun (power, rest) => (power, rest, true)
      | _ => some (0, rest, false)
    if pointed || raised then
      let digits := digits.fraction fraction
      let value ← Double.ofDecimal? negative digits.significand (digits.exponent + power)
      return (double value, rest)
    else return (← integerOrDouble? negative digits, rest)

/-! ## Strings -/

def hexUnit? (a b c d : Char) : Option Nat := do
  return (((← hexValue? a) * 16 + (← hexValue? b)) * 16 + (← hexValue? c)) * 16 + (← hexValue? d)

/-- The character behind an escape of one letter. -/
def escapedChar? : Char → Option Char
  | '"' => some '"'
  | '\\' => some '\\'
  | '/' => some '/'
  | 'b' => some '\x08'
  | 'f' => some '\x0c'
  | 'n' => some '\n'
  | 'r' => some '\r'
  | 't' => some '\t'
  | _ => none

/-- The rest of a string after its opening quotation mark, and what follows the closing one. Two
escapes of surrogates are one character; a lone surrogate is refused. -/
def stringBody? (read : List Char) : List Char → Option (String × List Char)
  | '"' :: rest => some (String.ofList read.reverse, rest)
  | '\\' :: 'u' :: a :: b :: c :: d :: rest => do
      let unit ← hexUnit? a b c d
      if unit < 0xD800 || 0xDFFF < unit then stringBody? (Char.ofNat unit :: read) rest
      else if 0xDBFF < unit then none
      else match rest with
        | '\\' :: 'u' :: a :: b :: c :: d :: rest => do
            let low ← hexUnit? a b c d
            if low < 0xDC00 || 0xDFFF < low then none
            else
              let code := 0x10000 + (unit - 0xD800) * 0x400 + (low - 0xDC00)
              stringBody? (Char.ofNat code :: read) rest
        | _ => none
  | '\\' :: c :: rest => do stringBody? ((← escapedChar? c) :: read) rest
  | c :: rest => if c.toNat < 0x20 then none else stringBody? (c :: read) rest
  | [] => none

/-! ## Values -/

/-- Whether the character is white space between the parts of a value. -/
def isSpace (c : Char) : Bool := c == ' ' || c == '\n' || c == '\r' || c == '\t'

def skipSpace (cs : List Char) : List Char := cs.dropWhile isSpace

mutual

/-- A value after optional white space, and what follows it. Each step of nesting or repetition
takes one unit of `fuel` and at least one character. -/
def valueWith? (fuel : Nat) (cs : List Char) : Option (Json × List Char) :=
  match fuel with
  | 0 => none
  | fuel + 1 =>
      match skipSpace cs with
      | 'n' :: 'u' :: 'l' :: 'l' :: rest => some (null, rest)
      | 't' :: 'r' :: 'u' :: 'e' :: rest => some (bool true, rest)
      | 'f' :: 'a' :: 'l' :: 's' :: 'e' :: rest => some (bool false, rest)
      | '"' :: rest => (stringBody? [] rest).map fun (text, rest) => (string text, rest)
      | '[' :: rest =>
          match skipSpace rest with
          | ']' :: rest => some (list [], rest)
          | rest => itemsWith? fuel [] rest
      | '\x7b' :: rest =>
          match skipSpace rest with
          | '\x7d' :: rest => some (object [], rest)
          | rest => fieldsWith? fuel [] rest
      | cs => number? cs

/-- The items of a list up to its closing bracket, after the items `read`, last first. -/
def itemsWith? (fuel : Nat) (read : List Json) (cs : List Char) : Option (Json × List Char) :=
  match fuel with
  | 0 => none
  | fuel + 1 => do
      let (item, rest) ← valueWith? fuel cs
      match skipSpace rest with
      | ',' :: rest => itemsWith? fuel (item :: read) rest
      | ']' :: rest => some (list (item :: read).reverse, rest)
      | _ => none

/-- The fields of an object up to its closing brace, after the fields `read`. -/
def fieldsWith? (fuel : Nat) (read : List (String × Json)) (cs : List Char) :
    Option (Json × List Char) :=
  match fuel with
  | 0 => none
  | fuel + 1 => do
      match skipSpace cs with
      | '"' :: rest =>
          let (name, rest) ← stringBody? [] rest
          match skipSpace rest with
          | ':' :: rest =>
              let (value, rest) ← valueWith? fuel rest
              let read := Table.insert name value read
              match skipSpace rest with
              | ',' :: rest => fieldsWith? fuel read rest
              | '\x7d' :: rest => some (object read, rest)
              | _ => none
          | _ => none
      | _ => none

end

def parse? (text : String) : Option Json :=
  let cs := text.toList
  match valueWith? (cs.length + 1) cs with
  | some (value, rest) => if (skipSpace rest).isEmpty then some value else none
  | none => none

end Recipe.Json
