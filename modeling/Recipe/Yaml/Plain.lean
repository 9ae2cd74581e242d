import Recipe.Number.Double
import Recipe.Text.Digit

/-!
# Texts that read as other scalars

A plain YAML scalar may read as null, as a truth value or as a number. These are the texts that
do, and that have to be quoted where a string is meant.
-/

set_option autoImplicit false

namespace Recipe.Yaml

open Text

/-! ## Names -/

/-- The spellings of null and of the truth values. -/
def reserved : List String :=
  ["null", "Null", "NULL", "~", "true", "True", "TRUE", "false", "False", "FALSE"]

def infinities : List String := [".inf", ".Inf", ".INF"]

def notNumbers : List String := [".nan", ".NaN", ".NAN"]

/-! ## Integers -/

/-- Whether the characters are the digits of a number no greater than `limit`, after the mark of a
base other than ten. -/
def isMarked (limit : Nat) : List Char → Bool
  | '0' :: 'x' :: digits => (valueIn? 16 digits).any (· ≤ limit)
  | '0' :: 'o' :: digits => (valueIn? 8 digits).any (· ≤ limit)
  | '0' :: 'b' :: digits => (valueIn? 2 digits).any (· ≤ limit)
  | _ => false

/-- Whether the characters are an integer with the mark of its base, of 128 bits at most. -/
def isMarkedInteger : List Char → Bool
  | '-' :: rest => isMarked (Nat.pow 2 127) rest
  | '+' :: rest => isMarked (Nat.pow 2 128 - 1) rest
  | cs => isMarked (Nat.pow 2 128 - 1) cs

/-- Whether the characters are digits with a needless zero in front. -/
def hasLeadingZero (cs : List Char) : Bool :=
  let digits := match cs with
    | '-' :: rest | '+' :: rest => rest
    | _ => cs
  match digits with
  | '0' :: c :: rest => (c :: rest).all Char.isDigit
  | _ => false

/-! ## Decimals -/

/-- Whether `0.digits · 10 ^ exponent`, with the point in front of the first digit that is not zero,
is in the range of double precision. -/
def isFinite (digits : List Char) (exponent : Int) : Bool :=
  let significant := digits.dropWhile (· == '0')
  let value := decimalValue significant
  let first := significant.length + exponent
  significant.isEmpty || first ≤ 308 ||
    (first == 309 &&
      (Double.ofRatio? false (value * Nat.pow 10 exponent.toNat)
        (Nat.pow 10 (-exponent).toNat)).isSome)

/-- The exponent of a decimal after its mantissa: none at all, or a mark, a sign and digits. -/
def exponent? : List Char → Option Int
  | [] => some 0
  | c :: rest =>
      if c = 'e' ∨ c = 'E' then
        let (negative, digits) := match rest with
          | '-' :: digits => (true, digits)
          | '+' :: digits => (false, digits)
          | digits => (false, digits)
        (valueIn? 10 digits).map fun value => if negative then -(value : Int) else value
      else none

/-- Whether the characters are a decimal without a sign, in the range of double precision. -/
def isDecimal (cs : List Char) : Bool :=
  let (whole, rest) := cs.span Char.isDigit
  let (fraction, rest) := match rest with
    | '.' :: rest => rest.span Char.isDigit
    | rest => ([], rest)
  match exponent? rest with
  | some exponent =>
      !(whole.isEmpty && fraction.isEmpty) && isFinite (whole ++ fraction) (exponent - fraction.length)
  | none => false

def isSignedDecimal : List Char → Bool
  | '-' :: rest | '+' :: rest => isDecimal rest
  | cs => isDecimal cs

/-! ## Scalars -/

def isSpecialNumber (text : String) : Bool :=
  notNumbers.contains text ||
    infinities.any fun name => text == name || text == "+" ++ name || text == "-" ++ name

/-- Whether a plain text reads as something else than a string, or seems to. -/
def readsAsOther (text : String) : Bool :=
  text.isEmpty || reserved.contains text || isMarkedInteger text.toList ||
    hasLeadingZero text.toList || isSignedDecimal text.toList || isSpecialNumber text

end Recipe.Yaml
