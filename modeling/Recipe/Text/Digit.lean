/-!
# Digits

The values of digits, and of numbers written in them.
-/

set_option autoImplicit false

namespace Recipe.Text

def digitValue (c : Char) : Nat := c.toNat - '0'.toNat

/-- The value of a digit up to `f`, in upper or lower case. -/
def hexValue? (c : Char) : Option Nat :=
  if c.isDigit then some (digitValue c)
  else if 'a' ≤ c ∧ c ≤ 'f' then some (c.toNat - 'a'.toNat + 10)
  else if 'A' ≤ c ∧ c ≤ 'F' then some (c.toNat - 'A'.toNat + 10)
  else none

def decimalValue (digits : List Char) : Nat :=
  digits.foldl (fun value c => value * 10 + digitValue c) 0

/-- The value of digits to a base up to sixteen, at least one of them. -/
def valueIn? (base : Nat) (digits : List Char) : Option Nat :=
  if digits.isEmpty then none
  else digits.foldlM (fun value c => do
    let digit ← hexValue? c
    if digit < base then some (value * base + digit) else none) 0

end Recipe.Text
