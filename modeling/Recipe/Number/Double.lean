/-!
# Double precision numbers

A finite binary number `± mantissa · 2 ^ exponent` of double precision, held by its parts, and the
one operation everything else is made of: rounding a ratio of natural numbers to the nearest such
number, with ties to the even mantissa.
-/

set_option autoImplicit false

namespace Recipe

/-- A finite number of double precision, `± mantissa · 2 ^ exponent`. A mantissa is below `2 ^ 53`
and an exponent at least `-1074`; a mantissa below `2 ^ 52` has the least exponent. -/
structure Double where
  negative : Bool
  mantissa : Nat
  exponent : Int
deriving DecidableEq

namespace Double

def leastExponent : Int := -1074

def greatestExponent : Int := 971

def zero (negative : Bool) : Double := ⟨negative, 0, leastExponent⟩

/-- The quotient rounded to the nearest natural number, a tie going to the even one. -/
def roundedQuotient (num den : Nat) : Nat :=
  let quotient := num / den
  let twice := 2 * (num % den)
  if den < twice || (twice == den && quotient % 2 == 1) then quotient + 1 else quotient

/-- The number `num / den` divided by `2 ^ exponent`, as a ratio of natural numbers. -/
def scaledDown (num den : Nat) (exponent : Int) : Nat × Nat :=
  (num * Nat.pow 2 (-exponent).toNat, den * Nat.pow 2 exponent.toNat)

/-- The exponent at which `num / den` has a mantissa of 53 bits, or the least exponent. -/
def exponentOf (num den : Nat) : Int :=
  let guess : Int := (num.log2 : Int) - (den.log2 : Int) - 52
  let (scaledNum, scaledDen) := scaledDown num den guess
  max leastExponent (if scaledNum < scaledDen * Nat.pow 2 52 then guess - 1 else guess)

/-- The number nearest to `num / den`, or nothing if that is too large. -/
def ofRatio? (negative : Bool) (num den : Nat) : Option Double :=
  if num = 0 then some (zero negative)
  else
    let exponent := exponentOf num den
    let (scaledNum, scaledDen) := scaledDown num den exponent
    let rounded := roundedQuotient scaledNum scaledDen
    let result : Double :=
      if rounded = Nat.pow 2 53 then ⟨negative, Nat.pow 2 52, exponent + 1⟩
      else ⟨negative, rounded, exponent⟩
    if result.exponent ≤ greatestExponent then some result else none

/-- The size of the number as a ratio of natural numbers. -/
def ratio (x : Double) : Nat × Nat :=
  (x.mantissa * Nat.pow 2 x.exponent.toNat, Nat.pow 2 (-x.exponent).toNat)

/-- The product, rounded, with the sign of the first factor. -/
def scaleBy? (x y : Double) : Option Double :=
  ofRatio? x.negative (x.ratio.1 * y.ratio.1) (x.ratio.2 * y.ratio.2)

/-- The quotient, rounded, with the sign of the dividend. -/
def divideBy? (x y : Double) : Option Double :=
  ofRatio? x.negative (x.ratio.1 * y.ratio.2) (x.ratio.2 * y.ratio.1)

/-! ## Reading decimals -/

def greatestPowerOfTen : Nat := 308

/-- The number divided by `10 ^ power`, in steps of the greatest power of ten. -/
def divideByPowerOfTen? (x : Double) (power : Nat) : Option Double :=
  if x.mantissa = 0 then some x
  else if h : power ≤ greatestPowerOfTen then
    (ofRatio? false (Nat.pow 10 power) 1).bind x.divideBy?
  else do
    let step ← ofRatio? false (Nat.pow 10 greatestPowerOfTen) 1
    let next ← x.divideBy? step
    next.divideByPowerOfTen? (power - greatestPowerOfTen)
termination_by power
decreasing_by
  simp only [greatestPowerOfTen] at h ⊢
  omega

/-- The number `± significand · 10 ^ exponent`: the significand is rounded first and then scaled,
each time to the nearest number. Nothing if the number is too large. -/
def ofDecimal? (negative : Bool) (significand : Nat) (exponent : Int) : Option Double := do
  let rounded ← ofRatio? negative significand 1
  if exponent < 0 then rounded.divideByPowerOfTen? (-exponent).toNat
  else if rounded.mantissa = 0 then some rounded
  else if exponent.toNat ≤ greatestPowerOfTen then
    (ofRatio? false (Nat.pow 10 exponent.toNat) 1).bind rounded.scaleBy?
  else none

end Double

end Recipe
